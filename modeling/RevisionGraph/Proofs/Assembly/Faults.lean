import RevisionGraph.Proofs.Assembly.Order
import RevisionGraph.Proofs.Assembly.Outcome
import RevisionGraph.Proofs.Revision.Shape

/-!
# How making a revision from facts fails

Reading facts, registering what they report and building a revision of it fail with a fault that
blames a document: its shape, parts that do not fit together, or a value in it.  None of them speaks
for an analysis, so who runs one has to say what such a fault means: `Assembly.buildFrom_blames`.
-/

set_option autoImplicit false

namespace RevisionGraph

open Result

/-- The fault is about the shape of a document, about parts that do not fit together, or about a
value that cannot be turned into another. -/
inductive Fault.BlamesDocument : Fault → Prop
  | format (cause : FormatFault) : BlamesDocument (.format cause)
  | invariant (cause : InvariantFault) : BlamesDocument (.invariant cause)
  | conversion (cause : ConversionFault) : BlamesDocument (.conversion cause)

/-- The fault is about the shape of a document, or about parts that do not fit together. -/
inductive Fault.IsRefusal : Fault → Prop
  | format (cause : FormatFault) : IsRefusal (.format cause)
  | invariant (cause : InvariantFault) : IsRefusal (.invariant cause)

theorem Fault.IsRefusal.blamesDocument {e : Fault} (h : e.IsRefusal) : e.BlamesDocument := by
  cases h with
  | format cause => exact .format cause
  | invariant cause => exact .invariant cause

theorem Fault.BlamesDocument.ne_analysis {e : Fault} (h : e.BlamesDocument)
    (cause : AnalysisFault) : e ≠ .analysis cause := by
  cases h <;> rintro ⟨⟩

theorem Result.Decides.isRefusal {α : Type} {r : Result α} {p : Prop} (h : Decides r p) :
    FailsWith r Fault.IsRefusal :=
  h.failsWith.mono fun _ ⟨cause, he⟩ ↦ he ▸ .format cause

theorem Result.Decides.blames {α : Type} {r : Result α} {p : Prop} (h : Decides r p) :
    FailsWith r Fault.BlamesDocument :=
  h.isRefusal.mono fun _ ↦ Fault.IsRefusal.blamesDocument

/-! ## Reading facts -/

theorem Json.Misread.blames_fault (m : Json.Misread) (wrap : String → FormatFault) :
    (m.fault wrap).BlamesDocument := by
  cases m with
  | malformed defect line column position => exact .format _
  | tooManyDigits n => exact .conversion _

namespace Facts

theorem ofLine_blames (number : Nat) (line : String) :
    FailsWith (ofLine number line) Fault.BlamesDocument := by
  rw [ofLine]
  split
  · next m _ => exact .error (m.blames_fault _)
  · split
    · exact .ok _
    · exact .error (.format _)

theorem ofLines_blames (number : Nat) (lines : List String) :
    FailsWith (ofLines number lines) Fault.BlamesDocument := by
  induction lines generalizing number with
  | nil => exact .ok []
  | cons line rest ih =>
    rw [ofLines]
    split
    · exact ih (number + 1)
    · exact (ofLine_blames number _).bind fun _ _ ↦ (ih (number + 1)).bind fun _ _ ↦ .ok _

theorem identifierField_isRefusal (k : Kind) (key : String) (fact : Json) :
    FailsWith (identifierField k key fact) Fault.IsRefusal :=
  Json.textField_decides.isRefusal.bind fun s _ ↦ (Identifier.ofText_decides s).isRefusal

theorem identifierField_blames (k : Kind) (key : String) (fact : Json) :
    FailsWith (identifierField k key fact) Fault.BlamesDocument :=
  (identifierField_isRefusal k key fact).mono fun _ ↦ Fault.IsRefusal.blamesDocument

theorem ancestors_blames (key : String) (fact : Json) :
    FailsWith (ancestors key fact) Fault.BlamesDocument := by
  rw [ancestors]
  split
  · exact .ok []
  · exact .mapM fun item _ ↦ (Identifier.ofJson_decides item).blames
  · exact .mapM fun c _ ↦ (Identifier.ofText_decides _).blames
  · exact .mapM fun m _ ↦ (Identifier.ofText_decides m.1).blames
  · exact .error (.conversion _)

theorem readType_blames (fact : Json) : FailsWith (readType fact) Fault.BlamesDocument := by
  refine (identifierField_blames _ _ fact).bind fun _ _ ↦ ?_
  refine Json.textField_decides.blames.bind fun _ _ ↦ ?_
  exact (ancestors_blames _ fact).bind fun _ _ ↦ (ancestors_blames _ fact).bind fun _ _ ↦ .ok _

/-- Facts on methods and on calls have no lists in them. -/
theorem readMethod_isRefusal (fact : Json) : FailsWith (readMethod fact) Fault.IsRefusal :=
  (identifierField_isRefusal _ _ fact).bind fun _ _ ↦
    (identifierField_isRefusal _ _ fact).bind fun _ _ ↦ .ok _

theorem readCall_isRefusal (fact : Json) : FailsWith (readCall fact) Fault.IsRefusal := by
  refine (identifierField_isRefusal _ _ fact).bind fun _ _ ↦ ?_
  refine (identifierField_isRefusal _ _ fact).bind fun _ _ ↦ ?_
  exact Json.textField_decides.isRefusal.bind fun _ _ ↦ .ok _

end Facts

/-! ## Registering what they report -/

namespace Assembly

theorem addMethod_isRefusal (a : Assembly) (type method : Identifier) :
    FailsWith (a.addMethod type method).2 Fault.IsRefusal := by
  rw [addMethod]
  split
  · exact .error (.invariant _)
  split
  · split
    · exact .ok _
    · exact .error (.invariant _)
  · exact .ok _

end Assembly

namespace Facts

theorem apply_isRefusal (a : Assembly) {fact : Json} (h : ¬ isOfKind .type fact = true) :
    FailsWith (apply a fact).2 Fault.IsRefusal := by
  rw [apply, if_neg h]
  split
  · split
    · next e he => exact .error (readMethod_isRefusal fact e he)
    · next type method _ =>
      have hadd := a.addMethod_isRefusal type method
      rcases a.addMethod_cases type method with ⟨b, id, heq⟩ | ⟨e, heq⟩
      · simp only [heq]
        exact .ok _
      · rw [heq] at hadd
        simp only [heq]
        exact .error (hadd e rfl)
  split
  · split
    · next e he => exact .error (readCall_isRefusal fact e he)
    · exact .ok _
  · exact .ok _

theorem apply_blames (a : Assembly) (fact : Json) :
    FailsWith (apply a fact).2 Fault.BlamesDocument := by
  by_cases htype : isOfKind .type fact = true
  · rw [apply, if_pos htype]
    split
    · next e he => exact .error (readType_blames fact e he)
    · exact .ok _
  · exact (apply_isRefusal a htype).mono fun _ ↦ Fault.IsRefusal.blamesDocument

theorem applyAll_blames (a : Assembly) (facts : List Json) :
    FailsWith (applyAll a facts).2 Fault.BlamesDocument := by
  induction facts generalizing a with
  | nil => exact .ok ()
  | cons fact rest ih =>
    have hfact := apply_blames a fact
    rw [applyAll]
    rcases apply_cases a fact with ⟨b, h⟩ | ⟨e, h⟩ <;> rw [h] at hfact ⊢
    · exact ih b
    · exact .error (hfact e rfl)

end Facts

/-! ## Building -/

theorem Count.next_blames (c : Count) : FailsWith c.next Fault.BlamesDocument := by
  rw [next]
  split
  · exact .error (.conversion _)
  split
  · exact .ok _
  · exact .error (.conversion _)

theorem CallGraph.addExternal_blames (g : CallGraph) (source : MethodId) (target : Identifier)
    (callType : String) :
    FailsWith (g.addExternal source target callType) Fault.BlamesDocument := by
  rw [addExternal, tallyExternal_eq g ⟨source, target⟩]
  cases hnext : ((g.count? ⟨source, target⟩ callType).getD (.ofNat 0)).next with
  | ok c => exact .ok _
  | error e => exact .error (Count.next_blames _ e hnext)

theorem Revision.Parts.revision_blames (p : Revision.Parts) :
    FailsWith p.revision Fault.BlamesDocument := by
  rcases p.revision_cases with ⟨-, hok⟩ | ⟨-, cause, herror⟩
  · rw [hok]
    exact .ok _
  · rw [herror]
    exact .error (.invariant cause)

theorem Draft.build_blames (d : Draft) : FailsWith d.build Fault.BlamesDocument := by
  refine FailsWith.bind ?_ fun p _ ↦ p.revision_blames
  rw [parts]
  split
  · exact .ok _
  · exact .error (.format _)

namespace Assembly

theorem applyFacts_blames (a : Assembly) (lines : List String) :
    FailsWith (a.applyFacts lines).2 Fault.BlamesDocument := by
  rw [applyFacts]
  split
  · next e h => exact .error (Facts.ofLines_blames 1 lines e h)
  · next facts _ =>
    have hall := Facts.applyAll_blames a (Facts.inOrder facts)
    simp only
    cases hresult : (Facts.applyAll a (Facts.inOrder facts)).2 with
    | ok _ => exact .ok _
    | error e => exact .error (hall e hresult)

theorem resolve_blames (a : Assembly) (g : CallGraph) (n : Nat) (calls : List CallSite) :
    FailsWith (a.resolve g n calls).2 Fault.BlamesDocument := by
  induction calls generalizing g n with
  | nil => exact .ok g
  | cons c rest ih =>
    rw [resolve]
    split
    · exact .error (.invariant _)
    split
    · exact ih _ n
    split
    · next e h => exact .error (g.addExternal_blames _ _ _ e h)
    · exact ih _ (n + 1)

theorem build_blames (a : Assembly) (r : Release) :
    FailsWith (a.build r).2 Fault.BlamesDocument := by
  rw [snd_build, snd_buildGraph]
  exact (a.resolve_blames .empty 0 a.calls).bind fun _ _ ↦ Draft.build_blames _

/-- **Making a revision from facts fails with a fault that blames a document.** -/
theorem buildFrom_blames (lines : List String) (release : Release) :
    FailsWith (buildFrom lines release) Fault.BlamesDocument := by
  have happly := empty.applyFacts_blames lines
  rw [buildFrom]
  split
  · next a _ _ => exact a.build_blames release
  · next e h =>
    rw [h] at happly
    exact .error (happly e rfl)

/-- A revision that is built is valid, and has the fields of its release. -/
theorem revision_of_build {a : Assembly} {release : Release} {r : Revision}
    (h : (a.build release).2 = .ok r) : r.validate = .ok () ∧ r.forge = release.forge ∧
      r.product = release.product ∧ r.version = release.version ∧
        r.generator = release.generator := by
  obtain ⟨g, -, -, rfl, hvalid⟩ := build_eq_ok_iff.mp h
  exact ⟨Revision.validate_eq_ok_iff.mpr hvalid, rfl, rfl, rfl, rfl⟩

end Assembly

end RevisionGraph
