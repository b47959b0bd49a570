import RevisionGraph.Assembly.Facts
import RevisionGraph.Proofs.Assembly.Registry
import RevisionGraph.Proofs.Json.Field

/-!
# What facts report

Applying facts does two things that have nothing to do with each other: it reads them, which no
assembly has a part in, and it registers what they report, which cannot fail for their shape.

* **Reading.**  `Facts.Reports` is what facts report, kind by kind, and `Reports.AreOf` says that
  they are what the facts report.
* **Registering.**  `Assembly.take` registers types, methods and calls, in this order.

`Assembly.applyFacts_eq_ok_iff` puts the two together.
-/

set_option autoImplicit false

namespace RevisionGraph

open Result

namespace Facts

/-! ## Lines -/

/-- The fact on a line. -/
def onLine? (line : String) : Option Json :=
  match Json.read (Text.trim line) with
  | .ok fact => if Json.Kind.object.admits fact then some fact else none
  | .error _ => none

theorem ofLine_eq_ok_iff {number : Nat} {line : String} {fact : Json} :
    ofLine number (Text.trim line) = .ok fact ↔ onLine? line = some fact := by
  rw [ofLine, onLine?]
  cases Json.read (Text.trim line) with
  | error e => exact iff_of_false (by rintro ⟨⟩) (by rintro ⟨⟩)
  | ok value =>
    simp only
    split
    · rw [Except.ok.injEq, Option.some.injEq]
    · exact iff_of_false (by rintro ⟨⟩) (by rintro ⟨⟩)

theorem onLine?_eq_none_of_trim {line : String} (h : Text.trim line = "") :
    onLine? line = none := by
  rw [onLine?, h]
  rfl

/-- Lines are read when each of them is blank or holds a fact; their numbers do not matter. -/
theorem ofLines_eq_ok_iff {number : Nat} {lines : List String} {facts : List Json} :
    ofLines number lines = .ok facts ↔
      (∀ line ∈ lines, Text.trim line = "" ∨ (onLine? line).isSome) ∧
        facts = lines.filterMap onLine? := by
  induction lines generalizing number facts with
  | nil =>
    rw [ofLines, Except.ok.injEq, List.filterMap_nil]
    exact ⟨fun h ↦ ⟨by rintro _ ⟨⟩, h.symm⟩, fun h ↦ h.2.symm⟩
  | cons line rest ih =>
    rw [ofLines, List.forall_mem_cons]
    split
    · next hblank =>
      rw [ih, List.filterMap_cons_none (onLine?_eq_none_of_trim hblank)]
      simp [hblank]
    · next hblank =>
      rw [bind_eq_ok_iff]
      constructor
      · rintro ⟨fact, hfact, h⟩
        rw [bind_eq_ok_iff] at h
        obtain ⟨others, hothers, h⟩ := h
        cases h
        rw [ofLine_eq_ok_iff] at hfact
        obtain ⟨hall, rfl⟩ := ih.mp hothers
        rw [List.filterMap_cons_some hfact]
        exact ⟨⟨.inr (by rw [hfact]; rfl), hall⟩, rfl⟩
      · rintro ⟨⟨hline, hall⟩, rfl⟩
        obtain ⟨fact, hfact⟩ := Option.isSome_iff_exists.mp (hline.resolve_left hblank)
        refine ⟨fact, ofLine_eq_ok_iff.mpr hfact, ?_⟩
        rw [bind_eq_ok_iff, List.filterMap_cons_some hfact]
        exact ⟨_, ih.mpr ⟨hall, rfl⟩, rfl⟩

/-! ## Reading facts -/

theorem isOfKind_unique {k k' : Kind} {fact : Json} (h : isOfKind k fact = true)
    (h' : isOfKind k' fact = true) : k = k' := by
  rw [isOfKind, beq_iff_eq] at h h'
  rw [h] at h'
  cases k <;> cases k' <;> first | rfl | exact absurd h' (by decide)

end Facts

namespace Assembly

/-- Registers a reported type. -/
def takeType (a : Assembly) (e : Identifier × TypeInfo) : Assembly :=
  a.addType e.1 e.2.sourceFile e.2.superClasses e.2.superInterfaces

/-- Registers a reported method. -/
def takeMethod (a : Assembly) (m : Identifier × Identifier) : Result Assembly :=
  let (b, result) := a.addMethod m.1 m.2
  result.map fun _ ↦ b

/-- Records a reported call. -/
def takeCall (a : Assembly) (c : CallSite) : Assembly := a.addCall c.source c.target c.callType

end Assembly

namespace Facts

variable {a b c : Assembly} {fact : Json}

/-- The assembly with one more fact applied. -/
def applied (a : Assembly) (fact : Json) : Result Assembly :=
  let (b, result) := apply a fact
  result.map fun _ ↦ b

theorem applied_eq_ok_iff : applied a fact = .ok b ↔ apply a fact = (b, .ok ()) := by
  rw [applied]
  cases apply a fact with
  | mk c result => cases result <;> simp [Except.map]

theorem applied_type (h : isOfKind .type fact = true) (a : Assembly) :
    applied a fact = readType fact >>= fun e ↦ .ok (a.takeType e) := by
  rw [applied, apply, if_pos h]
  cases readType fact <;> rfl

theorem not_isOfKind {k k' : Kind} (h : isOfKind k fact = true) (hne : k' ≠ k) :
    ¬ isOfKind k' fact = true := fun h' ↦ hne (isOfKind_unique h' h)

theorem applied_method (h : isOfKind .method fact = true) (a : Assembly) :
    applied a fact = readMethod fact >>= a.takeMethod := by
  rw [applied, apply, if_neg (not_isOfKind h (by decide)), if_pos h]
  cases readMethod fact with
  | error e => rfl
  | ok m =>
    rw [bind_of_eq_ok rfl, Assembly.takeMethod]
    rcases a.addMethod_cases m.1 m.2 with ⟨b, id, hadd⟩ | ⟨e, hadd⟩ <;> simp only [hadd] <;> rfl

theorem applied_call (h : isOfKind .call fact = true) (a : Assembly) :
    applied a fact = readCall fact >>= fun c ↦ .ok (a.takeCall c) := by
  rw [applied, apply, if_neg (not_isOfKind h (by decide)), if_neg (not_isOfKind h (by decide)),
    if_pos h]
  cases readCall fact <;> rfl

/-- **A fact is applied, or it is refused**, and then the assembly is as it was. -/
theorem apply_cases (a : Assembly) (fact : Json) :
    (∃ b, apply a fact = (b, .ok ())) ∨ ∃ e, apply a fact = (a, .error e) := by
  rw [apply]
  split
  · cases readType fact with
    | error e => exact .inr ⟨e, rfl⟩
    | ok t => exact .inl ⟨_, rfl⟩
  split
  · cases readMethod fact with
    | error e => exact .inr ⟨e, rfl⟩
    | ok m =>
      rcases a.addMethod_cases m.1 m.2 with ⟨b, id, hadd⟩ | ⟨e, hadd⟩
      · exact .inl ⟨b, by simp only [hadd]; rfl⟩
      · exact .inr ⟨e, by simp only [hadd]; rfl⟩
  split
  · cases readCall fact with
    | error e => exact .inr ⟨e, rfl⟩
    | ok c => exact .inl ⟨_, rfl⟩
  · exact .inl ⟨a, rfl⟩

theorem applied_eq_error_iff {e : Fault} :
    applied a fact = .error e ↔ apply a fact = (a, .error e) := by
  rw [applied]
  rcases apply_cases a fact with ⟨b, h⟩ | ⟨e', h⟩ <;> simp [h, Except.map]

/-! ## Applying facts -/

theorem applyAll_append_eq_ok_iff {xs ys : List Json} :
    applyAll a (xs ++ ys) = (c, .ok ()) ↔
      ∃ b, applyAll a xs = (b, .ok ()) ∧ applyAll b ys = (c, .ok ()) := by
  induction xs generalizing a with
  | nil => simp [applyAll]
  | cons fact rest ih =>
    rw [List.cons_append, applyAll, applyAll]
    cases apply a fact with
    | mk b result => cases result with
      | error e => simp
      | ok _ => exact ih

/-- Facts that are read and then taken are read all at once and then taken one by one. -/
theorem applyAll_eq_ok_iff {β : Type} {read : Json → Result β}
    {take : Assembly → β → Result Assembly} {facts : List Json}
    (hfacts : ∀ fact ∈ facts, ∀ a, applied a fact = read fact >>= take a) :
    applyAll a facts = (b, .ok ()) ↔
      ∃ xs, List.Forall₂ (fun fact x ↦ read fact = .ok x) facts xs ∧ xs.foldlM take a = .ok b := by
  induction facts generalizing a with
  | nil =>
    simp only [List.forall₂_nil_left_iff, exists_eq_left, List.foldlM_nil]
    constructor
    · intro h
      cases h
      rfl
    · intro h
      cases h
      rfl
  | cons fact rest ih =>
    rw [List.forall_mem_cons] at hfacts
    rw [applyAll]
    simp only [List.forall₂_cons_left_iff]
    constructor
    · intro h
      split at h
      · cases h
      next c _ hc =>
      have hfact := (hfacts.1 a).symm.trans (applied_eq_ok_iff.mpr hc)
      obtain ⟨x, hx, htake⟩ := bind_eq_ok_iff.mp hfact
      obtain ⟨xs, hxs, hfold⟩ := (ih hfacts.2).mp h
      refine ⟨x :: xs, ⟨x, xs, hx, hxs, rfl⟩, ?_⟩
      rw [List.foldlM_cons, bind_eq_ok_iff]
      exact ⟨c, htake, hfold⟩
    · rintro ⟨_, ⟨x, xs, hx, hxs, rfl⟩, hfold⟩
      rw [List.foldlM_cons, bind_eq_ok_iff] at hfold
      obtain ⟨c, htake, hfold⟩ := hfold
      rw [applied_eq_ok_iff.mp ((hfacts.1 a).trans (bind_eq_ok_iff.mpr ⟨x, hx, htake⟩))]
      exact (ih hfacts.2).mpr ⟨xs, hxs, hfold⟩

/-- What facts report, kind by kind. -/
structure Reports where
  types : List (Identifier × TypeInfo)
  methods : List (Identifier × Identifier)
  calls : List CallSite

/-- The reports are what the facts report. -/
structure Reports.AreOf (r : Reports) (facts : List Json) : Prop where
  types : List.Forall₂ (fun fact e ↦ readType fact = .ok e) (facts.filter (isOfKind .type)) r.types
  methods : List.Forall₂ (fun fact m ↦ readMethod fact = .ok m) (facts.filter (isOfKind .method))
    r.methods
  calls : List.Forall₂ (fun fact c ↦ readCall fact = .ok c) (facts.filter (isOfKind .call)) r.calls

end Facts

/-- Registers what facts report. -/
def Assembly.take (a : Assembly) (r : Facts.Reports) : Result Assembly := do
  let b ← r.methods.foldlM takeMethod (r.types.foldl takeType a)
  return r.calls.foldl takeCall b

namespace Facts

variable {a b : Assembly}

theorem foldlM_ok_eq {β : Type} (f : Assembly → β → Assembly) (l : List β) (a : Assembly) :
    (l.foldlM (fun a x ↦ (.ok (f a x) : Result Assembly)) a) = .ok (l.foldl f a) := by
  induction l generalizing a with
  | nil => rfl
  | cons x l ih => exact ih (f a x)

/-- **Facts are applied when they are read and what they report is registered.** -/
theorem applyAll_inOrder_eq_ok_iff {facts : List Json} :
    applyAll a (inOrder facts) = (b, .ok ()) ↔
      ∃ r : Reports, r.AreOf facts ∧ a.take r = .ok b := by
  have htypes : ∀ fact ∈ facts.filter (isOfKind .type), ∀ a,
      applied a fact = readType fact >>= fun e ↦ .ok (a.takeType e) :=
    fun fact hfact ↦ applied_type (List.mem_filter.mp hfact).2
  have hmethods : ∀ fact ∈ facts.filter (isOfKind .method), ∀ a,
      applied a fact = readMethod fact >>= a.takeMethod :=
    fun fact hfact ↦ applied_method (List.mem_filter.mp hfact).2
  have hcalls : ∀ fact ∈ facts.filter (isOfKind .call), ∀ a,
      applied a fact = readCall fact >>= fun c ↦ .ok (a.takeCall c) :=
    fun fact hfact ↦ applied_call (List.mem_filter.mp hfact).2
  -- three runs, and each of them knows how its facts are read and taken
  simp only [inOrder, applyAll_append_eq_ok_iff, applyAll_eq_ok_iff htypes,
    applyAll_eq_ok_iff hmethods, applyAll_eq_ok_iff hcalls, foldlM_ok_eq]
  constructor
  · rintro ⟨a₂, ⟨a₁, ⟨types, htypes, h₁⟩, methods, hmethods, h₂⟩, calls, hcalls, h₃⟩
    cases h₁
    cases h₃
    refine ⟨⟨types, methods, calls⟩, ⟨htypes, hmethods, hcalls⟩, ?_⟩
    rw [Assembly.take, bind_eq_ok_iff]
    exact ⟨a₂, h₂, rfl⟩
  · rintro ⟨r, ⟨htypes, hmethods, hcalls⟩, htake⟩
    rw [Assembly.take, bind_eq_ok_iff] at htake
    obtain ⟨a₂, h₂, h₃⟩ := htake
    exact ⟨a₂, ⟨_, ⟨r.types, htypes, rfl⟩, r.methods, hmethods, h₂⟩, r.calls, hcalls, h₃⟩

end Facts

/-- **Lines are applied** when each of them is blank or holds a fact, the facts are read and what
they report is registered. -/
theorem Assembly.applyFacts_eq_ok_iff {a b : Assembly} {lines : List String} :
    (∃ n, a.applyFacts lines = (b, .ok n)) ↔
      (∀ line ∈ lines, Text.trim line = "" ∨ (Facts.onLine? line).isSome) ∧
        ∃ r : Facts.Reports, r.AreOf (lines.filterMap Facts.onLine?) ∧ a.take r = .ok b := by
  rw [applyFacts, ← Facts.applyAll_inOrder_eq_ok_iff]
  cases hlines : Facts.ofLines 1 lines with
  | error e =>
    refine iff_of_false (by rintro ⟨_, ⟨⟩⟩) fun h ↦ ?_
    rw [Facts.ofLines_eq_ok_iff.mpr ⟨h.1, rfl⟩] at hlines
    cases hlines
  | ok facts =>
    obtain ⟨hall, rfl⟩ := Facts.ofLines_eq_ok_iff.mp hlines
    rw [and_iff_right hall]
    simp only
    generalize Facts.inOrder _ = counted
    cases Facts.applyAll a counted with
    | mk c result => cases result <;> simp [Except.map]

end RevisionGraph
