import RevisionGraph.Proofs.Assembly.Ancestors
import RevisionGraph.Proofs.Assembly.Obstacles

/-!
# How strictly facts are read

Facts are meant to be read as documents are: what does not fit is refused, and a list of ancestors
is an array of identifiers.  `ReadsStrictly` says this of lines.  It need not hold, since a reader
of facts goes through whatever stands where a list should, and reports a value that it cannot go
through for what it is.

* **Facts.**  `Stumbles` says of a type fact that it is reported so; all others are read or refused.
* **Lines.**  `Lapses` lists the ways in which lines are not read strictly.
-/

set_option autoImplicit false

namespace RevisionGraph

open Result

namespace Facts

variable {key : String} {fact : Json}

/-! ## Facts that are refused -/

theorem ancestors_isRefusal (h : ¬ HasScalar key fact) :
    FailsWith (ancestors key fact) Fault.IsRefusal := by
  rcases ancestors_cases key fact with hscalar | ⟨ids, hids, -⟩ | ⟨cause, herror⟩
  · exact absurd hscalar h
  · rw [hids]
    exact .ok ids
  · rw [herror]
    exact .error (.format cause)

/-- The type fact is not read because a list of ancestors in it cannot be gone through; whatever is
read ahead of that list can be read. -/
inductive Stumbles (fact : Json) : Prop
  | superClasses {name : Identifier} {sourceFile : String}
      (hname : identifierField .type "uri" fact = .ok name)
      (hfile : fact.textField "sourceFile" Kind.type.context = .ok sourceFile)
      (hscalar : HasScalar "superClasses" fact) : Stumbles fact
  | superInterfaces {name : Identifier} {sourceFile : String} {superClasses : List Identifier}
      (hname : identifierField .type "uri" fact = .ok name)
      (hfile : fact.textField "sourceFile" Kind.type.context = .ok sourceFile)
      (hclasses : ancestors "superClasses" fact = .ok superClasses)
      (hscalar : HasScalar "superInterfaces" fact) : Stumbles fact

theorem readType_of_stumbles (h : Stumbles fact) :
    ∃ value, readType fact = .error (.conversion (.notIterable value)) := by
  cases h with
  | superClasses hname hfile hscalar =>
    obtain ⟨value, herror⟩ := ancestors_of_hasScalar hscalar
    exact ⟨value, by rw [readType, hname, bind_of_eq_ok rfl, hfile, bind_of_eq_ok rfl, herror]; rfl⟩
  | superInterfaces hname hfile hclasses hscalar =>
    obtain ⟨value, herror⟩ := ancestors_of_hasScalar hscalar
    refine ⟨value, ?_⟩
    rw [readType, hname, bind_of_eq_ok rfl, hfile, bind_of_eq_ok rfl, hclasses, bind_of_eq_ok rfl,
      herror]
    rfl

/-- A type fact that does not stumble is read, or refused for its shape. -/
theorem readType_isRefusal (h : ¬ Stumbles fact) : FailsWith (readType fact) Fault.IsRefusal := by
  refine (identifierField_isRefusal _ _ fact).bind fun name hname ↦ ?_
  refine Json.textField_decides.isRefusal.bind fun file hfile ↦ ?_
  refine (ancestors_isRefusal fun hs ↦ h (.superClasses hname hfile hs)).bind fun ids hids ↦ ?_
  refine (ancestors_isRefusal fun hs ↦ h (.superInterfaces hname hfile hids hs)).bind fun _ _ ↦ ?_
  exact .ok _

/-! ## The first fact that is not read -/

/-- The first type fact that is not read decides. -/
theorem exists_applyAll_eq_error {before : List Json} {e : Fault}
    (hkinds : ∀ f ∈ before, isOfKind .type f = true)
    (hbefore : ∀ f ∈ before, ∃ e, readType f = .ok e) (hkind : isOfKind .type fact = true)
    (hfact : readType fact = .error e) (rest : List Json) (a : Assembly) :
    ∃ b, applyAll a (before ++ fact :: rest) = (b, .error e) := by
  induction before generalizing a with
  | nil =>
    have happly : apply a fact = (a, .error e) := by
      rw [← applied_eq_error_iff, applied_type hkind, hfact]
      rfl
    exact ⟨a, by rw [List.nil_append, applyAll, happly]⟩
  | cons first before ih =>
    rw [List.forall_mem_cons] at hkinds hbefore
    obtain ⟨report, hreport⟩ := hbefore.1
    have happly : apply a first = (a.takeType report, .ok ()) := by
      rw [← applied_eq_ok_iff, applied_type hkinds.1, bind_of_eq_ok hreport]
    obtain ⟨b, hb⟩ := ih hkinds.2 hbefore.2 (a.takeType report)
    refine ⟨b, ?_⟩
    rw [List.cons_append, applyAll, happly]
    exact hb

theorem filter_type_inOrder (facts : List Json) :
    (inOrder facts).filter (isOfKind .type) = facts.filter (isOfKind .type) := by
  have hno (k : Kind) (hk : k ≠ .type) :
      (facts.filter (isOfKind k)).filter (isOfKind .type) = [] := by
    refine List.filter_eq_nil_iff.mpr fun fact hfact htype ↦ hk ?_
    exact isOfKind_unique (List.mem_filter.mp hfact).2 htype
  rw [inOrder, List.filter_append, List.filter_append, hno .method (by decide),
    hno .call (by decide), List.append_nil, List.append_nil, List.filter_filter]
  simp only [Bool.and_self]

/-- The facts that were applied could be applied. -/
theorem exists_applied_of_mem {facts : List Json} {a b : Assembly}
    (h : facts.foldlM applied a = .ok b) : ∀ fact ∈ facts, ∃ c d, applied c fact = .ok d := by
  induction facts generalizing a with
  | nil => rintro _ ⟨⟩
  | cons first rest ih =>
    rw [List.foldlM_cons, bind_eq_ok_iff] at h
    obtain ⟨c, hc, h⟩ := h
    exact List.forall_mem_cons.mpr ⟨⟨a, c, hc⟩, ih h⟩

end Facts

namespace Assembly

variable {a b : Assembly} {lines : List String}

/-! ## All lines -/

/-- Facts are read as strictly as documents: what cannot be applied is refused, ancestors that are
accepted are arrays of identifiers, and they are stored as the last fact on a type lists them. -/
structure ReadsStrictly (a : Assembly) (lines : List String) : Prop where
  refuses : FailsWith (a.applyFacts lines).2 Fault.IsRefusal
  lists : ∀ b n, a.applyFacts lines = (b, .ok n) → ∀ fact ∈ Facts.factsOn lines,
    Facts.isOfKind .type fact = true → ∀ key ∈ Facts.ancestorKeys,
      ∃ ids, Facts.StrictlyLists key fact ids
  stores : ∀ b n, a.applyFacts lines = (b, .ok n) → b.HasAncestors Facts.StrictlyLists lines

/-- How facts are read less strictly than documents. -/
inductive Lapses (a : Assembly) (lines : List String) : Prop
  /-- of what cannot be read, an integer that is too long comes first -/
  | tooLong {before : List String} {line : String} {after : List String} {digits : Nat}
      (hlines : lines = before ++ line :: after) (hbefore : ∀ l ∈ before, Facts.IsReadable l)
      (hline : Json.read (Text.trim line) = .error (.tooManyDigits digits)) : Lapses a lines
  /-- all lines are read, and the first type fact that is not read stumbles -/
  | stumbles (hlines : ∀ line ∈ lines, Facts.IsReadable line) {before : List Json} {fact : Json}
      {after : List Json}
      (htypes : (Facts.factsOn lines).filter (Facts.isOfKind .type) = before ++ fact :: after)
      (hbefore : ∀ f ∈ before, ∃ e, Facts.readType f = .ok e) (hfact : Facts.Stumbles fact) :
      Lapses a lines
  /-- all lines and facts are read, what they report can be registered, and a text or an object is
  taken for a list of ancestors -/
  | loose (hlines : ∀ line ∈ lines, Facts.IsReadable line) {r : Facts.Reports}
      (hreports : r.AreOf (Facts.factsOn lines)) {b : Assembly} (htake : a.take r = .ok b)
      {fact : Json} (hfact : fact ∈ Facts.factsOn lines)
      (hkind : Facts.isOfKind .type fact = true) {key : String} (hkey : key ∈ Facts.ancestorKeys)
      (hloose : Facts.IsLoose key fact) : Lapses a lines

theorem ReadsStrictly.not_lapses (h : a.ReadsStrictly lines) : ¬ a.Lapses lines := by
  -- the first two lapses end in a fault that is no refusal
  have hrefuses (cause : ConversionFault) :
      (a.applyFacts lines).2 ≠ .error (.conversion cause) := by
    intro herror
    cases h.refuses _ herror
  intro hlapses
  cases hlapses with
  | @tooLong before line after digits hlines hbefore hline =>
    have hunreadable : ¬ Facts.IsReadable line := by
      rintro (hblank | hfact)
      · rw [hblank] at hline
        cases hline
      · rw [Facts.onLine?, hline] at hfact
        cases hfact
    have hstops : Facts.StopsWith 1 lines (.conversion (.tooManyDigitsToRead digits)) :=
      ⟨before, line, after, hlines, hbefore, hunreadable, .tooLong hline⟩
    exact hrefuses _ (by rw [applyFacts, hstops.ofLines_eq])
  | @stumbles hlines before fact after htypes hbefore hfact =>
    obtain ⟨value, hread⟩ := Facts.readType_of_stumbles hfact
    have hkinds : ∀ f ∈ before ++ fact :: after, Facts.isOfKind .type f = true :=
      htypes ▸ fun f hf ↦ (List.mem_filter.mp hf).2
    rw [List.forall_mem_append, List.forall_mem_cons] at hkinds
    obtain ⟨b, hb⟩ := Facts.exists_applyAll_eq_error hkinds.1 hbefore hkinds.2.1 hread
      (after ++ (Facts.factsOn lines).filter (Facts.isOfKind .method) ++
        (Facts.factsOn lines).filter (Facts.isOfKind .call)) a
    have horder : Facts.inOrder (Facts.factsOn lines) = before ++ fact :: (after ++
        (Facts.factsOn lines).filter (Facts.isOfKind .method) ++
          (Facts.factsOn lines).filter (Facts.isOfKind .call)) := by
      rw [Facts.inOrder, htypes]
      simp only [List.append_assoc, List.cons_append]
    refine hrefuses (.notIterable value) ?_
    rw [(applyFacts_of_readable hlines).2, ← Facts.factsOn, horder, hb]
    rfl
  | loose hlines hreports htake hfact hkind hkey hloose =>
    obtain ⟨n, happly⟩ := applyFacts_eq_ok_iff.mpr ⟨hlines, _, hreports, htake⟩
    obtain ⟨ids, hids⟩ := h.lists _ n happly _ hfact hkind _ hkey
    exact hids.not_isLoose hloose

/-- Where nothing lapses, what cannot be applied is refused. -/
theorem failsWith_of_not_lapses (h : ¬ a.Lapses lines) :
    FailsWith (a.applyFacts lines).2 Fault.IsRefusal := by
  rcases a.applyFacts_cases lines with ⟨e, ⟨before, line, after, hlines, hbefore, -, he⟩, hend⟩ |
    ⟨hlines, done, rest, b, hsplit, hdone, ⟨-, hend⟩ | ⟨fact, later, e, rfl, hfact, hend⟩⟩
  · rw [hend]
    cases he with
    | malformed hread => exact .error (.format _)
    | notObject hread hvalue => exact .error (.format _)
    | tooLong hread => exact absurd (.tooLong hlines hbefore hread) h
  · rw [hend]
    exact .ok _
  · rw [hend]
    refine .error ?_
    by_cases hkind : Facts.isOfKind .type fact = true
    · -- the facts on types ahead of it were applied, so they were read
      have htypes := Facts.filter_type_inOrder (Facts.factsOn lines)
      rw [Facts.factsOn, hsplit, List.filter_append, List.filter_cons_of_pos hkind] at htypes
      have hread : ∀ f ∈ done.filter (Facts.isOfKind .type), ∃ e, Facts.readType f = .ok e := by
        intro f hf
        obtain ⟨hf, hkind⟩ := List.mem_filter.mp hf
        obtain ⟨c, d, hc⟩ := Facts.exists_applied_of_mem hdone f hf
        rw [Facts.applied_type hkind, bind_eq_ok_iff] at hc
        exact hc.imp fun _ ↦ And.left
      have hstumbles : ¬ Facts.Stumbles fact := fun hs ↦ h (.stumbles hlines htypes.symm hread hs)
      rw [← Facts.applied_eq_error_iff, Facts.applied_type hkind] at hfact
      exact (Facts.readType_isRefusal hstumbles).bind (fun _ _ ↦ .ok _) _ hfact
    · exact Facts.apply_isRefusal b hkind e (by rw [hfact])

theorem readsStrictly_of_not_lapses (h : ¬ a.Lapses lines) : a.ReadsStrictly lines := by
  -- a list that is accepted is strict, or else this is a lapse
  have hstrict {b : Assembly} {n : Nat} (happly : a.applyFacts lines = (b, .ok n)) :
      ∀ fact ∈ Facts.factsOn lines, Facts.isOfKind .type fact = true →
        ∀ key ∈ Facts.ancestorKeys, ∀ ids, Facts.ancestors key fact = .ok ids →
          Facts.StrictlyLists key fact ids := by
    obtain ⟨hlines, r, hreports, htake⟩ := applyFacts_eq_ok_iff.mp ⟨n, happly⟩
    exact fun fact hfact hkind key hkey ids hids ↦
      (Facts.lists_of_ancestors hids).2.resolve_right fun hloose ↦
        h (.loose hlines hreports htake hfact hkind hkey hloose)
  refine ⟨failsWith_of_not_lapses h, fun b n happly fact hfact hkind key hkey ↦ ?_,
    fun b n happly ↦ (hasAncestors_of_applyFacts happly).imp (hstrict happly)⟩
  obtain ⟨ids, hids⟩ := exists_ancestors_of_applyFacts happly hfact hkind key hkey
  exact ⟨ids, hstrict happly fact hfact hkind key hkey ids hids⟩

/-- Behind a well-formed assembly, what can be applied can be told from the lines. -/
theorem IsWellFormed.exists_applyFacts_iff (h : a.IsWellFormed) :
    (∃ b n, a.applyFacts lines = (b, .ok n)) ↔ (∀ line ∈ lines, Facts.IsReadable line) ∧
      NoneFails (Facts.Rejects a) (Facts.inOrderOn lines) := by
  rcases a.applyFacts_cases lines with ⟨e, hstops, hend⟩ | ⟨hlines, -⟩
  · refine iff_of_false ?_ fun hall ↦ hstops.not_isReadable hall.1
    rintro ⟨b, n, hok⟩
    cases hok.symm.trans hend
  · obtain ⟨hstate, hresult⟩ := applyFacts_of_readable (a := a) hlines
    rw [and_iff_right hlines, ← (Facts.foldlM_applied_cases h (Facts.inOrderOn lines)).1,
      foldlM_applied, Facts.inOrderOn, Facts.factsOn]
    cases happly : a.applyFacts lines with
    | mk b outcome =>
      rw [happly] at hresult
      simp only at hresult
      rw [hresult]
      cases (Facts.applyAll a (Facts.inOrder (lines.filterMap Facts.onLine?))).2 <;>
        simp [Except.map]

/-- **How strictly facts are read.**  They are read as strictly as documents unless there is a
lapse: an integer that is too long, a value that cannot be gone through, or a text or an object that
is taken for a list.  In any case a type that was registered has the ancestors that the last fact on
it lists; and a well-formed assembly takes the facts unless one of them is rejected. -/
theorem readsStrictly_iff (a : Assembly) (lines : List String) :
    (a.ReadsStrictly lines ↔ ¬ a.Lapses lines) ∧
      (∀ b n, a.applyFacts lines = (b, .ok n) → b.HasAncestors
        (fun key fact ids ↦ Facts.Lists key fact (ids.map Identifier.text)) lines) ∧
      (a.IsWellFormed → ((∃ b n, a.applyFacts lines = (b, .ok n)) ↔
        (∀ line ∈ lines, Facts.IsReadable line) ∧
          NoneFails (Facts.Rejects a) (Facts.inOrderOn lines))) := by
  refine ⟨⟨ReadsStrictly.not_lapses, readsStrictly_of_not_lapses⟩, fun b n happly ↦ ?_,
    IsWellFormed.exists_applyFacts_iff⟩
  exact (hasAncestors_of_applyFacts happly).imp fun fact _ _ key _ ids hids ↦
    (Facts.lists_of_ancestors hids).1

/-- A type fact with the value for its super classes. -/
def typeBelow (superClasses : Json) : Json := .object [("kind", .text "type"), ("uri", .text "A"),
  ("sourceFile", .text ""), ("superClasses", superClasses)]

/-- A text stands where a list should. -/
def looseLine : String :=
  "\x7b\"kind\":\"type\",\"uri\":\"A\",\"sourceFile\":\"\",\"superClasses\":\"BC\"\x7d"

/-- A number stands where a list should. -/
def scalarLine : String :=
  "\x7b\"kind\":\"type\",\"uri\":\"A\",\"sourceFile\":\"\",\"superClasses\":1\x7d"

/-- **Facts need not be read strictly**: a text is taken for the list of its characters, and a
number is not refused for its shape. -/
theorem exists_not_readsStrictly :
    (¬ empty.ReadsStrictly [looseLine] ∧
      ((empty.applyFacts [looseLine]).1.types.values.map fun t ↦
        t.superClasses.map Identifier.text) = [["B", "C"]]) ∧
    ¬ empty.ReadsStrictly [scalarLine] ∧
      (empty.applyFacts [scalarLine]).2 = .error (.conversion (.notIterable (.int 1))) := by
  have hloose : Facts.factsOn [looseLine] = [typeBelow (.text "BC")] := by decide +kernel
  have hscalar : (empty.applyFacts [scalarLine]).2 =
      .error (.conversion (.notIterable (.int 1))) := by decide +kernel
  refine ⟨⟨fun h ↦ ?_, by decide +kernel⟩, fun h ↦ ?_, hscalar⟩
  · have hok : (empty.applyFacts [looseLine]).2.isOk = true := by decide +kernel
    obtain ⟨n, hn⟩ := exists_eq_of_isOk_applyFacts hok
    have hmem : typeBelow (.text "BC") ∈ Facts.factsOn [looseLine] := by
      rw [hloose]
      exact List.mem_singleton_self _
    obtain ⟨ids, hids⟩ := h.lists _ n hn _ hmem (by decide +kernel) "superClasses" (by decide)
    exact hids.not_isLoose (.inl ⟨"BC", rfl⟩)
  · cases h.refuses _ hscalar

end Assembly

end RevisionGraph
