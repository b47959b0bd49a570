import RevisionGraph.Proofs.Assembly.Reports

/-!
# How far facts are applied

All lines are read before any fact is applied.  So a line that cannot be read leaves the assembly
alone, wherever it stands, and a fact that cannot be applied leaves what was applied before it, in
the order of the kinds and not of the lines.

* **Lines.**  A line is readable if it is blank or holds a fact.  Of lines that are not all readable
  the first that is not is refused, with its number: `ofLines_cases`.
* **Facts.**  `applyAll_cases`: they are applied up to the first that fails.
* **The count.**  `length_inOrder` counts facts of known kinds wherever they stand.

`Assembly.applyFacts_cases` puts the three together.
-/

set_option autoImplicit false

namespace RevisionGraph

open Result

namespace Facts

variable {a b : Assembly} {number : Nat} {line : String} {e : Fault}

/-! ## Lines -/

/-- The line is blank or holds a fact. -/
def IsReadable (line : String) : Prop := Text.trim line = "" ∨ (onLine? line).isSome

instance : DecidablePred IsReadable := fun _ ↦ inferInstanceAs (Decidable (_ ∨ _))

/-- Why a line is refused: it is not JSON, or JSON but no object, or an integer on it is longer than
what can be read. -/
inductive Refuses (number : Nat) (line : String) : Fault → Prop
  | malformed {defect : Json.Defect} {row column position : Nat}
      (hread : Json.read (Text.trim line) = .error (.malformed defect row column position)) :
      Refuses number line (.format (.factNotJson number
        (defect.message ++ ": " ++ Json.place row column position)))
  | notObject {value : Json} (hread : Json.read (Text.trim line) = .ok value)
      (hvalue : ∀ members, value ≠ .object members) :
      Refuses number line (.format (.factNotObject number))
  | tooLong {digits : Nat}
      (hread : Json.read (Text.trim line) = .error (.tooManyDigits digits)) :
      Refuses number line (.conversion (.tooManyDigitsToRead digits))

/-- A fault of shape tells the number of the line. -/
theorem Refuses.mem_details {cause : FormatFault} (h : Refuses number line (.format cause)) :
    ("line", .int number) ∈ cause.wording.2 := by
  cases h <;> exact List.mem_cons_self

/-- A line that is not readable is refused for one of these reasons. -/
theorem exists_refuses (number : Nat) (h : ¬ IsReadable line) : ∃ e, Refuses number line e := by
  rw [IsReadable, not_or, Option.not_isSome_iff_eq_none, onLine?] at h
  obtain ⟨-, hnone⟩ := h
  cases hread : Json.read (Text.trim line) with
  | error misread =>
    cases misread with
    | malformed defect row column position => exact ⟨_, .malformed hread⟩
    | tooManyDigits digits => exact ⟨_, .tooLong hread⟩
  | ok value =>
    rw [hread] at hnone
    simp only at hnone
    split at hnone
    · cases hnone
    · next hvalue =>
      rw [Json.admits_object_iff, not_exists] at hvalue
      exact ⟨_, .notObject hread hvalue⟩

theorem Refuses.ofLine_eq (h : Refuses number line e) :
    ofLine number (Text.trim line) = .error e := by
  cases h with
  | malformed hread => rw [ofLine, hread]; rfl
  | tooLong hread => rw [ofLine, hread]; rfl
  | @notObject value hread hvalue =>
    have hkind : ¬ Json.Kind.object.admits value = true := fun h ↦ by
      obtain ⟨members, rfl⟩ := Json.admits_object_iff.mp h
      exact hvalue members rfl
    rw [ofLine, hread]
    simp only [if_neg hkind]
    rfl

/-- The first of the lines that is not readable is refused, the lines being numbered from
`number`. -/
def StopsWith (number : Nat) (lines : List String) (e : Fault) : Prop :=
  ∃ before line after, lines = before ++ line :: after ∧ (∀ l ∈ before, IsReadable l) ∧
    ¬ IsReadable line ∧ Refuses (number + before.length) line e

theorem StopsWith.cons {rest : List String} (hline : IsReadable line)
    (h : StopsWith (number + 1) rest e) : StopsWith number (line :: rest) e := by
  obtain ⟨before, bad, after, rfl, hbefore, hbad, he⟩ := h
  refine ⟨line :: before, bad, after, rfl, List.forall_mem_cons.mpr ⟨hline, hbefore⟩, hbad, ?_⟩
  rwa [List.length_cons, Nat.add_comm before.length, ← Nat.add_assoc]

theorem StopsWith.not_isReadable {lines : List String} (h : StopsWith number lines e) :
    ¬ ∀ line ∈ lines, IsReadable line := by
  obtain ⟨before, line, after, rfl, -, hline, -⟩ := h
  exact fun hall ↦ hline (hall line (List.mem_append_right before List.mem_cons_self))

theorem stopsWith_or_isReadable (number : Nat) (lines : List String) :
    (∃ e, StopsWith number lines e) ∨ ∀ line ∈ lines, IsReadable line := by
  induction lines generalizing number with
  | nil => exact .inr (List.forall_mem_nil _)
  | cons line rest ih =>
    by_cases hline : IsReadable line
    · rw [List.forall_mem_cons, and_iff_right hline]
      exact (ih (number + 1)).imp_left fun ⟨e, hstops⟩ ↦ ⟨e, hstops.cons hline⟩
    · obtain ⟨e, he⟩ := exists_refuses number hline
      exact .inl ⟨e, [], line, rest, rfl, List.forall_mem_nil _, hline, he⟩

/-- The first line that is not readable decides. -/
theorem StopsWith.ofLines_eq {lines : List String} (h : StopsWith number lines e) :
    ofLines number lines = .error e := by
  obtain ⟨before, line, after, rfl, hbefore, hline, he⟩ := h
  induction before generalizing number with
  | nil =>
    rw [List.length_nil, Nat.add_zero] at he
    rw [List.nil_append, ofLines, if_neg fun hblank ↦ hline (.inl hblank), he.ofLine_eq]
    rfl
  | cons first before ih =>
    rw [List.forall_mem_cons] at hbefore
    rw [List.length_cons, ← Nat.add_assoc, Nat.add_right_comm] at he
    rw [List.cons_append, ofLines, ih hbefore.2 he]
    split
    · rfl
    next hblank =>
    obtain ⟨fact, hfact⟩ := Option.isSome_iff_exists.mp (hbefore.1.resolve_left hblank)
    rw [bind_of_eq_ok (ofLine_eq_ok_iff.mpr hfact)]
    rfl

/-- **Lines are read, or the first that is not readable is refused.** -/
theorem ofLines_cases (number : Nat) (lines : List String) :
    (∃ e, StopsWith number lines e ∧ ofLines number lines = .error e) ∨
      (∀ line ∈ lines, IsReadable line) ∧
        ofLines number lines = .ok (lines.filterMap onLine?) :=
  (stopsWith_or_isReadable number lines).imp (fun ⟨e, hstops⟩ ↦ ⟨e, hstops, hstops.ofLines_eq⟩)
    fun hall ↦ ⟨hall, ofLines_eq_ok_iff.mpr ⟨hall, rfl⟩⟩

/-! ## Facts -/

/-- **Facts are applied up to the first that fails.** -/
theorem applyAll_cases (a : Assembly) (facts : List Json) : ∃ done rest b,
    facts = done ++ rest ∧ done.foldlM applied a = .ok b ∧
    (rest = [] ∧ applyAll a facts = (b, .ok ()) ∨
      ∃ fact later e, rest = fact :: later ∧ apply b fact = (b, .error e) ∧
        applyAll a facts = (b, .error e)) := by
  induction facts generalizing a with
  | nil => exact ⟨[], [], a, rfl, rfl, .inl ⟨rfl, rfl⟩⟩
  | cons fact facts ih =>
    rcases apply_cases a fact with ⟨c, hfact⟩ | ⟨e, hfact⟩
    · obtain ⟨done, rest, b, rfl, hdone, hend⟩ := ih c
      refine ⟨fact :: done, rest, b, rfl, ?_, ?_⟩
      · rw [List.foldlM_cons, bind_of_eq_ok (applied_eq_ok_iff.mpr hfact), hdone]
      · rw [applyAll, hfact]
        exact hend
    · refine ⟨[], fact :: facts, a, rfl, rfl, .inr ⟨fact, facts, e, rfl, hfact, ?_⟩⟩
      rw [applyAll, hfact]

/-! ## The count -/

/-- The fact is of a kind that counts. -/
def isKnown (fact : Json) : Bool :=
  isOfKind .type fact || isOfKind .method fact || isOfKind .call fact

/-- A fact of a known kind stands in one place of the order in which facts are applied. -/
theorem length_inOrder (facts : List Json) : (inOrder facts).length = facts.countP isKnown := by
  rw [inOrder, List.length_append, List.length_append, ← List.countP_eq_length_filter,
    ← List.countP_eq_length_filter, ← List.countP_eq_length_filter]
  induction facts with
  | nil => rfl
  | cons fact rest ih =>
    have hkinds : (if isOfKind .type fact then 1 else 0) +
        (if isOfKind .method fact then 1 else 0) + (if isOfKind .call fact then 1 else 0) =
          if isKnown fact then 1 else 0 := by
      have hone (k k' : Kind) (hk : isOfKind k fact = true) (hk' : isOfKind k' fact = true) :
          k = k' := isOfKind_unique hk hk'
      rw [isKnown]
      cases htype : isOfKind .type fact <;> cases hmethod : isOfKind .method fact <;>
        cases hcall : isOfKind .call fact <;> first
          | rfl
          | exact absurd (hone _ _ htype hmethod) (by decide)
          | exact absurd (hone _ _ htype hcall) (by decide)
          | exact absurd (hone _ _ hmethod hcall) (by decide)
    simp only [List.countP_cons, ← hkinds]
    omega

/-- The line holds a fact of a kind that counts. -/
def holdsKnown (line : String) : Bool := (onLine? line).any isKnown

theorem countP_filterMap_onLine? (lines : List String) :
    (lines.filterMap onLine?).countP isKnown = lines.countP holdsKnown := by
  rw [List.countP_filterMap]
  refine List.countP_congr fun line _ ↦ ?_
  rw [holdsKnown]
  cases onLine? line <;> rfl

end Facts

namespace Assembly

variable {a : Assembly} {lines : List String}

/-- Facts that are read are applied in their order. -/
theorem applyFacts_of_readable (h : ∀ line ∈ lines, Facts.IsReadable line) :
    (a.applyFacts lines).1 =
        (Facts.applyAll a (Facts.inOrder (lines.filterMap Facts.onLine?))).1 ∧
      (a.applyFacts lines).2 =
        (Facts.applyAll a (Facts.inOrder (lines.filterMap Facts.onLine?))).2.map
          fun _ ↦ lines.countP Facts.holdsKnown := by
  rw [← Facts.countP_filterMap_onLine?, ← Facts.length_inOrder, applyFacts,
    Facts.ofLines_eq_ok_iff.mpr ⟨h, rfl⟩]
  exact ⟨rfl, rfl⟩

/-- A line that cannot be read leaves the assembly as it was; and otherwise facts are applied up to
the first that fails. -/
theorem applyFacts_cases (a : Assembly) (lines : List String) :
    (∃ e, Facts.StopsWith 1 lines e ∧ a.applyFacts lines = (a, .error e)) ∨
    (∀ line ∈ lines, Facts.IsReadable line) ∧ ∃ done rest b,
      Facts.inOrder (lines.filterMap Facts.onLine?) = done ++ rest ∧
      done.foldlM Facts.applied a = .ok b ∧
      (rest = [] ∧ a.applyFacts lines = (b, .ok (lines.countP Facts.holdsKnown)) ∨
        ∃ fact later e, rest = fact :: later ∧ Facts.apply b fact = (b, .error e) ∧
          a.applyFacts lines = (b, .error e)) := by
  rcases Facts.ofLines_cases 1 lines with ⟨e, hstops, hread⟩ | ⟨hall, -⟩
  · refine .inl ⟨e, hstops, ?_⟩
    rw [applyFacts, hread]
  · obtain ⟨hstate, hresult⟩ := applyFacts_of_readable (a := a) hall
    obtain ⟨done, rest, b, hsplit, hdone, hend⟩ :=
      Facts.applyAll_cases a (Facts.inOrder (lines.filterMap Facts.onLine?))
    refine .inr ⟨hall, done, rest, b, hsplit, hdone, ?_⟩
    rcases hend with ⟨hrest, hend⟩ | ⟨fact, later, e, hrest, hfact, hend⟩
    · rw [hend] at hstate hresult
      exact .inl ⟨hrest, Prod.ext hstate hresult⟩
    · rw [hend] at hstate hresult
      exact .inr ⟨fact, later, e, hrest, hfact, Prod.ext hstate hresult⟩

/-- What is counted is the lines that hold a fact of a known kind. -/
theorem eq_countP_of_applyFacts {b : Assembly} {n : Nat} (h : a.applyFacts lines = (b, .ok n)) :
    n = lines.countP Facts.holdsKnown := by
  rcases a.applyFacts_cases lines with ⟨e, -, hend⟩ |
    ⟨-, _, _, c, -, -, ⟨-, hend⟩ | ⟨_, _, e, -, -, hend⟩⟩ <;> cases h.symm.trans hend
  rfl

theorem exists_eq_of_isOk_applyFacts (h : (a.applyFacts lines).2.isOk = true) :
    ∃ n, a.applyFacts lines = ((a.applyFacts lines).1, .ok n) := by
  obtain ⟨n, hn⟩ := exists_eq_ok_of_isOk h
  exact ⟨n, Prod.ext rfl hn⟩

/-- **How far facts are applied.**  If a line is neither blank nor an object, the first such line is
refused and nothing is applied; unless the reason is an integer that is too long, the fault is one
of shape and tells the number of the line.  If all lines are read, the facts are applied up to the
first that fails: those of types, then those of methods, then those of calls, each kind in the order
of the lines.  If none fails they are counted. -/
theorem applyFacts_extent (a : Assembly) (lines : List String) :
    (∃ before line after e, lines = before ++ line :: after ∧
      (∀ l ∈ before, Facts.IsReadable l) ∧ ¬ Facts.IsReadable line ∧
      a.applyFacts lines = (a, .error e) ∧ Facts.Refuses (before.length + 1) line e ∧
      ((∀ n, Json.read (Text.trim line) ≠ .error (.tooManyDigits n)) → ∃ cause,
        e = .format cause ∧ ("line", .int (before.length + 1)) ∈ cause.wording.2)) ∨
    (∀ line ∈ lines, Facts.IsReadable line) ∧ ∃ facts done rest b,
      facts = lines.filterMap Facts.onLine? ∧
      facts.filter (Facts.isOfKind .type) ++ facts.filter (Facts.isOfKind .method) ++
        facts.filter (Facts.isOfKind .call) = done ++ rest ∧
      done.foldlM Facts.applied a = .ok b ∧
      (rest = [] ∧ a.applyFacts lines = (b, .ok (lines.countP Facts.holdsKnown)) ∨
        ∃ fact later e, rest = fact :: later ∧ Facts.apply b fact = (b, .error e) ∧
          a.applyFacts lines = (b, .error e)) := by
  refine (a.applyFacts_cases lines).imp ?_ fun ⟨hall, done, rest, b, hfacts, h⟩ ↦
    ⟨hall, _, done, rest, b, rfl, hfacts, h⟩
  rintro ⟨e, ⟨before, line, after, hlines, hbefore, hline, he⟩, hend⟩
  rw [Nat.add_comm] at he
  refine ⟨before, line, after, e, hlines, hbefore, hline, hend, he, fun hshort ↦ ?_⟩
  cases he with
  | malformed hread => exact ⟨_, rfl, Facts.Refuses.mem_details (.malformed hread)⟩
  | notObject hread hvalue => exact ⟨_, rfl, Facts.Refuses.mem_details (.notObject hread hvalue)⟩
  | tooLong hread => exact absurd hread (hshort _)

end Assembly

end RevisionGraph
