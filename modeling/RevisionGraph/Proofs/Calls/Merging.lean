import RevisionGraph.Calls.Basic
import RevisionGraph.Proofs.OrderedMap
import RevisionGraph.Proofs.Result
import RevisionGraph.Proofs.Text.Decimal

/-!
# Merging external call sites

Call sites with one source, target and call type are merged into a count.  `CallGraph.Counts` says
that a graph counts the call sites of a list and nothing else; every call site that is added goes on
the list, `Counts.withCount`, and it is added as long as its count can be written,
`Counts.addExternal_eq_ok_iff`.

What a graph counts depends on how often each call site is on the list and not on the order of the
list: `Counts.rel_find?`.
-/

set_option autoImplicit false

namespace RevisionGraph

open Result OrderedMap

theorem Text.isWritable_of_le {m n : Nat} (h : m ≤ n) (hn : isWritable n = true) :
    isWritable m = true := by
  rw [isWritable, decide_eq_true_eq, Int.natAbs_natCast] at *
  exact Nat.lt_of_le_of_lt h hn

namespace Count

theorem value_ofNat (n : Nat) : (ofNat n).value = n := by
  rw [value, ofNat, String.toList_ofList, Text.readDecimal_toDigits]

/-- A number goes one up as long as it can be written. -/
theorem next_ofNat_eq_ok_iff {n : Nat} {c : Count} : (ofNat n).next = .ok c ↔
    Text.isWritable (n + 1 : Nat) = true ∧ c = ofNat (n + 1) := by
  rw [next, value_ofNat, Int.natCast_succ]
  split
  · next hlong =>
    refine iff_of_false (by rintro ⟨⟩) fun h ↦ ?_
    have hn : Text.isWritable n = true := Text.isWritable_of_le (Nat.le_succ n) h.1
    have hlength := Text.length_toDigits_le hn
    rw [ofNat, String.length_ofList] at hlong
    rw [Int.natAbs_natCast] at hlength
    exact Nat.not_lt.mpr hlength hlong
  · split
    · next hw => exact ⟨fun h ↦ by cases h; exact ⟨hw, rfl⟩, fun h ↦ by rw [h.2]⟩
    · next hw => exact iff_of_false (by rintro ⟨⟩) fun h ↦ hw h.1

/-- A number that can be written goes one up, or the next one cannot be written. -/
theorem next_ofNat {n : Nat} (hn : Text.isWritable n = true) : (ofNat n).next =
    if Text.isWritable (n + 1 : Nat) then .ok (ofNat (n + 1))
    else .error (.conversion .tooManyDigitsToWrite) := by
  have hlength := Text.length_toDigits_le hn
  rw [Int.natAbs_natCast] at hlength
  rw [next, value_ofNat, Int.natCast_succ, ofNat, String.length_ofList,
    if_neg (Nat.not_lt.mpr hlength)]

/-- A count that goes up goes up by one. -/
theorem value_next {c c' : Count} (h : c.next = .ok c') : c'.value = c.value + 1 := by
  rw [next] at h
  split at h
  · cases h
  · split at h
    · cases h
      exact value_ofNat _
    · cases h

/-- The first call site can be counted. -/
theorem next_zero : (ofNat 0).next = .ok (ofNat 1) :=
  next_ofNat_eq_ok_iff.mpr ⟨by decide +kernel, rfl⟩

end Count

namespace CallGraph

/-- How many call sites a graph counts under a source and target and a call type. -/
def count? (g : CallGraph) (k : ExternalKey) (callType : String) : Option Count :=
  (g.external.find? k).bind fun tally ↦ tally.find? callType

/-- How many call sites a graph counts, as a number. -/
def number (g : CallGraph) (k : ExternalKey) (callType : String) : Nat :=
  ((g.count? k callType).map Count.value).getD 0

theorem number_eq (g : CallGraph) (k : ExternalKey) (callType : String) :
    g.number k callType = ((g.count? k callType).getD (.ofNat 0)).value := by
  rw [number]
  cases g.count? k callType with
  | none => exact (Count.value_ofNat 0).symm
  | some c => rfl

/-- The graph with another count. -/
def withCount (g : CallGraph) (k : ExternalKey) (callType : String) (c : Count) : CallGraph :=
  { g with external := g.external.insert k (((g.external.find? k).getD .empty).insert callType c) }

theorem find?_getD_empty (g : CallGraph) (k : ExternalKey) (callType : String) :
    ((g.external.find? k).getD .empty).find? callType = g.count? k callType := by
  rw [count?]
  cases g.external.find? k <;> rfl

/-- An empty tally counts nothing. -/
theorem count?_openTally (g : CallGraph) (k k' : ExternalKey) (callType : String) :
    (g.openTally k).count? k' callType = g.count? k' callType := by
  rw [count?, openTally, find?_insert]
  split
  · next heq => rw [heq, Option.bind_some, find?_getD_empty]
  · rfl

theorem withCount_openTally (g : CallGraph) (k : ExternalKey) (callType : String) (c : Count) :
    (g.openTally k).withCount k callType c = g.withCount k callType c := by
  simp only [withCount, openTally, find?_insert, if_true, Option.getD_some, insert_insert]

/-- A tally that is there is not opened again. -/
theorem openTally_of_count? {g : CallGraph} {k : ExternalKey} {callType : String} {c : Count}
    (h : g.count? k callType = some c) : g.openTally k = g := by
  obtain ⟨tally, htally, -⟩ := Option.bind_eq_some_iff.mp h
  rw [openTally, htally, Option.getD_some, insert_of_find? htally]

/-- **A call site that cannot be counted changes nothing**, although its tally is opened first: what
has no count yet can be counted. -/
theorem tallyExternal_eq (g : CallGraph) (k : ExternalKey) (callType : String) :
    g.tallyExternal k.source k.target callType =
      match ((g.count? k callType).getD (.ofNat 0)).next with
      | .ok c => (g.withCount k callType c, .ok ())
      | .error e => (g, .error e) := by
  rw [tallyExternal]
  simp only [find?_getD_empty, count?_openTally]
  cases hnext : ((g.count? k callType).getD (.ofNat 0)).next with
  | ok c => exact congrArg (·, _) (g.withCount_openTally k callType c)
  | error e =>
    cases hcount : g.count? k callType with
    | none =>
      rw [hcount, Option.getD_none, Count.next_zero] at hnext
      cases hnext
    | some c => rw [openTally_of_count? hcount]

theorem addExternal_eq_ok_iff {g g' : CallGraph} {k : ExternalKey} {callType : String} :
    g.addExternal k.source k.target callType = .ok g' ↔
      ∃ c, ((g.count? k callType).getD (.ofNat 0)).next = .ok c ∧
        g' = g.withCount k callType c := by
  rw [addExternal, tallyExternal_eq]
  cases ((g.count? k callType).getD (.ofNat 0)).next with
  | error e => simp [Except.map]
  | ok c => simp [Except.map, eq_comm]

theorem count?_withCount (g : CallGraph) (k k' : ExternalKey) (callType callType' : String)
    (c : Count) : (g.withCount k callType c).count? k' callType' =
      if k' = k ∧ callType' = callType then some c else g.count? k' callType' := by
  rw [count?, withCount, find?_insert]
  by_cases hk : k' = k
  · subst hk
    simp only [if_true, Option.bind_some, find?_insert, find?_getD_empty, true_and]
  · simp only [hk, false_and, if_false]
    rfl

/-- How many external call sites are counted, under all keys and call types. -/
def total (g : CallGraph) : Nat :=
  (g.external.values.map fun tally ↦ (tally.values.map Count.value).sum).sum

theorem total_withCount (g : CallGraph) (k : ExternalKey) (callType : String) (c : Count) :
    (g.withCount k callType c).total + g.number k callType = g.total + c.value := by
  have hkeys := sum_insert (fun tally : Tally ↦ (tally.values.map Count.value).sum) g.external k
    (((g.external.find? k).getD .empty).insert callType c)
  have htally := sum_insert Count.value ((g.external.find? k).getD .empty) callType c
  rw [find?_getD_empty] at htally
  have hold : ((g.external.find? k).map fun tally : Tally ↦
      (tally.values.map Count.value).sum).getD 0 =
        (((g.external.find? k).getD .empty).values.map Count.value).sum := by
    cases g.external.find? k <;> rfl
  rw [hold] at hkeys
  simp only [total, withCount, number]
  omega

/-- **Every call site that is added counts once.** -/
theorem total_addExternal {g g' : CallGraph} {k : ExternalKey} {callType : String}
    (h : g.addExternal k.source k.target callType = .ok g') : g'.total = g.total + 1 := by
  obtain ⟨c, hnext, rfl⟩ := addExternal_eq_ok_iff.mp h
  have htotal := g.total_withCount k callType c
  rw [number_eq, Count.value_next hnext] at htotal
  omega

/-- Keys under which the same is counted have the same tallies. -/
theorem rel_find?_of_count? {g g' : CallGraph} {k k' : ExternalKey}
    (hkeys : k ∈ g.external.keys ↔ k' ∈ g'.external.keys)
    (hcounts : ∀ callType, g.count? k callType = g'.count? k' callType) :
    Option.Rel (Agree Eq) (g.external.find? k) (g'.external.find? k') := by
  simp only [count?] at hcounts
  rw [← find?_isSome_iff, ← find?_isSome_iff] at hkeys
  cases hf : g.external.find? k with
  | none =>
    cases hf' : g'.external.find? k' with
    | none => exact .none
    | some t => simp [hf, hf'] at hkeys
  | some t =>
    cases hf' : g'.external.find? k' with
    | none => simp [hf, hf'] at hkeys
    | some t' =>
      rw [hf, hf'] at hcounts
      exact .some (agree_eq_iff.mpr hcounts)

/-! ## Counting a list of call sites -/

/-- The graph counts the call sites of the list: it has a key for each source and target on it, and
under that key a count for each call type. -/
structure Counts (g : CallGraph) (sites : List (ExternalKey × String)) : Prop where
  mem_keys_iff : ∀ k, k ∈ g.external.keys ↔ ∃ callType, (k, callType) ∈ sites
  count?_eq : ∀ k callType, g.count? k callType =
    if (k, callType) ∈ sites then some (.ofNat (sites.count (k, callType))) else none

theorem counts_empty : empty.Counts [] where
  mem_keys_iff _ := by simp [empty]
  count?_eq _ _ := rfl

namespace Counts

variable {g g' : CallGraph} {sites sites' : List (ExternalKey × String)}

/-- Internal calls do not count. -/
theorem addInternal (h : g.Counts sites) (source target : MethodId) :
    (g.addInternal source target).Counts sites :=
  ⟨h.mem_keys_iff, h.count?_eq⟩

theorem getD_count? (h : g.Counts sites) (k : ExternalKey) (callType : String) :
    (g.count? k callType).getD (.ofNat 0) = .ofNat (sites.count (k, callType)) := by
  rw [h.count?_eq]
  split
  · rfl
  · next hno => rw [List.count_eq_zero.mpr hno, Option.getD_none]

theorem addExternal_eq_ok_iff (h : g.Counts sites) {k : ExternalKey} {callType : String} :
    g.addExternal k.source k.target callType = .ok g' ↔
      Text.isWritable (sites.count (k, callType) + 1 : Nat) = true ∧
        g' = g.withCount k callType (.ofNat (sites.count (k, callType) + 1)) := by
  rw [CallGraph.addExternal_eq_ok_iff, h.getD_count?]
  simp only [Count.next_ofNat_eq_ok_iff]
  constructor
  · rintro ⟨c, ⟨hw, rfl⟩, rfl⟩
    exact ⟨hw, rfl⟩
  · rintro ⟨hw, rfl⟩
    exact ⟨_, ⟨hw, rfl⟩, rfl⟩

/-- Behind call sites whose count can be written, a call site is refused for its own count. -/
theorem addExternal_eq_error_iff (h : g.Counts sites) {k : ExternalKey} {callType : String}
    (hcount : Text.isWritable (sites.count (k, callType) : Nat) = true) {e : Fault} :
    g.addExternal k.source k.target callType = .error e ↔
      Text.isWritable (sites.count (k, callType) + 1 : Nat) = false ∧
        e = .conversion .tooManyDigitsToWrite := by
  rw [addExternal, tallyExternal_eq, h.getD_count?, Count.next_ofNat hcount]
  cases Text.isWritable (sites.count (k, callType) + 1 : Nat) <;> simp [Except.map, eq_comm]

/-- One more call site goes on the list. -/
theorem withCount (h : g.Counts sites) (k : ExternalKey) (callType : String) :
    (g.withCount k callType (.ofNat (sites.count (k, callType) + 1))).Counts
      (sites ++ [(k, callType)]) where
  mem_keys_iff k' := by
    rw [CallGraph.withCount, mem_keys_insert, h.mem_keys_iff]
    simp only [List.mem_append, List.mem_singleton, Prod.mk.injEq, exists_or]
    simp [or_comm]
  count?_eq k' callType' := by
    rw [count?_withCount, h.count?_eq, List.count_append]
    by_cases heq : k' = k ∧ callType' = callType
    · obtain ⟨rfl, rfl⟩ := heq
      simp
    · have hne : ¬ (k, callType) = (k', callType') := fun c ↦ heq (by cases c; exact ⟨rfl, rfl⟩)
      have hne' : ¬ (k', callType') = (k, callType) := fun c ↦ hne c.symm
      simp [heq, hne, hne']

/-- The counts of a list can be written when the first one can, so far, and those of the rest
can. -/
theorem forall_isWritable_cons_iff {e : ExternalKey × String} :
    (∀ x ∈ e :: sites', Text.isWritable ((sites ++ e :: sites').count x : Nat) = true) ↔
      Text.isWritable (sites.count e + 1 : Nat) = true ∧
        ∀ x ∈ sites', Text.isWritable ((sites ++ e :: sites').count x : Nat) = true := by
  have hcount : (sites ++ e :: sites').count e = sites.count e + 1 + sites'.count e := by
    rw [List.count_append, List.count_cons_self]
    omega
  rw [List.forall_mem_cons, hcount]
  refine and_congr_left fun hrest ↦ ⟨Text.isWritable_of_le (Nat.le_add_right _ _), fun he ↦ ?_⟩
  by_cases hmem : e ∈ sites'
  · exact hcount ▸ hrest e hmem
  · rwa [List.count_eq_zero.mpr hmem, Nat.add_zero]

/-- **Order does not count**: keys under which as many call sites are on the lists have the same
counts. -/
theorem rel_find? (h : g.Counts sites) (h' : g'.Counts sites') {k k' : ExternalKey}
    (hcount : ∀ callType, sites.count (k, callType) = sites'.count (k', callType)) :
    Option.Rel (Agree Eq) (g.external.find? k) (g'.external.find? k') := by
  have hmem : ∀ callType, (k, callType) ∈ sites ↔ (k', callType) ∈ sites' := fun callType ↦ by
    rw [← List.count_pos_iff, hcount, List.count_pos_iff]
  -- a key is there as soon as one call type of it was counted
  have hkeys : k ∈ g.external.keys ↔ k' ∈ g'.external.keys := by
    rw [h.mem_keys_iff, h'.mem_keys_iff]
    exact exists_congr hmem
  refine rel_find?_of_count? hkeys fun callType ↦ ?_
  rw [h.count?_eq, h'.count?_eq, hcount]
  simp only [hmem]

end Counts

end CallGraph

end RevisionGraph
