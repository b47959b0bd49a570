import RevisionGraph.Proofs.Calls.Merging
import RevisionGraph.Proofs.Calls.Order

/-!
# Adding to a graph that is already there

A graph that was read holds counts as they were written, with leading zeros and perhaps too long to
be converted.  An `Edit` adds a call site to such a graph or sorts its internal calls, and
`editAll_accounts` says what any number of them make of it: no count changes but by the call sites
that were added to it, and an edit that fails changes nothing.

A call site can be counted or not depending on the count it meets, so which edits succeed depends on
their order.  The counts that are left do not: a count goes up once for every attempt until it goes
up no more, `count?_editAll`.
-/

set_option autoImplicit false

namespace RevisionGraph

open OrderedMap

/-! ## One call site more -/

namespace Count

/-- A count goes up unless it is or becomes too long. -/
theorem exceeds_of_next {c : Count} {e : Fault} (h : c.next = .error e) :
    Text.digitLimit < c.text.length ∨ Text.isWritable (c.value + 1 : Nat) = false := by
  rw [next] at h
  split at h
  · next hlong => exact .inl hlong
  · split at h
    · cases h
    · next hw => exact .inr (Bool.eq_false_iff.mpr hw)

/-- What an attempt to count one call site more leaves of a count, where there may be none yet. -/
def raise (c : Option Count) : Option Count :=
  match (c.getD (.ofNat 0)).next with
  | .ok c' => some c'
  | .error _ => c

end Count

namespace CallGraph

/-! ## Edits -/

/-- What can be done to the calls of a graph that is there. -/
inductive Edit where
  | addInternal (source target : MethodId)
  | addExternal (source : MethodId) (target : Identifier) (callType : String)
  | sortInternal (names : OrderedMap MethodId Identifier)

namespace Edit

/-- The internal call that an edit adds. -/
def call? : Edit → Option InternalCall
  | .addInternal source target => some ⟨source, target⟩
  | .addExternal .. => none
  | .sortInternal _ => none

/-- The external call site that an edit adds if it can be counted. -/
def site? : Edit → Option (ExternalKey × String)
  | .addExternal source target callType => some (⟨source, target⟩, callType)
  | .addInternal .. => none
  | .sortInternal _ => none

end Edit

/-- What is left of the graph after an edit, and how the edit ended. -/
def edit (g : CallGraph) : Edit → CallGraph × Result Unit
  | .addInternal source target => (g.addInternal source target, .ok ())
  | .addExternal source target callType => g.tallyExternal source target callType
  | .sortInternal names => (g.sortInternal names.find?, .ok ())

/-- What is left after edits one after the other, whether or not they succeed. -/
def editAll (g : CallGraph) (edits : List Edit) : CallGraph :=
  edits.foldl (fun g e ↦ (g.edit e).1) g

/-- The external call site that an edit added. -/
def added? (g : CallGraph) (e : Edit) : Option (ExternalKey × String) :=
  if (g.edit e).2.isOk then e.site? else none

/-- The external call sites that edits added, without those whose edit failed. -/
def added (g : CallGraph) : List Edit → List (ExternalKey × String)
  | [] => []
  | e :: rest => (g.added? e).toList ++ (g.edit e).1.added rest

variable {g : CallGraph} {e : Edit} {k : ExternalKey} {callType : String}

/-- An edit that adds no external call site leaves the external calls alone and succeeds. -/
theorem edit_of_site?_eq_none (h : e.site? = none) :
    (g.edit e).1.external = g.external ∧ (g.edit e).2 = .ok () := by
  cases e with
  | addExternal source target callType => cases h
  | addInternal source target => exact ⟨rfl, rfl⟩
  | sortInternal names => exact ⟨rfl, rfl⟩

theorem edit_of_site? (h : e.site? = some (k, callType)) : g.edit e =
    match ((g.count? k callType).getD (.ofNat 0)).next with
    | .ok c => (g.withCount k callType c, .ok ())
    | .error e => (g, .error e) := by
  cases e with
  | addExternal source target callType =>
    cases h
    exact g.tallyExternal_eq ⟨source, target⟩ callType
  | addInternal source target => cases h
  | sortInternal names => cases h

/-- The ways in which an edit can end: it added no external call site and had none to add, it
counted one more, or it met a count that cannot go up and changed nothing. -/
theorem edit_cases (g : CallGraph) (e : Edit) :
    (e.site? = none ∧ g.added? e = none ∧ (g.edit e).1.external = g.external) ∨
    (∃ k callType c, e.site? = some (k, callType) ∧ g.added? e = some (k, callType) ∧
      ((g.count? k callType).getD (.ofNat 0)).next = .ok c ∧
      (g.edit e).1 = g.withCount k callType c) ∨
    (∃ k callType c fault, e.site? = some (k, callType) ∧ g.added? e = none ∧
      g.count? k callType = some c ∧ c.next = .error fault ∧ g.edit e = (g, .error fault)) := by
  cases hsite : e.site? with
  | none =>
    obtain ⟨hexternal, hok⟩ := edit_of_site?_eq_none (g := g) hsite
    exact .inl ⟨rfl, by rw [added?, hok, hsite, ite_self], hexternal⟩
  | some site =>
    obtain ⟨k, callType⟩ := site
    have hedit := edit_of_site? (g := g) hsite
    cases hnext : ((g.count? k callType).getD (.ofNat 0)).next with
    | ok c =>
      rw [hnext] at hedit
      exact .inr (.inl ⟨k, callType, c, rfl, by rw [added?, hedit, hsite]; rfl, hnext,
        congrArg Prod.fst hedit⟩)
    | error fault =>
      rw [hnext] at hedit
      cases hcount : g.count? k callType with
      | none =>
        rw [hcount, Option.getD_none, Count.next_zero] at hnext
        cases hnext
      | some c =>
        rw [hcount, Option.getD_some] at hnext
        exact .inr (.inr ⟨k, callType, c, fault, rfl, by rw [added?, hedit]; rfl, hcount, hnext,
          hedit⟩)

/-! ## One edit -/

theorem number_edit (g : CallGraph) (e : Edit) (k : ExternalKey) (callType : String) :
    (g.edit e).1.number k callType =
      g.number k callType + (g.added? e).toList.count (k, callType) := by
  rcases g.edit_cases e with ⟨-, hadded, hexternal⟩ | ⟨k', callType', c, -, hadded, hnext, hedit⟩ |
    ⟨k', callType', c, fault, -, hadded, -, -, hedit⟩
  · rw [hadded, number, count?, hexternal]
    rfl
  · rw [hadded, hedit, number, count?_withCount, Option.toList_some, List.count_singleton]
    by_cases heq : k = k' ∧ callType = callType'
    · obtain ⟨rfl, rfl⟩ := heq
      rw [if_pos ⟨rfl, rfl⟩, beq_self_eq_true, if_pos rfl, number_eq]
      exact Count.value_next hnext
    · have hne : ((k', callType') == (k, callType)) = false :=
        beq_eq_false_iff_ne.mpr fun h ↦ heq (by cases h; exact ⟨rfl, rfl⟩)
      rw [if_neg heq, hne]
      rfl
  · rw [hadded, hedit]
    rfl

/-- A count goes up or stays as it is, with every attempt at it. -/
theorem count?_edit (g : CallGraph) (e : Edit) (k : ExternalKey) (callType : String) :
    (g.edit e).1.count? k callType = if e.site? = some (k, callType)
      then Count.raise (g.count? k callType) else g.count? k callType := by
  rcases g.edit_cases e with ⟨hsite, -, hexternal⟩ | ⟨k', callType', c, hsite, -, hnext, hedit⟩ |
    ⟨k', callType', c, fault, hsite, -, hcount, hnext, hedit⟩
  · rw [hsite, count?, hexternal]
    rfl
  · rw [hsite, hedit, count?_withCount]
    by_cases heq : k = k' ∧ callType = callType'
    · obtain ⟨rfl, rfl⟩ := heq
      rw [if_pos ⟨rfl, rfl⟩, if_pos rfl, Count.raise, hnext]
    · rw [if_neg heq, if_neg fun h ↦ heq (by cases h; exact ⟨rfl, rfl⟩)]
  · rw [hsite, hedit]
    split
    · next heq =>
      cases heq
      rw [hcount, Count.raise, Option.getD_some, hnext]
    · rfl

/-- A tally changes only when a call site is added to it. -/
theorem find?_edit (h : ∀ callType, g.added? e ≠ some (k, callType)) :
    (g.edit e).1.external.find? k = g.external.find? k := by
  rcases g.edit_cases e with ⟨-, -, hexternal⟩ | ⟨k', callType', c, -, hadded, -, hedit⟩ |
    ⟨k', callType', c, fault, -, -, -, -, hedit⟩
  · rw [hexternal]
  · have hne : k ≠ k' := fun heq ↦ h callType' (heq ▸ hadded)
    rw [hedit, withCount, find?_insert, if_neg hne]
  · rw [hedit]

/-- A count keeps its text unless a call site is added to it. -/
theorem count?_edit_of_not_added (h : g.added? e ≠ some (k, callType)) :
    (g.edit e).1.count? k callType = g.count? k callType := by
  rcases g.edit_cases e with ⟨-, -, hexternal⟩ | ⟨k', callType', c, -, hadded, -, hedit⟩ |
    ⟨k', callType', c, fault, -, -, -, -, hedit⟩
  · rw [count?, hexternal]
    rfl
  · rw [hedit, count?_withCount, if_neg]
    rintro ⟨rfl, rfl⟩
    exact h hadded
  · rw [hedit]

theorem mem_keys_edit (g : CallGraph) (e : Edit) (k : ExternalKey) :
    k ∈ (g.edit e).1.external.keys ↔
      k ∈ g.external.keys ∨ ∃ callType, e.site? = some (k, callType) := by
  rcases g.edit_cases e with ⟨hsite, -, hexternal⟩ | ⟨k', callType', c, hsite, -, -, hedit⟩ |
    ⟨k', callType', c, fault, hsite, -, hcount, -, hedit⟩
  · simp [hsite, hexternal]
  · rw [hsite, hedit, withCount, mem_keys_insert, or_comm]
    simp [eq_comm]
  · -- the count that could not go up is under a key that is there
    have hk' : k' ∈ g.external.keys := by
      obtain ⟨tally, htally, -⟩ := Option.bind_eq_some_iff.mp hcount
      exact find?_isSome_iff.mp (Option.isSome_of_eq_some htally)
    rw [hsite, hedit]
    refine ⟨.inl, Or.rec id ?_⟩
    rintro ⟨callType, heq⟩
    cases heq
    exact hk'

/-- Keys that are new were put there by call sites that were added. -/
theorem mem_keys_edit_iff_added (g : CallGraph) (e : Edit) (k : ExternalKey) :
    k ∈ (g.edit e).1.external.keys ↔
      k ∈ g.external.keys ∨ ∃ callType, g.added? e = some (k, callType) := by
  rcases g.edit_cases e with ⟨-, hadded, hexternal⟩ | ⟨k', callType', c, -, hadded, -, hedit⟩ |
    ⟨k', callType', c, fault, -, hadded, -, -, hedit⟩
  · simp [hadded, hexternal]
  · rw [hadded, hedit, withCount, mem_keys_insert, or_comm]
    simp [eq_comm]
  · simp [hadded, hedit]

theorem internal_edit_perm (g : CallGraph) (e : Edit) :
    (g.edit e).1.internal.Perm (g.internal ++ e.call?.toList) := by
  cases e with
  | addInternal source target => exact .refl _
  | addExternal source target callType =>
    rw [edit, g.tallyExternal_eq ⟨source, target⟩, Edit.call?, Option.toList_none, List.append_nil]
    split
    · exact .refl _
    · exact .refl _
  | sortInternal names =>
    rw [Edit.call?, Option.toList_none, List.append_nil]
    exact List.mergeSort_perm _ _

/-! ## Many edits -/

variable {edits edits' : List Edit}

/-- **No count goes up but by call sites that were added to it.** -/
theorem number_editAll (g : CallGraph) (edits : List Edit) (k : ExternalKey) (callType : String) :
    (g.editAll edits).number k callType =
      g.number k callType + (g.added edits).count (k, callType) := by
  induction edits generalizing g with
  | nil => rfl
  | cons e rest ih =>
    calc ((g.edit e).1.editAll rest).number k callType
        = (g.edit e).1.number k callType + ((g.edit e).1.added rest).count (k, callType) := ih _
      _ = g.number k callType + (g.added (e :: rest)).count (k, callType) := by
          rw [number_edit, added, List.count_append, Nat.add_assoc]

/-- The count that is left under a call type depends on the number of attempts at it alone. -/
theorem count?_editAll (g : CallGraph) (edits : List Edit) (k : ExternalKey) (callType : String) :
    (g.editAll edits).count? k callType =
      Count.raise^[(edits.filterMap Edit.site?).count (k, callType)] (g.count? k callType) := by
  induction edits generalizing g with
  | nil => rfl
  | cons e rest ih =>
    have hrest := ih (g.edit e).1
    rw [count?_edit] at hrest
    refine hrest.trans ?_
    cases hsite : e.site? with
    | none => rw [List.filterMap_cons_none hsite, if_neg nofun]
    | some site =>
      rw [List.filterMap_cons_some hsite]
      by_cases heq : site = (k, callType)
      · rw [if_pos (congrArg some heq), heq, List.count_cons_self, Function.iterate_succ_apply]
      · rw [if_neg fun h ↦ heq (Option.some.inj h), List.count_cons_of_ne heq]

theorem find?_editAll (h : ∀ callType, (k, callType) ∉ g.added edits) :
    (g.editAll edits).external.find? k = g.external.find? k := by
  induction edits generalizing g with
  | nil => rfl
  | cons e rest ih =>
    simp only [added, List.mem_append, Option.mem_toList, not_or, forall_and] at h
    exact (ih h.2).trans (find?_edit h.1)

/-- A count to which no call site was added keeps its text. -/
theorem count?_editAll_of_not_mem_added (h : (k, callType) ∉ g.added edits) :
    (g.editAll edits).count? k callType = g.count? k callType := by
  induction edits generalizing g with
  | nil => rfl
  | cons e rest ih =>
    rw [added, List.mem_append, Option.mem_toList, not_or] at h
    exact (ih h.2).trans (count?_edit_of_not_added h.1)

theorem mem_keys_editAll (g : CallGraph) (edits : List Edit) (k : ExternalKey) :
    k ∈ (g.editAll edits).external.keys ↔
      k ∈ g.external.keys ∨ ∃ callType, (k, callType) ∈ edits.filterMap Edit.site? := by
  induction edits generalizing g with
  | nil => simp [editAll]
  | cons e rest ih =>
    refine (ih (g.edit e).1).trans ?_
    rw [mem_keys_edit, or_assoc]
    simp only [List.mem_filterMap, List.mem_cons, exists_eq_or_imp, exists_or]

theorem mem_keys_editAll_iff_added (g : CallGraph) (edits : List Edit) (k : ExternalKey) :
    k ∈ (g.editAll edits).external.keys ↔
      k ∈ g.external.keys ∨ k ∈ (g.added edits).map Prod.fst := by
  induction edits generalizing g with
  | nil => simp [editAll, added]
  | cons e rest ih =>
    refine (ih (g.edit e).1).trans ?_
    rw [mem_keys_edit_iff_added, or_assoc, added, List.map_append, List.mem_append]
    simp

/-- **The counts that are left do not depend on the order of the edits.** -/
theorem external_editAll_of_perm (g : CallGraph) (h : edits'.Perm edits) :
    Agree (Agree Eq) (g.editAll edits').external (g.editAll edits).external := by
  have hsites := h.filterMap Edit.site?
  intro k
  refine rel_find?_of_count? ?_ fun callType ↦ ?_
  · simp only [mem_keys_editAll, hsites.mem_iff]
  · rw [count?_editAll, count?_editAll, hsites.count_eq]

theorem internal_editAll_perm (g : CallGraph) (edits : List Edit) :
    (g.editAll edits).internal.Perm (g.internal ++ edits.filterMap Edit.call?) := by
  induction edits generalizing g with
  | nil => rw [List.filterMap_nil, List.append_nil]; exact .refl _
  | cons e rest ih =>
    have hedit := (internal_edit_perm g e).append_right (rest.filterMap Edit.call?)
    refine (ih (g.edit e).1).trans (hedit.trans (.of_eq ?_))
    rw [List.append_assoc]
    cases hcall : e.call? with
    | none => rw [List.filterMap_cons_none hcall]; rfl
    | some c => rw [List.filterMap_cons_some hcall]; rfl

/-- The keys under which edits added call sites to a graph that did not have them, each once. -/
def newKeys (g : CallGraph) (edits : List Edit) : List ExternalKey :=
  ((g.added edits).map Prod.fst).dedup.filter fun k ↦ k ∉ g.external.keys

theorem keys_editAll_perm (g : CallGraph) (edits : List Edit) :
    (g.editAll edits).external.keys.Perm (g.external.keys ++ g.newKeys edits) := by
  have hnodup : (g.external.keys ++ g.newKeys edits).Nodup := by
    refine List.Nodup.append g.external.nodup_keys ((List.nodup_dedup _).filter _) ?_
    intro k hold hnew
    simpa [hold] using (List.mem_filter.mp hnew).2
  refine (List.perm_ext_iff_of_nodup (nodup_keys _) hnodup).mpr fun k ↦ ?_
  rw [← keys, mem_keys_editAll_iff_added, List.mem_append, newKeys, List.mem_filter, List.mem_dedup,
    decide_eq_true_eq]
  tauto

theorem size_editAll (g : CallGraph) (edits : List Edit) : (g.editAll edits).size =
    g.size + (edits.filterMap Edit.call?).length + (g.newKeys edits).length := by
  have hinternal := (internal_editAll_perm g edits).length_eq
  have hexternal := (keys_editAll_perm g edits).length_eq
  simp only [keys, List.length_append, List.length_map] at hinternal hexternal
  rw [size, OrderedMap.size, hinternal, hexternal, size, OrderedMap.size]
  omega

/-- An edit fails when the count that it meets is too long to go up, and then nothing changes. -/
theorem edit_of_error {fault : Fault} (h : (g.edit e).2 = .error fault) :
    (g.edit e).1 = g ∧ ∃ k callType c, e.site? = some (k, callType) ∧
      g.count? k callType = some c ∧
      (Text.digitLimit < c.text.length ∨ Text.isWritable (c.value + 1 : Nat) = false) := by
  rcases g.edit_cases e with ⟨hsite, -, -⟩ | ⟨k, callType, c, hsite, -, hnext, -⟩ |
    ⟨k, callType, c, fault', hsite, -, hcount, hnext, hedit⟩
  · rw [(edit_of_site?_eq_none hsite).2] at h
    cases h
  · rw [edit_of_site? hsite, hnext] at h
    cases h
  · exact ⟨congrArg Prod.fst hedit, k, callType, c, hsite, hcount, Count.exceeds_of_next hnext⟩

/-- **What edits make of a graph**, whatever counts it holds.  Every count is what it was and the
call sites that were added to it, and keeps its text if none was; the keys are the old ones and
those of the call sites added, which together with the internal calls make up the size; another
order of the edits leaves the same external calls.  An edit that fails leaves the graph as it met
it. -/
theorem editAll_accounts (g : CallGraph) (edits : List Edit) :
    (∀ k callType, (g.editAll edits).number k callType =
      g.number k callType + (g.added edits).count (k, callType)) ∧
    (∀ k callType, (k, callType) ∉ g.added edits →
      (g.editAll edits).count? k callType = g.count? k callType) ∧
    (∀ k, k ∉ (g.added edits).map Prod.fst →
      (g.editAll edits).external.find? k = g.external.find? k) ∧
    (∀ k, k ∈ (g.editAll edits).external.keys ↔
      k ∈ g.external.keys ∨ k ∈ (g.added edits).map Prod.fst) ∧
    (∀ edits' : List Edit, edits'.Perm edits →
      Agree (Agree Eq) (g.editAll edits').external (g.editAll edits).external) ∧
    (g.editAll edits).size =
      g.size + (edits.filterMap Edit.call?).length + (g.newKeys edits).length ∧
    ∀ e fault, ((g.editAll edits).edit e).2 = .error fault →
      ((g.editAll edits).edit e).1 = g.editAll edits ∧
        ∃ k callType c, e.site? = some (k, callType) ∧
          (g.editAll edits).count? k callType = some c ∧
          (Text.digitLimit < c.text.length ∨ Text.isWritable (c.value + 1 : Nat) = false) := by
  refine ⟨number_editAll g edits, fun k callType ↦ count?_editAll_of_not_mem_added,
    fun k hk ↦ find?_editAll fun callType hmem ↦ hk (List.mem_map_of_mem (f := Prod.fst) hmem),
    mem_keys_editAll_iff_added g edits, fun edits' ↦ g.external_editAll_of_perm,
    size_editAll g edits, fun e fault ↦ edit_of_error⟩

/-- A count of one digit too many to be converted. -/
def longCount : Count :=
  ⟨String.ofList (List.replicate (Text.digitLimit + 1) '9'), by
    simp [Text.isDecimal, List.replicate_succ]⟩

/-- A call that leaves the release. -/
def sampleKey : ExternalKey := ⟨1, .sampleCaller⟩

/-- A graph as it may be read: one count with leading zeros and one that cannot go up. -/
def sampleGraph : CallGraph :=
  ⟨[], .ofList [(sampleKey, .ofList [("read", ⟨"007", by decide⟩), ("full", longCount)])]⟩

/-- Edits of every kind. -/
def sampleEdits : List Edit :=
  [.addExternal 1 sampleKey.target "read", .addInternal 1 2, .addExternal 2 sampleKey.target "new",
    .sortInternal .empty]

theorem next_longCount : longCount.next =
    .error (.conversion (.tooManyDigitsToRead longCount.text.length)) := by
  rw [Count.next, if_pos]
  rw [longCount, String.length_ofList, List.length_replicate]
  exact Nat.lt_succ_self _

/-- The count with leading zeros goes up and the one that cannot stays; an edit of that one fails
and changes nothing, and may come first or last. -/
theorem editAll_accounts_sample :
    (sampleGraph.editAll sampleEdits).number sampleKey "read" = 8 ∧
    (sampleGraph.editAll sampleEdits).count? sampleKey "full" = some longCount ∧
    (sampleGraph.editAll sampleEdits).size = 3 ∧
    ((sampleGraph.editAll sampleEdits).edit (.addExternal 1 sampleKey.target "full")).1 =
      sampleGraph.editAll sampleEdits ∧
    Agree (Agree Eq)
      (sampleGraph.editAll (sampleEdits ++ [.addExternal 1 sampleKey.target "full"])).external
      (sampleGraph.editAll (.addExternal 1 sampleKey.target "full" :: sampleEdits)).external := by
  obtain ⟨hnumber, htext, -, -, -, hsize, hfail⟩ := editAll_accounts sampleGraph sampleEdits
  obtain ⟨-, -, -, -, hperm, -, -⟩ :=
    editAll_accounts sampleGraph (.addExternal 1 sampleKey.target "full" :: sampleEdits)
  have hadded : sampleGraph.added sampleEdits =
      [(sampleKey, "read"), (⟨2, sampleKey.target⟩, "new")] := by decide +kernel
  rw [hadded] at hnumber htext
  have hfull : (sampleGraph.editAll sampleEdits).count? sampleKey "full" = some longCount :=
    htext sampleKey "full" (by decide)
  have hnext := edit_of_site? (g := sampleGraph.editAll sampleEdits) (k := sampleKey)
    (e := .addExternal 1 sampleKey.target "full") rfl
  simp only [hfull, Option.getD_some, next_longCount] at hnext
  refine ⟨(hnumber sampleKey "read").trans (by decide +kernel), hfull,
    hsize.trans (by decide +kernel), (hfail _ _ (congrArg Prod.snd hnext)).1,
    hperm _ (List.perm_append_singleton _ _)⟩

end CallGraph

end RevisionGraph
