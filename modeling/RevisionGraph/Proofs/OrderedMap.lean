import Mathlib.Data.List.Dedup
import Mathlib.Data.List.Induction
import Mathlib.Data.List.Nodup
import Mathlib.Data.Set.Function
import Mathlib.Tactic.Tauto
import RevisionGraph.Proofs.Sorting

/-!
# Ordered maps as mappings

An `OrderedMap` is a list of entries; what it *means* is the function `find?`.  This file moves
between the two.

* **Looking up.**  `find?_eq_some_iff` reads an entry off the list, and there is one lemma on
  `find?` for each operation: `find?_insert`, `find?_mapValues`, `entries_ofList`.
* **Other keys.**  `mapKeys` puts other keys in the places of the old ones, one to one.
* **Lists with repeated keys.**  Of these the map keeps the last value, `find?_ofList_eq_some_iff`,
  and so it is as long as the list for distinct keys only, `size_ofList_eq_length_iff`.
* **Same mapping.**  `Agree r m n` says that the maps have the same keys, with values related by
  `r`, whatever the order; `agree_eq_iff_perm` says that for equality this is the same as holding
  the same entries in some order.
* **Canonical order.**  `sortBy le m` holds the entries of `m` in the order of their keys, and
  `sortBy_eq_iff_agree` says that it tells mappings apart and nothing else.
-/

set_option autoImplicit false

namespace RevisionGraph.OrderedMap

variable {κ α β : Type}

theorem ext {m n : OrderedMap κ α} (h : m.entries = n.entries) : m = n := by
  cases m; cases n; cases h; rfl

/-- A key has one value. -/
theorem eq_of_mem_entries {m : OrderedMap κ α} {d e : κ × α} (hd : d ∈ m.entries)
    (he : e ∈ m.entries) (h : d.1 = e.1) : d = e :=
  List.inj_on_of_nodup_map m.nodup_keys hd he h

theorem mem_keys_iff {m : OrderedMap κ α} {k : κ} : k ∈ m.keys ↔ ∃ v, (k, v) ∈ m.entries := by
  simp [keys]

@[simp] theorem keys_empty : (empty : OrderedMap κ α).keys = [] := rfl

theorem nodup_entries (m : OrderedMap κ α) : m.entries.Nodup := m.nodup_keys.of_map _

/-! ## Canonical order -/

/-- The same entries in the order of their keys. -/
def sortBy (le : κ → κ → Bool) (m : OrderedMap κ α) : OrderedMap κ α :=
  ⟨m.entries.mergeSort fun a b ↦ le a.1 b.1,
    ((List.mergeSort_perm _ _).map Prod.fst).nodup_iff.mpr m.nodup_keys⟩

theorem entries_sortBy_perm (le : κ → κ → Bool) (m : OrderedMap κ α) :
    (m.sortBy le).entries.Perm m.entries :=
  List.mergeSort_perm _ _

theorem sortBy_eq_of_perm {le : κ → κ → Bool} (hle : LinearLE le) {m n : OrderedMap κ α}
    (h : m.entries.Perm n.entries) : m.sortBy le = n.sortBy le :=
  ext (mergeSort_eq_of_perm Prod.fst hle h fun _ ha _ hb ↦ eq_of_mem_entries ha hb)

theorem sortBy_mapValues (le : κ → κ → Bool) (m : OrderedMap κ α) (f : α → β) :
    (m.mapValues f).sortBy le = (m.sortBy le).mapValues f := by
  have h := List.map_mergeSort (r := fun a b ↦ le a.1 b.1) (s := fun a b ↦ le a.1 b.1)
    (f := fun e : κ × α ↦ (e.1, f e.2)) (l := m.entries) fun _ _ _ _ ↦ rfl
  exact ext h.symm

/-! ## Other keys -/

/-- The map with other keys in the places of its own. -/
def mapKeys {ι : Type} (m : OrderedMap κ α) (f : κ → ι) (hf : Set.InjOn f {k | k ∈ m.keys}) :
    OrderedMap ι α where
  entries := m.entries.map fun e ↦ (f e.1, e.2)
  nodup_keys := by
    have hkeys : (m.entries.map fun e ↦ (f e.1, e.2)).map Prod.fst = m.keys.map f := by
      rw [keys, List.map_map, List.map_map]
      rfl
    rw [hkeys]
    exact List.Nodup.map_on (fun _ hk _ hl h ↦ hf hk hl h) m.nodup_keys

variable [DecidableEq κ]

/-! ## Looking up -/

theorem find?_eq_some_iff {m : OrderedMap κ α} {k : κ} {v : α} :
    m.find? k = some v ↔ (k, v) ∈ m.entries := by
  rw [find?, Option.map_eq_some_iff]
  constructor
  · rintro ⟨e, he, rfl⟩
    have hk : e.1 = k := by simpa using List.find?_some he
    exact hk ▸ List.mem_of_find?_eq_some he
  · intro h
    cases hf : m.entries.find? fun e ↦ e.1 == k with
    | none => exact absurd (List.find?_eq_none.mp hf _ h) (by simp)
    | some e =>
      have hk : e.1 = k := by simpa using List.find?_some hf
      exact ⟨e, rfl, congrArg Prod.snd (eq_of_mem_entries (List.mem_of_find?_eq_some hf) h hk)⟩

theorem find?_eq_none_iff {m : OrderedMap κ α} {k : κ} : m.find? k = none ↔ k ∉ m.keys := by
  rw [Option.eq_none_iff_forall_ne_some, mem_keys_iff, not_exists]
  exact forall_congr' fun v ↦ not_congr find?_eq_some_iff

theorem find?_isSome_iff {m : OrderedMap κ α} {k : κ} : (m.find? k).isSome ↔ k ∈ m.keys := by
  rw [Option.isSome_iff_ne_none, Ne, find?_eq_none_iff, not_not]

theorem contains_iff {m : OrderedMap κ α} {k : κ} : m.contains k = true ↔ k ∈ m.keys :=
  find?_isSome_iff

@[simp] theorem find?_empty (k : κ) : (empty : OrderedMap κ α).find? k = none := rfl

theorem mem_insertEntry {k : κ} {v : α} {l : List (κ × α)} {e : κ × α}
    (hl : (l.map Prod.fst).Nodup) : e ∈ insertEntry k v l ↔ e = (k, v) ∨ e.1 ≠ k ∧ e ∈ l := by
  induction l with
  | nil => simp [insertEntry]
  | cons d rest ih =>
    rw [List.map_cons, List.nodup_cons] at hl
    rw [insertEntry]
    split
    · next hd =>
      have hrest : e ∈ rest → e.1 ≠ k := fun he c ↦
        hl.1 (hd ▸ c ▸ List.mem_map_of_mem (f := Prod.fst) he)
      have hne : e.1 ≠ k → e ≠ d := fun hk c ↦ hk (c ▸ hd)
      simp only [List.mem_cons]
      tauto
    · next hd =>
      have he : e = d → e.1 ≠ k := fun c ↦ c ▸ hd
      simp only [List.mem_cons, ih hl.2]
      tauto

theorem insertEntry_eq_append {k : κ} {v : α} {l : List (κ × α)} (h : k ∉ l.map Prod.fst) :
    insertEntry k v l = l ++ [(k, v)] := by
  induction l with
  | nil => rfl
  | cons d rest ih =>
    simp only [List.map_cons, List.mem_cons, not_or] at h
    rw [insertEntry, if_neg (Ne.symm h.1), ih h.2, List.cons_append]

theorem find?_insert (m : OrderedMap κ α) (k l : κ) (v : α) :
    (m.insert k v).find? l = if l = k then some v else m.find? l := by
  refine Option.ext fun w ↦ ?_
  rw [find?_eq_some_iff, insert, mem_insertEntry m.nodup_keys]
  split
  · next h => simp [h, eq_comm]
  · next h => simp [h, find?_eq_some_iff]

/-- Putting a value where it is already changes nothing. -/
theorem insert_of_find? {m : OrderedMap κ α} {k : κ} {v : α} (h : m.find? k = some v) :
    m.insert k v = m := by
  have hentries : ∀ l : List (κ × α), (l.map Prod.fst).Nodup → (k, v) ∈ l →
      insertEntry k v l = l := by
    intro l hl hmem
    induction l with
    | nil => cases hmem
    | cons e rest ih =>
      rw [List.map_cons, List.nodup_cons] at hl
      rcases List.mem_cons.mp hmem with rfl | hrest
      · exact if_pos rfl
      · have hne : e.1 ≠ k := fun heq ↦ hl.1 (heq ▸ List.mem_map_of_mem (f := Prod.fst) hrest)
        rw [insertEntry, if_neg hne, ih hl.2 hrest]
  exact ext (hentries m.entries m.nodup_keys (find?_eq_some_iff.mp h))

/-- Of two values put under one key the second stays. -/
theorem insert_insert (m : OrderedMap κ α) (k : κ) (v w : α) :
    (m.insert k v).insert k w = m.insert k w := by
  have hentries : ∀ l : List (κ × α), insertEntry k w (insertEntry k v l) = insertEntry k w l := by
    intro l
    induction l with
    | nil => simp [insertEntry]
    | cons e rest ih =>
      by_cases he : e.1 = k
      · simp [insertEntry, he]
      · simp [insertEntry, he, ih]
  exact ext (hentries m.entries)

/-- Values are put under two keys in either order, if the first key has its place already. -/
theorem insert_comm {m : OrderedMap κ α} {k l : κ} (hkl : k ≠ l) (hk : k ∈ m.keys) (v w : α) :
    (m.insert k v).insert l w = (m.insert l w).insert k v := by
  have hentries : ∀ es : List (κ × α), k ∈ es.map Prod.fst →
      insertEntry l w (insertEntry k v es) = insertEntry k v (insertEntry l w es) := by
    intro es hk
    induction es with
    | nil => cases hk
    | cons e rest ih =>
      by_cases hek : e.1 = k
      · simp [insertEntry, hek, hkl]
      by_cases hel : e.1 = l
      · simp [insertEntry, hel, hkl.symm]
      have hrest : k ∈ rest.map Prod.fst := (List.mem_cons.mp hk).resolve_left (Ne.symm hek)
      simp [insertEntry, hek, hel, ih hrest]
  exact ext (hentries m.entries hk)

theorem mem_keys_insert {m : OrderedMap κ α} {k l : κ} {v : α} :
    l ∈ (m.insert k v).keys ↔ l = k ∨ l ∈ m.keys := by
  rw [← find?_isSome_iff, ← find?_isSome_iff, find?_insert]
  split <;> simp_all

/-- The value that was under the key, if there was one, makes way for the new one. -/
theorem sum_insert (f : α → Nat) (m : OrderedMap κ α) (k : κ) (v : α) :
    ((m.insert k v).values.map f).sum + ((m.find? k).map f).getD 0 =
      (m.values.map f).sum + f v := by
  have hentries : ∀ l : List (κ × α), ((insertEntry k v l).map (f ·.2)).sum +
      ((l.find? (·.1 == k)).map (f ·.2)).getD 0 = (l.map (f ·.2)).sum + f v := by
    intro l
    induction l with
    | nil => simp [insertEntry]
    | cons e rest ih =>
      rw [insertEntry, List.find?_cons]
      by_cases he : e.1 = k
      · simp only [he, if_true, beq_self_eq_true, List.map_cons, List.sum_cons, Option.map_some,
          Option.getD_some]
        omega
      · simp only [he, if_false, beq_eq_false_iff_ne.mpr he, List.map_cons, List.sum_cons]
        omega
  simpa only [values, find?, insert, List.map_map, Option.map_map, Function.comp_def] using
    hentries m.entries

theorem find?_mapValues (m : OrderedMap κ α) (f : α → β) (k : κ) :
    (m.mapValues f).find? k = (m.find? k).map f := by
  simp [find?, mapValues, List.find?_map, Function.comp_def]

theorem find?_mapKeys {ι : Type} [DecidableEq ι] (m : OrderedMap κ α) (f : κ → ι)
    (hf : Set.InjOn f {k | k ∈ m.keys}) {k : κ} (hk : k ∈ m.keys) :
    (m.mapKeys f hf).find? (f k) = m.find? k := by
  refine Option.ext fun v ↦ ?_
  rw [find?_eq_some_iff, find?_eq_some_iff, mapKeys, List.mem_map]
  constructor
  · rintro ⟨e, he, heq⟩
    obtain ⟨hkey, rfl⟩ := Prod.mk.inj heq
    obtain rfl := hf (mem_keys_iff.mpr ⟨e.2, he⟩) hk hkey
    exact he
  · exact fun h ↦ ⟨(k, v), h, rfl⟩

/-! ## Maps made from a list -/

/-- Entries with new keys are put one behind the other. -/
theorem entries_foldl_insert {l : List (κ × α)} {m : OrderedMap κ α}
    (h : ((m.entries ++ l).map Prod.fst).Nodup) :
    (l.foldl (fun m e ↦ m.insert e.1 e.2) m).entries = m.entries ++ l := by
  induction l generalizing m with
  | nil => simp
  | cons e rest ih =>
    have hnew : e.1 ∉ m.entries.map Prod.fst := by
      rw [List.map_append, List.nodup_append] at h
      exact fun hm ↦ h.2.2 _ hm _ (by simp) rfl
    have hins : (m.insert e.1 e.2).entries = m.entries ++ [e] := insertEntry_eq_append hnew
    rw [List.foldl_cons, ih (by rwa [hins, List.append_assoc]), hins, List.append_assoc]
    rfl

/-- A list with distinct keys is the list of entries of its map. -/
theorem entries_ofList {l : List (κ × α)} (h : (l.map Prod.fst).Nodup) : (ofList l).entries = l :=
  entries_foldl_insert (m := empty) (by simpa [empty] using h)

theorem ofList_entries (m : OrderedMap κ α) : ofList m.entries = m :=
  ext (entries_ofList m.nodup_keys)

theorem mem_keys_ofList {l : List (κ × α)} {k : κ} : k ∈ (ofList l).keys ↔ k ∈ l.map Prod.fst := by
  suffices h : ∀ m : OrderedMap κ α, k ∈ (l.foldl (fun m e ↦ m.insert e.1 e.2) m).keys ↔
      k ∈ m.keys ∨ k ∈ l.map Prod.fst by
    rw [ofList, h, keys_empty]
    simp
  induction l with
  | nil => simp
  | cons e rest ih =>
    intro m
    rw [List.foldl_cons, ih, mem_keys_insert, List.map_cons, List.mem_cons]
    tauto

theorem mem_of_mem_entries_ofList {l : List (κ × α)} {e : κ × α} (he : e ∈ (ofList l).entries) :
    e ∈ l := by
  suffices h : ∀ m : OrderedMap κ α, e ∈ (l.foldl (fun m e ↦ m.insert e.1 e.2) m).entries →
      e ∈ m.entries ∨ e ∈ l from (h empty he).resolve_left (by simp [empty])
  clear he
  induction l with
  | nil => simp
  | cons d rest ih =>
    intro m he
    rw [List.mem_cons]
    rcases ih _ he with hm | hrest
    · have hd := (mem_insertEntry m.nodup_keys).mp hm
      tauto
    · exact .inr (.inr hrest)

/-- Of the entries with one key the last says the value. -/
theorem find?_ofList_eq_some_iff {l : List (κ × α)} {k : κ} {v : α} : (ofList l).find? k = some v ↔
    ∃ before after, l = before ++ (k, v) :: after ∧ k ∉ after.map Prod.fst := by
  induction l using List.reverseRecOn with
  | nil => exact iff_of_false (by rintro ⟨⟩) (by simp)
  | append_singleton l e ih =>
    obtain ⟨key, value⟩ := e
    -- the last member overwrites what others left under its key, and hides nothing else
    have hlast : ofList (l ++ [(key, value)]) = (ofList l).insert key value := List.foldl_append
    rw [hlast, find?_insert]
    constructor
    · split
      · next hkey =>
        rintro ⟨⟩
        exact ⟨l, [], by rw [hkey], List.not_mem_nil⟩
      · next hkey =>
        intro hfind
        obtain ⟨before, after, rfl, hafter⟩ := ih.mp hfind
        exact ⟨before, after ++ [(key, value)], by simp, by simp [hafter, hkey]⟩
    · rintro ⟨before, after, hsplit, hafter⟩
      rcases List.eq_nil_or_concat after with rfl | ⟨rest, d, rfl⟩
      · obtain ⟨-, ⟨⟩⟩ := List.append_inj' hsplit rfl
        exact if_pos rfl
      · rw [List.concat_eq_append] at hsplit hafter
        rw [← List.cons_append, ← List.append_assoc] at hsplit
        obtain ⟨rfl, ⟨⟩⟩ := List.append_inj' hsplit rfl
        simp only [List.map_append, List.map_cons, List.map_nil, List.mem_append,
          List.mem_singleton, not_or] at hafter
        rw [if_neg hafter.2]
        exact ih.mpr ⟨before, rest, rfl, hafter.1⟩

theorem size_ofList (l : List (κ × α)) : (ofList l).size = (l.map Prod.fst).dedup.length := by
  have hperm : (ofList l).keys.Perm (l.map Prod.fst).dedup := by
    refine (List.perm_ext_iff_of_nodup (ofList l).nodup_keys (List.nodup_dedup _)).mpr fun k ↦ ?_
    exact mem_keys_ofList.trans List.mem_dedup.symm
  rw [← hperm.length_eq, keys, List.length_map, size]

theorem size_ofList_le (l : List (κ × α)) : (ofList l).size ≤ l.length := by
  rw [size_ofList, ← List.length_map (f := Prod.fst)]
  exact (List.dedup_sublist _).length_le

/-- **No entry is lost exactly when the keys are distinct.** -/
theorem size_ofList_eq_length_iff {l : List (κ × α)} :
    (ofList l).size = l.length ↔ (l.map Prod.fst).Nodup := by
  rw [size_ofList, ← List.length_map (f := Prod.fst)]
  constructor
  · intro h
    exact (List.dedup_sublist _).eq_of_length h ▸ List.nodup_dedup _
  · intro h
    rw [h.dedup]

/-! ## Maps with the same mapping -/

/-- The maps have the same keys, with related values under them, in whatever order. -/
def Agree (r : α → β → Prop) (m : OrderedMap κ α) (n : OrderedMap κ β) : Prop :=
  ∀ k, Option.Rel r (m.find? k) (n.find? k)

theorem agree_eq_iff {m n : OrderedMap κ α} : Agree Eq m n ↔ ∀ k, m.find? k = n.find? k := by
  refine forall_congr' fun k ↦ ?_
  generalize m.find? k = a, n.find? k = b
  constructor
  · intro h
    cases h with
    | some h => rw [h]
    | none => rfl
  · rintro rfl
    cases a with
    | none => exact .none
    | some v => exact .some rfl

/-- **Maps are the same mapping when they hold the same entries** in some order. -/
theorem agree_eq_iff_perm {m n : OrderedMap κ α} : Agree Eq m n ↔ m.entries.Perm n.entries := by
  rw [agree_eq_iff, List.perm_ext_iff_of_nodup m.nodup_entries n.nodup_entries]
  constructor
  · intro h e
    rw [← find?_eq_some_iff (m := m), ← find?_eq_some_iff (m := n), h]
  · intro h k
    refine Option.ext fun v ↦ ?_
    rw [find?_eq_some_iff, find?_eq_some_iff, h]

theorem agree_mapValues_iff {γ δ : Type} {r : γ → δ → Prop} {m : OrderedMap κ α}
    {n : OrderedMap κ β} {f : α → γ} {g : β → δ} :
    Agree r (m.mapValues f) (n.mapValues g) ↔ Agree (fun a b ↦ r (f a) (g b)) m n := by
  refine forall_congr' fun k ↦ ?_
  rw [find?_mapValues, find?_mapValues]
  cases m.find? k <;> cases n.find? k <;> simp [Option.rel_some_some]

theorem agree_sortBy (le : κ → κ → Bool) (m : OrderedMap κ α) : Agree Eq (m.sortBy le) m :=
  agree_eq_iff_perm.mpr (m.entries_sortBy_perm le)

theorem find?_sortBy (le : κ → κ → Bool) (m : OrderedMap κ α) (k : κ) :
    (m.sortBy le).find? k = m.find? k :=
  agree_eq_iff.mp (m.agree_sortBy le) k

/-- The map with changed values in canonical order agrees with the map as the values do. -/
theorem agree_sortBy_mapValues (le : κ → κ → Bool) (m : OrderedMap κ α) {f : α → β}
    {r : β → α → Prop} (h : ∀ v, r (f v) v) : Agree r ((m.mapValues f).sortBy le) m := by
  intro k
  rw [find?_sortBy, find?_mapValues]
  cases m.find? k with
  | none => exact .none
  | some v => exact .some (h v)

/-- **The canonical order is a normal form** of the mapping. -/
theorem sortBy_eq_iff_agree {le : κ → κ → Bool} (hle : LinearLE le) {m n : OrderedMap κ α} :
    m.sortBy le = n.sortBy le ↔ Agree Eq m n := by
  refine ⟨fun h ↦ agree_eq_iff.mpr fun k ↦ ?_, fun h ↦ ?_⟩
  · rw [← find?_sortBy le m, h, find?_sortBy]
  · exact sortBy_eq_of_perm hle (agree_eq_iff_perm.mp h)

end RevisionGraph.OrderedMap
