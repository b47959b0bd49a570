/-!
# Maps that remember insertion order

`OrderedMap κ α` is a finite map whose entries stay in the order in which their keys first came.
Putting a value under a key that is already there changes the value and not the place.

* **Views.**  `entries` lists key and value oldest first; `keys` and `values` are its two halves.
* **Operations.**  `find?`, `contains`, `insert`, `erase`, `ofList`.
* **Comparison.**  Two maps that hold the same entries in another order differ as values;
  `agreesBy` forgets the order.

Distinctness of the keys is part of the type, so no operation has to promise it again.
-/

set_option autoImplicit false

namespace RevisionGraph

/-- Entries with distinct keys, oldest first. -/
structure OrderedMap (κ α : Type) where
  entries : List (κ × α)
  nodup_keys : (entries.map Prod.fst).Nodup
  deriving DecidableEq

namespace OrderedMap

variable {κ α β : Type}

/-- The map with no entry. -/
def empty : OrderedMap κ α := ⟨[], List.nodup_nil⟩

instance : Inhabited (OrderedMap κ α) := ⟨empty⟩

/-- The keys, oldest first. -/
def keys (m : OrderedMap κ α) : List κ := m.entries.map Prod.fst

/-- The values, in the order of their keys. -/
def values (m : OrderedMap κ α) : List α := m.entries.map Prod.snd

/-- How many keys there are. -/
def size (m : OrderedMap κ α) : Nat := m.entries.length

/-- There are no keys. -/
def isEmpty (m : OrderedMap κ α) : Bool := m.entries.isEmpty

/-- Changes the values and keeps the keys. -/
def mapValues (m : OrderedMap κ α) (f : α → β) : OrderedMap κ β :=
  ⟨m.entries.map fun e ↦ (e.1, f e.2),
    by simpa [List.map_map, Function.comp_def] using m.nodup_keys⟩

variable [DecidableEq κ]

/-- The value under a key. -/
def find? (m : OrderedMap κ α) (k : κ) : Option α :=
  (m.entries.find? fun e ↦ e.1 == k).map Prod.snd

/-- The key has a value. -/
def contains (m : OrderedMap κ α) (k : κ) : Bool := (m.find? k).isSome

/-! ## Putting a value under a key -/

/-- Replaces the value of the entry with key `k`, or adds a last entry. -/
def insertEntry (k : κ) (v : α) : List (κ × α) → List (κ × α)
  | [] => [(k, v)]
  | e :: rest => if e.1 = k then (k, v) :: rest else e :: insertEntry k v rest

theorem map_fst_insertEntry (k : κ) (v : α) (l : List (κ × α)) :
    (insertEntry k v l).map Prod.fst =
      if k ∈ l.map Prod.fst then l.map Prod.fst else l.map Prod.fst ++ [k] := by
  induction l with
  | nil => simp [insertEntry]
  | cons e rest ih =>
    by_cases h : e.1 = k
    · simp [insertEntry, h]
    · have h' : ¬ k = e.1 := fun c ↦ h c.symm
      simp only [insertEntry, h, if_false, List.map_cons, ih, List.mem_cons, h', false_or]
      split <;> simp_all

theorem nodup_insertEntry (k : κ) (v : α) {l : List (κ × α)} (h : (l.map Prod.fst).Nodup) :
    ((insertEntry k v l).map Prod.fst).Nodup := by
  rw [map_fst_insertEntry]
  split
  · exact h
  · rename_i hk
    rw [List.nodup_append]
    refine ⟨h, by simp, ?_⟩
    intro a ha b hb hab
    rw [List.mem_singleton] at hb
    exact hk (hb ▸ hab ▸ ha)

/-- Puts `v` under `k`: a known key keeps its place, a new one comes last. -/
def insert (m : OrderedMap κ α) (k : κ) (v : α) : OrderedMap κ α :=
  ⟨insertEntry k v m.entries, nodup_insertEntry k v m.nodup_keys⟩

theorem keys_insert (m : OrderedMap κ α) (k : κ) (v : α) :
    (m.insert k v).keys = if k ∈ m.keys then m.keys else m.keys ++ [k] :=
  map_fst_insertEntry k v m.entries

theorem mem_values_of_find? {m : OrderedMap κ α} {k : κ} {v : α} (h : m.find? k = some v) :
    v ∈ m.values := by
  rw [find?, Option.map_eq_some_iff] at h
  obtain ⟨e, he, rfl⟩ := h
  exact List.mem_map_of_mem (List.mem_of_find?_eq_some he)

/-- Only the value that is put in is new. -/
theorem mem_values_insert {m : OrderedMap κ α} {k : κ} {v w : α} (h : w ∈ (m.insert k v).values) :
    w = v ∨ w ∈ m.values := by
  have hentries : ∀ l : List (κ × α), w ∈ (insertEntry k v l).map Prod.snd →
      w = v ∨ w ∈ l.map Prod.snd := by
    intro l hl
    induction l with
    | nil => simpa [insertEntry] using hl
    | cons e rest ih =>
      rw [insertEntry] at hl
      split at hl
      · rcases List.mem_cons.mp hl with hw | hrest
        · exact .inl hw
        · exact .inr (List.mem_cons_of_mem _ hrest)
      · rcases List.mem_cons.mp hl with hw | hrest
        · exact .inr (hw ▸ List.mem_cons_self)
        · exact (ih hrest).imp id (List.mem_cons_of_mem _)
  exact hentries m.entries h

/-- Puts the entries of a list one after the other: of equal keys the last value wins, in the
place of the first. -/
def ofList (l : List (κ × α)) : OrderedMap κ α :=
  l.foldl (fun m e ↦ m.insert e.1 e.2) empty

theorem mem_values_foldl_insert {l : List (κ × α)} {m : OrderedMap κ α} {w : α}
    (h : w ∈ (l.foldl (fun m e ↦ m.insert e.1 e.2) m).values) :
    w ∈ l.map Prod.snd ∨ w ∈ m.values := by
  induction l generalizing m with
  | nil => exact .inr h
  | cons e rest ih =>
    rcases ih h with hrest | hm
    · exact .inl (List.mem_cons_of_mem _ hrest)
    · rcases mem_values_insert hm with rfl | hold
      · exact .inl List.mem_cons_self
      · exact .inr hold

/-- Removes a key. -/
def erase (m : OrderedMap κ α) (k : κ) : OrderedMap κ α :=
  ⟨m.entries.filter fun e ↦ e.1 != k,
    m.nodup_keys.sublist (List.Sublist.map _ List.filter_sublist)⟩

/-! ## Comparison without order -/

/-- The two maps have the same keys, with values that `same` accepts. -/
def agreesBy (same : α → α → Bool) (m n : OrderedMap κ α) : Bool :=
  m.size == n.size && m.entries.all fun e ↦
    match n.find? e.1 with
    | some v => same e.2 v
    | none => false

end OrderedMap

end RevisionGraph
