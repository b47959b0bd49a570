import RevisionGraph.Json.Reader
import RevisionGraph.Json.Writer
import RevisionGraph.Proofs.OrderedMap

/-!
# What a JSON value holds

Several conditions on a document speak of every value in it, however deeply nested.  `everywhere p`
is the one recursion behind them.

* `HasDistinctKeys`: no object holds a key twice.  It is what makes a list of members a mapping, and
  `hasDistinctKeys_of_read` says that every document that was read from text has it.
* `IsFloatFree`: no number with a fraction or an exponent.
* `isWritable`, the limit on the digits of integers, is read the same way: `isWritable_array_iff`,
  `isWritable_object_iff`.

`Json.induct` is the induction that goes with them: over the items of arrays and the members of
objects.
-/

set_option autoImplicit false

namespace RevisionGraph.Json

/-! ## Induction over nested values -/

/-- Induction over a value by its items and members. -/
theorem induct {motive : Json → Prop} (null : motive .null) (bool : ∀ b, motive (.bool b))
    (int : ∀ i, motive (.int i)) (float : ∀ x, motive (.float x)) (text : ∀ s, motive (.text s))
    (array : ∀ items, (∀ v ∈ items, motive v) → motive (.array items))
    (object : ∀ members, (∀ m ∈ members, motive m.2) → motive (.object members)) :
    ∀ v, motive v := by
  intro v
  refine @Json.rec motive (fun items ↦ ∀ v ∈ items, motive v)
    (fun members ↦ ∀ m ∈ members, motive m.2) (fun m ↦ motive m.2)
    null bool int float text array object ?_ ?_ ?_ ?_ ?_ v
  · simp
  · intro v items hv hitems w hw
    rcases List.mem_cons.mp hw with rfl | hw
    · exact hv
    · exact hitems w hw
  · simp
  · intro m members hm hmembers n hn
    rcases List.mem_cons.mp hn with rfl | hn
    · exact hm
    · exact hmembers n hn
  · intro _ _ h
    exact h

/-! ## A condition on every value inside -/

mutual

/-- The value and every value in it satisfy `p`. -/
def everywhere (p : Json → Bool) : Json → Bool
  | .array items => p (.array items) && everywhereItems p items
  | .object members => p (.object members) && everywhereMembers p members
  | value => p value

/-- The values in all items of an array satisfy `p`. -/
def everywhereItems (p : Json → Bool) : List Json → Bool
  | [] => true
  | item :: rest => everywhere p item && everywhereItems p rest

/-- The values in all members of an object satisfy `p`. -/
def everywhereMembers (p : Json → Bool) : List (String × Json) → Bool
  | [] => true
  | (_, value) :: rest => everywhere p value && everywhereMembers p rest

end

section

variable {p : Json → Bool}

theorem everywhereItems_iff {items : List Json} :
    everywhereItems p items = true ↔ ∀ v ∈ items, everywhere p v = true := by
  induction items with
  | nil => simp [everywhereItems]
  | cons item rest ih => simp [everywhereItems, ih]

theorem everywhereMembers_iff {members : List (String × Json)} :
    everywhereMembers p members = true ↔ ∀ m ∈ members, everywhere p m.2 = true := by
  induction members with
  | nil => simp [everywhereMembers]
  | cons m rest ih => simp [everywhereMembers, ih]

theorem everywhere_array_iff {items : List Json} : everywhere p (.array items) = true ↔
    p (.array items) = true ∧ ∀ v ∈ items, everywhere p v = true := by
  rw [everywhere, Bool.and_eq_true, everywhereItems_iff]

theorem everywhere_object_iff {members : List (String × Json)} :
    everywhere p (.object members) = true ↔
      p (.object members) = true ∧ ∀ m ∈ members, everywhere p m.2 = true := by
  rw [everywhere, Bool.and_eq_true, everywhereMembers_iff]

theorem everywhere_of_member? {v w : Json} {key : String} (h : everywhere p v = true)
    (hw : v.member? key = some w) : everywhere p w = true := by
  cases v with
  | object members =>
    rw [member?, Option.map_eq_some_iff] at hw
    obtain ⟨m, hm, rfl⟩ := hw
    exact (everywhere_object_iff.mp h).2 m (List.mem_of_find?_eq_some hm)
  | _ => cases hw

/-- The value itself is one of the values inside. -/
theorem of_everywhere {v : Json} (h : everywhere p v = true) : p v = true := by
  cases v with
  | array items => exact (everywhere_array_iff.mp h).1
  | object members => exact (everywhere_object_iff.mp h).1
  | _ => exact h

end

/-! ## Distinct keys -/

/-- No two members of the object have one key. -/
def hasOwnKeys : Json → Bool
  | .object members => decide (members.map Prod.fst).Nodup
  | _ => true

/-- No object in the value holds a key twice. -/
def HasDistinctKeys (v : Json) : Prop := everywhere hasOwnKeys v = true

instance (v : Json) : Decidable v.HasDistinctKeys := inferInstanceAs (Decidable (_ = true))

theorem hasDistinctKeys_array_iff {items : List Json} :
    (array items).HasDistinctKeys ↔ ∀ v ∈ items, v.HasDistinctKeys := by
  simp only [HasDistinctKeys, everywhere_array_iff, hasOwnKeys, true_and]

theorem hasDistinctKeys_object_iff {members : List (String × Json)} :
    (object members).HasDistinctKeys ↔
      (members.map Prod.fst).Nodup ∧ ∀ m ∈ members, m.2.HasDistinctKeys := by
  rw [HasDistinctKeys, everywhere_object_iff, hasOwnKeys, decide_eq_true_eq]
  rfl

theorem HasDistinctKeys.of_member? {v w : Json} {key : String} (h : v.HasDistinctKeys)
    (hw : v.member? key = some w) : w.HasDistinctKeys :=
  everywhere_of_member? h hw

/-! ## Numbers -/

/-- The value itself is no floating point number. -/
def isNoFloat : Json → Bool
  | .float _ => false
  | _ => true

/-- No floating point number is in the value. -/
def IsFloatFree (v : Json) : Prop := everywhere isNoFloat v = true

instance (v : Json) : Decidable v.IsFloatFree := inferInstanceAs (Decidable (_ = true))

theorem isFloatFree_array_iff {items : List Json} :
    (array items).IsFloatFree ↔ ∀ v ∈ items, v.IsFloatFree := by
  simp only [IsFloatFree, everywhere_array_iff, isNoFloat, true_and]

theorem isFloatFree_object_iff {members : List (String × Json)} :
    (object members).IsFloatFree ↔ ∀ m ∈ members, m.2.IsFloatFree := by
  simp only [IsFloatFree, everywhere_object_iff, isNoFloat, true_and]

theorem isWritable_array_iff {items : List Json} :
    (array items).isWritable = true ↔ ∀ v ∈ items, v.isWritable = true := by
  rw [isWritable]
  induction items with
  | nil => simp [areWritable]
  | cons item rest ih => simp [areWritable, ih]

theorem isWritable_object_iff {members : List (String × Json)} :
    (object members).isWritable = true ↔ ∀ m ∈ members, m.2.isWritable = true := by
  rw [isWritable]
  induction members with
  | nil => simp [areMembersWritable]
  | cons m rest ih => simp [areMembersWritable, ih]

/-! ## Documents read from text -/

theorem hasDistinctKeys_ofMembers {members : List (String × Json)}
    (h : ∀ m ∈ members, m.2.HasDistinctKeys) : (ofMembers members).HasDistinctKeys :=
  hasDistinctKeys_object_iff.mpr
    ⟨(OrderedMap.ofList members).nodup_keys,
      fun m hm ↦ h m (OrderedMap.mem_of_mem_entries_ofList hm)⟩

theorem hasDistinctKeys_of_readNumber {start : Nat} {negative : Bool} {cs rest : List Char}
    {v : Json} (h : readNumber start negative cs = .ok (v, rest)) : v.HasDistinctKeys := by
  rw [readNumber] at h
  split at h
  · cases h
  · simp only at h
    split_ifs at h <;> cases h <;> rfl

theorem hasDistinctKeys_of_mem_words : ∀ w ∈ words, w.2.HasDistinctKeys := by decide

theorem hasDistinctKeys_of_readWord? {cs rest : List Char} {v : Json}
    (h : readWord? cs = some (v, rest)) : v.HasDistinctKeys := by
  obtain ⟨w, hw, hv⟩ := List.exists_of_findSome?_eq_some h
  rw [Option.map_eq_some_iff] at hv
  obtain ⟨_, -, hv⟩ := hv
  obtain rfl : w.2 = v := congrArg Prod.fst hv
  exact hasDistinctKeys_of_mem_words w hw

/-- With this bound the readers of nested values read what has distinct keys in every object. -/
structure ReadsDistinct (bound : Nat) : Prop where
  value : ∀ {cs v rest}, readValue bound cs = .ok (v, rest) → v.HasDistinctKeys
  items : ∀ {cs items rest}, readItems bound cs = .ok (items, rest) →
    ∀ v ∈ items, v.HasDistinctKeys
  members : ∀ {cs members rest}, readMembers bound cs = .ok (members, rest) →
    ∀ m ∈ members, m.2.HasDistinctKeys

section

variable {bound : Nat} {cs rest : List Char}

theorem ReadsDistinct.readValue {v : Json} (h : ReadsDistinct bound)
    (hv : readValue (bound + 1) cs = .ok (v, rest)) : v.HasDistinctKeys := by
  rcases cs with _ | ⟨c, cs⟩
  · simp [Json.readValue] at hv
  rw [Json.readValue] at hv
  by_cases hquote : c = Text.doubleQuote
  · rw [if_pos hquote] at hv
    split at hv <;> cases hv
    rfl
  rw [if_neg hquote] at hv
  by_cases hopen : c = '['
  · rw [if_pos hopen] at hv
    split at hv
    · cases hv
      rfl
    · split at hv <;> cases hv
      next hitems => exact hasDistinctKeys_array_iff.mpr (h.items hitems)
  rw [if_neg hopen] at hv
  by_cases hbrace : c = '\x7b'
  · rw [if_pos hbrace] at hv
    split at hv
    · cases hv
      rfl
    · split at hv <;> cases hv
      next hmembers => exact hasDistinctKeys_ofMembers (h.members hmembers)
  rw [if_neg hbrace] at hv
  split at hv
  · next hword =>
    cases hv
    exact hasDistinctKeys_of_readWord? hword
  · split at hv <;> exact hasDistinctKeys_of_readNumber hv

theorem ReadsDistinct.readItems {items : List Json} (h : ReadsDistinct bound)
    (hitems : readItems (bound + 1) cs = .ok (items, rest)) : ∀ v ∈ items, v.HasDistinctKeys := by
  rw [Json.readItems] at hitems
  split at hitems
  · cases hitems
  next item after hitem =>
  have hv : item.HasDistinctKeys := h.value hitem
  split at hitems
  · cases hitems
    simpa using hv
  · split at hitems <;> cases hitems
    next hmore => exact List.forall_mem_cons.mpr ⟨hv, h.items hmore⟩
  · cases hitems

theorem ReadsDistinct.readMembers {members : List (String × Json)} (h : ReadsDistinct bound)
    (hmembers : readMembers (bound + 1) cs = .ok (members, rest)) :
    ∀ m ∈ members, m.2.HasDistinctKeys := by
  rcases cs with _ | ⟨c, cs⟩
  · simp [Json.readMembers] at hmembers
  rw [Json.readMembers] at hmembers
  split at hmembers
  · split at hmembers
    · cases hmembers
    split at hmembers
    · split at hmembers
      · cases hmembers
      next v after hvalue =>
      have hv : v.HasDistinctKeys := h.value hvalue
      split at hmembers
      · cases hmembers
        exact List.forall_mem_singleton.mpr hv
      · split at hmembers <;> cases hmembers
        next hmore => exact List.forall_mem_cons.mpr ⟨hv, h.members hmore⟩
      · cases hmembers
    · cases hmembers
  · cases hmembers

end

theorem readsDistinct (bound : Nat) : ReadsDistinct bound := by
  induction bound with
  | zero =>
    exact ⟨fun h ↦ by simp [readValue] at h, fun h ↦ by simp [readItems] at h,
      fun h ↦ by simp [readMembers] at h⟩
  | succ bound ih => exact ⟨ih.readValue, ih.readItems, ih.readMembers⟩

/-- **A document read from text is well formed**: no object in it holds a key twice. -/
theorem hasDistinctKeys_of_readChars {cs : List Char} {v : Json} (h : readChars cs = .ok v) :
    v.HasDistinctKeys := by
  rw [readChars] at h
  split at h
  · cases h
  next hv =>
  split at h <;> cases h
  exact (readsDistinct _).value hv

theorem hasDistinctKeys_of_readUnmarked {s : String} {v : Json} (h : readUnmarked s = .ok v) :
    v.HasDistinctKeys := by
  rw [readUnmarked] at h
  split at h <;> cases h
  next hv => exact hasDistinctKeys_of_readChars hv

theorem hasDistinctKeys_of_read {s : String} {v : Json} (h : read s = .ok v) :
    v.HasDistinctKeys := by
  rw [read] at h
  split at h
  · cases h
  · exact hasDistinctKeys_of_readUnmarked h

end RevisionGraph.Json
