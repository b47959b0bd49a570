import RevisionGraph.Assembly.Basic
import RevisionGraph.Proofs.Revision.Validity

/-!
# The registry of an assembly

The methods that an assembly registered stand twice in it: in the table that gives them ids, and
under their ids in their types.  `Assembly.IsWellFormed` says that the two agree, and every
operation keeps it: an assembly that was made by the operations is well formed,
`Reached.isWellFormed`.

* **Ids.**  `methodId?_eq_some_iff`: a method has as its id the place at which it was registered.
* **Registering a method.**  `addMethod_eq_ok_iff` takes a success apart and
  `exists_addMethod_iff` says when there is one; `owns_addMethod` and `methods_addMethod` say what
  became of the registry.  A refusal leaves the assembly as it was, `addMethod_cases`.
* **Registering a type.**  `defines_addType`: it changes no method.
-/

set_option autoImplicit false

namespace RevisionGraph

open OrderedMap

/-- What a type says of itself: all but its methods. -/
def TypeInfo.bare (t : TypeInfo) : TypeInfo := { t with methods := .empty }

namespace Assembly

/-- The method is registered under the type. -/
def Owns (a : Assembly) (type method : Identifier) : Prop := ∃ id, a.types.Defines type id method

/-- The table of ids and the methods of the types agree. -/
structure IsWellFormed (a : Assembly) : Prop where
  /-- Ids are given one after the other, from zero on. -/
  id_eq : ∀ {n : Nat} {method id}, a.methodIds.entries[n]? = some (method, id) → id = n
  methodId?_of_defines : ∀ {type id method}, a.types.Defines type id method →
    a.methodId? method = some id
  owner_unique : ∀ {type type' method}, a.Owns type method → a.Owns type' method → type = type'
  exists_owner : ∀ {method}, method ∈ a.methods → ∃ type, a.Owns type method

/-! ## Ids -/

variable {a b : Assembly} {type method : Identifier} {id : MethodId}

theorem nodup_methods (a : Assembly) : a.methods.Nodup := a.methodIds.nodup_keys

theorem length_methods (a : Assembly) : a.methods.length = a.methodIds.size := List.length_map ..

theorem methodId?_eq_none_iff : a.methodId? method = none ↔ method ∉ a.methods := find?_eq_none_iff

theorem isSome_methodId?_iff : (a.methodId? method).isSome ↔ method ∈ a.methods := find?_isSome_iff

theorem mem_methods_of_methodId? (h : a.methodId? method = some id) : method ∈ a.methods :=
  isSome_methodId?_iff.mp (by rw [h]; rfl)

theorem getElem?_methods (a : Assembly) (n : Nat) :
    a.methods[n]? = (a.methodIds.entries[n]?).map Prod.fst := List.getElem?_map

namespace IsWellFormed

/-- **The id of a method is its place among the methods.** -/
theorem methodId?_eq_some_iff (h : a.IsWellFormed) :
    a.methodId? method = some id ↔ ∃ n : Nat, id = n ∧ a.methods[n]? = some method := by
  rw [methodId?, find?_eq_some_iff]
  constructor
  · intro hmem
    obtain ⟨n, hn⟩ := List.mem_iff_getElem?.mp hmem
    exact ⟨n, h.id_eq hn, by rw [getElem?_methods, hn]; rfl⟩
  · rintro ⟨n, rfl, hn⟩
    rw [getElem?_methods, Option.map_eq_some_iff] at hn
    obtain ⟨⟨method', id⟩, hn, rfl⟩ := hn
    obtain rfl := h.id_eq hn
    exact List.mem_of_getElem? hn

/-- Ids are numbers below the number of methods. -/
theorem exists_of_methodId? (h : a.IsWellFormed) (hid : a.methodId? method = some id) :
    ∃ n : Nat, id = n ∧ n < a.methodIds.size := by
  obtain ⟨n, rfl, hn⟩ := h.methodId?_eq_some_iff.mp hid
  exact ⟨n, rfl, a.length_methods ▸ (List.getElem?_eq_some_iff.mp hn).1⟩

/-- Methods have ids of their own. -/
theorem methodId?_inj (h : a.IsWellFormed) {method' : Identifier}
    (hid : a.methodId? method = some id) (hid' : a.methodId? method' = some id) :
    method = method' := by
  obtain ⟨n, rfl, hn⟩ := h.methodId?_eq_some_iff.mp hid
  obtain ⟨n', heq, hn'⟩ := h.methodId?_eq_some_iff.mp hid'
  obtain rfl : n = n' := Int.ofNat.inj heq
  exact Option.some.inj (hn.symm.trans hn')

/-- The order of the methods tells their ids. -/
theorem methodIds_eq (h : a.IsWellFormed) (hb : b.IsWellFormed) (hmethods : a.methods = b.methods) :
    a.methodIds = b.methodIds := by
  refine OrderedMap.ext (List.ext_getElem? fun n ↦ ?_)
  have hn : (a.methodIds.entries[n]?).map Prod.fst = (b.methodIds.entries[n]?).map Prod.fst := by
    rw [← getElem?_methods, ← getElem?_methods, hmethods]
  cases hx : a.methodIds.entries[n]? with
  | none =>
    rw [hx, Option.map_none, eq_comm, Option.map_eq_none_iff] at hn
    exact hn.symm
  | some x =>
    rw [hx, Option.map_some, eq_comm, Option.map_eq_some_iff] at hn
    obtain ⟨y, hy, heq⟩ := hn
    rw [hy, Option.some.injEq, Prod.ext_iff]
    exact ⟨heq.symm, (h.id_eq hx).trans (hb.id_eq hy).symm⟩

theorem mem_methods_iff (h : a.IsWellFormed) : method ∈ a.methods ↔ ∃ type, a.Owns type method := by
  refine ⟨h.exists_owner, ?_⟩
  rintro ⟨type, id, hdef⟩
  rw [← isSome_methodId?_iff, h.methodId?_of_defines hdef]
  rfl

/-- A type defines its methods under their ids. -/
theorem defines_iff (h : a.IsWellFormed) :
    a.types.Defines type id method ↔ a.Owns type method ∧ a.methodId? method = some id := by
  constructor
  · exact fun hdef ↦ ⟨⟨id, hdef⟩, h.methodId?_of_defines hdef⟩
  · rintro ⟨⟨id', hdef⟩, hid⟩
    rw [h.methodId?_of_defines hdef] at hid
    cases hid
    exact hdef

theorem nonneg_ids (h : a.IsWellFormed) : ∀ id ∈ a.types.ids, 0 ≤ id := by
  intro id hid
  obtain ⟨type, method, hdef⟩ := Hierarchy.mem_ids_iff.mp hid
  obtain ⟨n, rfl, -⟩ := h.exists_of_methodId? (h.methodId?_of_defines hdef)
  exact Int.natCast_nonneg n

/-- No two types of a well-formed assembly share an id. -/
theorem nodup_ids (h : a.IsWellFormed) : a.types.ids.Nodup := by
  rw [Hierarchy.nodup_ids_iff]
  intro type type' id method method' hdef hdef'
  obtain rfl := h.methodId?_inj (h.methodId?_of_defines hdef) (h.methodId?_of_defines hdef')
  exact h.owner_unique ⟨id, hdef⟩ ⟨id, hdef'⟩

theorem mem_ids_iff (h : a.IsWellFormed) :
    id ∈ a.types.ids ↔ ∃ method, a.methodId? method = some id := by
  rw [Hierarchy.mem_ids_iff]
  constructor
  · rintro ⟨type, method, hdef⟩
    exact ⟨method, h.methodId?_of_defines hdef⟩
  · rintro ⟨method, hid⟩
    have hmem : method ∈ a.methods := mem_methods_of_methodId? hid
    obtain ⟨type, howns⟩ := h.exists_owner hmem
    exact ⟨type, method, h.defines_iff.mpr ⟨howns, hid⟩⟩

/-- Only the types and the table of ids matter. -/
theorem of_eq (h : a.IsWellFormed) (htypes : b.types = a.types)
    (hids : b.methodIds = a.methodIds) : b.IsWellFormed := by
  obtain ⟨types, methodIds, calls, stats⟩ := a
  obtain ⟨_, _, calls', stats'⟩ := b
  cases htypes
  cases hids
  exact ⟨h.id_eq, h.methodId?_of_defines, h.owner_unique, h.exists_owner⟩

end IsWellFormed

theorem isWellFormed_empty : empty.IsWellFormed where
  id_eq := by rintro _ _ _ ⟨⟩
  methodId?_of_defines := by rintro _ _ _ ⟨_, ⟨⟩, _⟩
  owner_unique := by rintro _ _ _ ⟨_, _, ⟨⟩, _⟩
  exists_owner := by rintro _ ⟨⟩

/-! ## Registering types -/

section

variable (a) (name : Identifier) (sourceFile : String)
  (superClasses superInterfaces : List Identifier)

theorem find?_addType (t : Identifier) :
    (a.addType name sourceFile superClasses superInterfaces).types.find? t =
      if t = name then
        some ⟨sourceFile, (a.types.find? name).elim .empty TypeInfo.methods, superClasses,
          superInterfaces⟩
      else a.types.find? t := by
  rw [addType, find?_insert]
  cases a.types.find? name with
  | none => rfl
  | some known => rfl

/-- Registering a type changes no method. -/
theorem defines_addType :
    (a.addType name sourceFile superClasses superInterfaces).types.Defines type id method ↔
      a.types.Defines type id method := by
  simp only [Hierarchy.Defines, find?_addType]
  split
  · next h =>
    subst h
    cases a.types.find? type with
    | none => simp
    | some known => simp
  · rfl

theorem IsWellFormed.addType {a : Assembly} (h : a.IsWellFormed) (name : Identifier)
    (sourceFile : String) (superClasses superInterfaces : List Identifier) :
    (a.addType name sourceFile superClasses superInterfaces).IsWellFormed where
  id_eq := h.id_eq
  methodId?_of_defines hdef := h.methodId?_of_defines ((defines_addType ..).mp hdef)
  owner_unique := by
    simp only [Owns, defines_addType]
    exact h.owner_unique
  exists_owner := by
    simp only [Owns, defines_addType]
    exact h.exists_owner

end

/-! ## Registering methods -/

/-- The assembly with one more method of a type. -/
def register (a : Assembly) (type : Identifier) (info : TypeInfo) (method : Identifier) :
    Assembly :=
  { a with
    methodIds := a.methodIds.insert method (a.methodIds.size : MethodId)
    types := a.types.insert type
      { info with methods := info.methods.insert (a.methodIds.size : MethodId) method } }

/-- **A method gets an id, or it is refused**, and then the assembly is as it was. -/
theorem addMethod_cases (a : Assembly) (type method : Identifier) :
    (∃ b id, a.addMethod type method = (b, .ok id)) ∨
      ∃ e, a.addMethod type method = (a, .error e) := by
  rw [addMethod]
  split
  · exact .inr ⟨_, rfl⟩
  split
  · split
    · exact .inl ⟨_, _, rfl⟩
    · exact .inr ⟨_, rfl⟩
  · exact .inl ⟨_, _, rfl⟩

theorem addMethod_eq_ok_iff : a.addMethod type method = (b, .ok id) ↔
    (a.methodId? method = some id ∧ a.types.Defines type id method ∧ b = a) ∨
    (∃ info, a.types.find? type = some info ∧ a.methodId? method = none ∧
      id = a.methodIds.size ∧ b = a.register type info method) := by
  rw [addMethod, Hierarchy.Defines]
  cases hinfo : a.types.find? type with
  | none => simp
  | some info =>
    cases hid : a.methodId? method with
    | none =>
      simp only [Except.ok.injEq, Prod.mk.injEq, register]
      simp [eq_comm, and_comm]
    | some known =>
      simp only
      split
      · next hmethod =>
        simp only [Except.ok.injEq, Prod.mk.injEq, Option.some.injEq]
        constructor
        · rintro ⟨rfl, rfl⟩
          exact .inl ⟨rfl, ⟨info, rfl, hmethod⟩, rfl⟩
        · rintro (⟨rfl, -, rfl⟩ | ⟨_, -, h, -⟩)
          · exact ⟨rfl, rfl⟩
          · cases h
      · next hmethod =>
        refine iff_of_false (by rintro ⟨⟩) ?_
        rintro (⟨heq, ⟨_, hinfo', hmethod'⟩, -⟩ | ⟨_, -, h, -⟩)
        · cases heq
          cases hinfo'
          exact hmethod hmethod'
        · cases h

/-- A new method gets the next id; the others keep theirs. -/
theorem methodId?_register {info : TypeInfo} (hnew : a.methodId? method = none)
    {method' : Identifier} {id' : MethodId} :
    (a.register type info method).methodId? method' = some id' ↔
      a.methodId? method' = some id' ∨ id' = a.methodIds.size ∧ method' = method := by
  rw [methodId?, register, find?_insert, ← methodId?]
  split
  · next heq =>
    rw [heq, hnew]
    simp [eq_comm]
  · next hne => simp [hne]

/-- A new method comes last. -/
theorem entries_register {info : TypeInfo} (hnew : a.methodId? method = none) :
    (a.register type info method).methodIds.entries =
      a.methodIds.entries ++ [(method, (a.methodIds.size : MethodId))] :=
  insertEntry_eq_append (find?_eq_none_iff.mp hnew)

theorem IsWellFormed.defines_register (h : a.IsWellFormed) {info : TypeInfo}
    (hinfo : a.types.find? type = some info) {type' method' : Identifier} {id' : MethodId} :
    (a.register type info method).types.Defines type' id' method' ↔
      a.types.Defines type' id' method' ∨
        type' = type ∧ id' = a.methodIds.size ∧ method' = method := by
  -- ids are places among the methods, so the next place is not in use
  have hlt : ∀ {t id m}, a.types.Defines t id m → id ≠ a.methodIds.size := by
    intro t id m hdef
    obtain ⟨n, rfl, hn⟩ := h.exists_of_methodId? (h.methodId?_of_defines hdef)
    exact fun heq ↦ Nat.ne_of_lt hn (Int.ofNat.inj heq)
  have hold := @hlt type' id' method'
  simp only [Hierarchy.Defines, register, find?_insert] at hold ⊢
  by_cases htype : type' = type
  · subst htype
    simp only [if_true, Option.some.injEq, exists_eq_left', find?_insert, hinfo, true_and] at hold ⊢
    by_cases hid : id' = a.methodIds.size
    · rw [if_pos hid]
      simp only [Option.some.injEq]
      constructor
      · exact fun hm ↦ .inr ⟨hid, hm.symm⟩
      · rintro (hm | ⟨-, rfl⟩)
        · exact absurd hid (hold hm)
        · rfl
    · rw [if_neg hid]
      simp [hid]
  · simp [htype]

theorem IsWellFormed.owns_register (h : a.IsWellFormed) {info : TypeInfo}
    (hinfo : a.types.find? type = some info) {type' method' : Identifier} :
    (a.register type info method).Owns type' method' ↔
      a.Owns type' method' ∨ type' = type ∧ method' = method := by
  simp only [Owns, h.defines_register hinfo, exists_or]
  refine or_congr_right ?_
  simp

theorem IsWellFormed.register (h : a.IsWellFormed) {info : TypeInfo}
    (hinfo : a.types.find? type = some info) (hnew : a.methodId? method = none) :
    (a.register type info method).IsWellFormed := by
  have hmem : method ∉ a.methods := methodId?_eq_none_iff.mp hnew
  -- a new method has no owner yet, so the type it is registered for is its only one
  have hunowned : ∀ t, ¬ a.Owns t method := fun t ht ↦ hmem (h.mem_methods_iff.mpr ⟨t, ht⟩)
  refine ⟨fun {n m id} hn ↦ ?_, fun hdef ↦ ?_, fun hown hown' ↦ ?_, fun hmethod ↦ ?_⟩
  · rw [entries_register hnew, List.getElem?_append] at hn
    split at hn
    · exact h.id_eq hn
    · next hlast =>
      obtain ⟨hlt, heq⟩ := List.getElem?_eq_some_iff.mp hn
      have hzero : n - a.methodIds.entries.length = 0 := Nat.lt_one_iff.mp hlt
      have hn : n = a.methodIds.size := Nat.le_antisymm (Nat.sub_eq_zero_iff_le.mp hzero)
        (Nat.not_lt.mp hlast)
      simp only [hzero, List.getElem_cons_zero, Prod.mk.injEq] at heq
      rw [hn, ← heq.2]
  · rw [methodId?_register hnew]
    rcases (h.defines_register hinfo).mp hdef with hdef | ⟨-, hid, hmethod⟩
    · exact .inl (h.methodId?_of_defines hdef)
    · exact .inr ⟨hid, hmethod⟩
  · rw [h.owns_register hinfo] at hown hown'
    rcases hown with hown | ⟨rfl, rfl⟩ <;> rcases hown' with hown' | ⟨rfl, hmethod⟩
    · exact h.owner_unique hown hown'
    · exact absurd (hmethod ▸ hown) (hunowned _)
    · exact absurd hown' (hunowned _)
    · rfl
  · simp only [h.owns_register hinfo]
    rcases mem_keys_insert.mp hmethod with rfl | hmethod
    · exact ⟨type, .inr ⟨rfl, rfl⟩⟩
    · obtain ⟨t, ht⟩ := h.exists_owner hmethod
      exact ⟨t, .inl ht⟩

section

variable (hb : a.addMethod type method = (b, .ok id))
include hb

theorem IsWellFormed.addMethod (h : a.IsWellFormed) : b.IsWellFormed := by
  rcases addMethod_eq_ok_iff.mp hb with ⟨-, -, rfl⟩ | ⟨info, hinfo, hnew, -, rfl⟩
  · exact h
  · exact h.register hinfo hnew

/-- The method is registered under the type, and nothing else changes hands. -/
theorem IsWellFormed.owns_addMethod (h : a.IsWellFormed) {type' method' : Identifier} :
    b.Owns type' method' ↔ a.Owns type' method' ∨ type' = type ∧ method' = method := by
  rcases addMethod_eq_ok_iff.mp hb with ⟨-, hdef, rfl⟩ | ⟨info, hinfo, -, -, rfl⟩
  · refine (or_iff_left_of_imp ?_).symm
    rintro ⟨rfl, rfl⟩
    exact ⟨id, hdef⟩
  · exact h.owns_register hinfo

theorem methods_addMethod :
    b.methods = if method ∈ a.methods then a.methods else a.methods ++ [method] := by
  rcases addMethod_eq_ok_iff.mp hb with ⟨hid, -, rfl⟩ | ⟨info, -, hnew, -, rfl⟩
  · rw [if_pos (mem_methods_of_methodId? hid)]
  · exact a.methodIds.keys_insert method _

theorem find?_bare_addMethod (t : Identifier) :
    (b.types.find? t).map TypeInfo.bare = (a.types.find? t).map TypeInfo.bare := by
  rcases addMethod_eq_ok_iff.mp hb with ⟨-, -, rfl⟩ | ⟨info, hinfo, -, -, rfl⟩
  · rfl
  · rw [Assembly.register, find?_insert]
    split
    · next h => rw [h, hinfo]; rfl
    · rfl

theorem calls_addMethod : b.calls = a.calls := by
  rcases addMethod_eq_ok_iff.mp hb with ⟨-, -, rfl⟩ | ⟨info, -, -, -, rfl⟩ <;> rfl

end

/-- **A method is registered unless its type is unknown or another type has it.** -/
theorem IsWellFormed.exists_addMethod_iff (h : a.IsWellFormed) :
    (∃ b id, a.addMethod type method = (b, .ok id)) ↔
      (a.types.find? type).isSome ∧ ∀ t, a.Owns t method → t = type := by
  constructor
  · rintro ⟨b, id, hb⟩
    rcases addMethod_eq_ok_iff.mp hb with ⟨-, hdef, rfl⟩ | ⟨info, hinfo, hnew, -, rfl⟩
    · refine ⟨?_, fun t ht ↦ h.owner_unique ht ⟨id, hdef⟩⟩
      obtain ⟨info, hinfo, -⟩ := hdef
      rw [hinfo]
      rfl
    · refine ⟨by rw [hinfo]; rfl, fun t ht ↦ ?_⟩
      exact absurd (h.mem_methods_iff.mpr ⟨t, ht⟩) (methodId?_eq_none_iff.mp hnew)
  · rintro ⟨htype, howner⟩
    obtain ⟨info, hinfo⟩ := Option.isSome_iff_exists.mp htype
    cases hid : a.methodId? method with
    | none => exact ⟨_, _, addMethod_eq_ok_iff.mpr (.inr ⟨info, hinfo, hid, rfl, rfl⟩)⟩
    | some known =>
      have hmem : method ∈ a.methods := mem_methods_of_methodId? hid
      obtain ⟨t, ht⟩ := h.exists_owner hmem
      obtain rfl := howner t ht
      exact ⟨_, _, addMethod_eq_ok_iff.mpr (.inl ⟨hid, h.defines_iff.mpr ⟨ht, hid⟩, rfl⟩)⟩

/-! ## Assemblies that operations lead to -/

theorem types_buildGraph (a : Assembly) : a.buildGraph.1.types = a.types := by
  rw [buildGraph]
  split
  split <;> rfl

theorem methodIds_buildGraph (a : Assembly) : a.buildGraph.1.methodIds = a.methodIds := by
  rw [buildGraph]
  split
  split <;> rfl

theorem fst_build (a : Assembly) (r : Release) : (a.build r).1 = a.buildGraph.1 := by
  rw [build]
  split
  next b result h =>
    rw [h]
    split <;> rfl

theorem types_build (a : Assembly) (r : Release) : (a.build r).1.types = a.types := by
  rw [fst_build, types_buildGraph]

theorem methodIds_build (a : Assembly) (r : Release) :
    (a.build r).1.methodIds = a.methodIds := by
  rw [fst_build, methodIds_buildGraph]

/-- The assemblies that operations on a new one lead to. -/
inductive Reached : Assembly → Prop
  | empty : Reached .empty
  | addType {a : Assembly} (name : Identifier) (sourceFile : String)
      (superClasses superInterfaces : List Identifier) (ha : Reached a) :
      Reached (a.addType name sourceFile superClasses superInterfaces)
  | addMethod {a : Assembly} (type method : Identifier) (ha : Reached a) :
      Reached (a.addMethod type method).1
  | addCall {a : Assembly} (source target : Identifier) (callType : String) (ha : Reached a) :
      Reached (a.addCall source target callType)
  | buildGraph {a : Assembly} (ha : Reached a) : Reached a.buildGraph.1
  | build {a : Assembly} (r : Release) (ha : Reached a) : Reached (a.build r).1

/-- **Whatever operations lead to is well formed.** -/
theorem Reached.isWellFormed (h : a.Reached) : a.IsWellFormed := by
  induction h with
  | empty => exact isWellFormed_empty
  | addType name sourceFile superClasses superInterfaces _ ih =>
    exact ih.addType name sourceFile superClasses superInterfaces
  | @addMethod a type method _ ih =>
    rcases a.addMethod_cases type method with ⟨b, id, hb⟩ | ⟨e, he⟩
    · exact hb ▸ ih.addMethod hb
    · exact he ▸ ih
  | addCall source target callType _ ih => exact ih.of_eq rfl rfl
  | @buildGraph a _ ih => exact ih.of_eq a.types_buildGraph a.methodIds_buildGraph
  | @build a r _ ih => exact ih.of_eq (a.types_build r) (a.methodIds_build r)

end Assembly

end RevisionGraph
