import RevisionGraph.Proofs.Assembly.Order
import RevisionGraph.Proofs.Revision.Shape

/-!
# The ancestors that facts list

The ancestors of a type stand in a document as two arrays of identifiers, and a reader of documents
takes nothing else.  A reader of facts goes through whatever stands there: the characters of a text
and the keys of an object do for a list.

* **One key.**  `StrictlyLists` is the rule of documents and `Lists` is the rule of facts;
  `ancestors_cases` says what comes of a value.
* **One type.**  `IsNamedLast` points at the fact that has the last word on a type, and
  `hasAncestors_of_applyFacts` says that the type has the ancestors that this fact lists, whatever
  the assembly knew of it.
-/

set_option autoImplicit false

namespace RevisionGraph

open Result OrderedMap

/-- Nothing can be gone through: the value is no array, no text and no object. -/
def Json.IsScalar : Json → Prop
  | .array _ | .text _ | .object _ => False
  | _ => True

namespace Facts

variable {key : String} {fact : Json} {ids : List Identifier}

/-! ## One key -/

/-- What a fact lists under a key as documents list it: nothing if the key is missing, and otherwise
what the reader of types makes of it. -/
def StrictlyLists (key : String) (fact : Json) (ids : List Identifier) : Prop :=
  fact.member? key = none ∧ ids = [] ∨
    (fact.arrayField key "type" >>= fun items ↦ items.mapM Identifier.ofJson) = .ok ids

/-- What a fact lists under a key: items of an array, characters of a text or keys of an object. -/
inductive Lists (key : String) (fact : Json) : List String → Prop
  | absent (h : fact.member? key = none) : Lists key fact []
  | items {texts : List String} (h : fact.member? key = some (.array (texts.map .text))) :
      Lists key fact texts
  | characters {s : String} (h : fact.member? key = some (.text s)) :
      Lists key fact (s.toList.map String.singleton)
  | keys {members : List (String × Json)} (h : fact.member? key = some (.object members)) :
      Lists key fact (members.map Prod.fst)

/-- The value under the key is taken for a list and is none. -/
def IsLoose (key : String) (fact : Json) : Prop :=
  (∃ s, fact.member? key = some (.text s)) ∨ ∃ members, fact.member? key = some (.object members)

/-- The value under the key cannot be gone through. -/
def HasScalar (key : String) (fact : Json) : Prop :=
  ∃ value, fact.member? key = some value ∧ value.IsScalar

/-- The keys of a type fact under which ancestors stand. -/
def ancestorKeys : List String := ["superClasses", "superInterfaces"]

theorem strictlyLists_iff : StrictlyLists key fact ids ↔ fact.member? key = none ∧ ids = [] ∨
    fact.member? key = some (.array (ids.map Identifier.toJson)) := by
  refine or_congr_right ?_
  rw [bind_eq_ok_iff]
  constructor
  · rintro ⟨items, hitems, hids⟩
    have heq : items.map id = ids.map Identifier.toJson :=
      map_eq_of_forall₂ (mapM_eq_ok_iff.mp hids) fun _ _ ↦ Identifier.ofJson_eq_ok_iff.mp
    rw [Json.arrayField_eq_ok_iff.mp hitems, ← heq, List.map_id]
  · exact fun h ↦ ⟨_, Json.arrayField_eq_ok_iff.mpr h, Identifier.mapM_ofJson_toJson ids⟩

/-- What is listed strictly is listed. -/
theorem StrictlyLists.lists (h : StrictlyLists key fact ids) :
    Lists key fact (ids.map Identifier.text) := by
  rcases strictlyLists_iff.mp h with ⟨habsent, rfl⟩ | harray
  · exact .absent habsent
  · refine .items ?_
    rw [harray, List.map_map]
    rfl

theorem StrictlyLists.not_isLoose (h : StrictlyLists key fact ids) : ¬ IsLoose key fact := by
  rintro (⟨s, hs⟩ | ⟨members, hmembers⟩) <;>
    rcases strictlyLists_iff.mp h with ⟨habsent, -⟩ | harray
  · cases hs.symm.trans habsent
  · cases hs.symm.trans harray
  · cases hmembers.symm.trans habsent
  · cases hmembers.symm.trans harray

/-- A value that cannot be gone through is reported for what it is. -/
theorem ancestors_of_hasScalar (h : HasScalar key fact) :
    ∃ value, ancestors key fact = .error (.conversion (.notIterable value)) := by
  obtain ⟨value, hvalue, hscalar⟩ := h
  refine ⟨value, ?_⟩
  rw [ancestors, hvalue]
  cases value <;> first | rfl | cases hscalar

/-- A loose list is one of identifiers, or it is refused for its shape. -/
theorem lists_of_loose {texts : List String} (hlists : Lists key fact texts)
    (hloose : IsLoose key fact) :
    (∃ ids, texts.mapM Identifier.ofText = .ok ids ∧ Lists key fact (ids.map Identifier.text) ∧
      (StrictlyLists key fact ids ∨ IsLoose key fact)) ∨
    ∃ cause, texts.mapM Identifier.ofText = .error (.format cause) := by
  rcases Decides.mapM fun t (_ : t ∈ texts) ↦ Identifier.ofText_decides t with
    ⟨-, ids, hids⟩ | ⟨-, hcause⟩
  · exact .inl ⟨ids, hids, Identifier.mapM_ofText_eq_ok_iff.mp hids ▸ hlists, .inr hloose⟩
  · exact .inr hcause

/-- **What stands under a key is listed strictly or loosely, or it cannot be gone through**; or else
it is refused for its shape. -/
theorem ancestors_cases (key : String) (fact : Json) :
    HasScalar key fact ∨
    (∃ ids, ancestors key fact = .ok ids ∧ Lists key fact (ids.map Identifier.text) ∧
      (StrictlyLists key fact ids ∨ IsLoose key fact)) ∨
    ∃ cause, ancestors key fact = .error (.format cause) := by
  rw [ancestors]
  split
  · next h =>
    have hstrict : StrictlyLists key fact [] := strictlyLists_iff.mpr (.inl ⟨h, rfl⟩)
    exact .inr (.inl ⟨[], rfl, hstrict.lists, .inl hstrict⟩)
  · next items h =>
    rcases Decides.mapM fun v (_ : v ∈ items) ↦ Identifier.ofJson_decides v with
      ⟨-, ids, hids⟩ | ⟨-, hcause⟩
    · have hstrict : StrictlyLists key fact ids :=
        .inr (bind_eq_ok_iff.mpr ⟨items, Json.arrayField_eq_ok_iff.mpr h, hids⟩)
      exact .inr (.inl ⟨ids, hids, hstrict.lists, .inl hstrict⟩)
    · exact .inr (.inr hcause)
  · next s h =>
    have hmap := List.mapM_map (f := String.singleton) (g := Identifier.ofText) (l := s.toList)
    exact .inr (hmap ▸ lists_of_loose (.characters h) (.inl ⟨s, h⟩))
  · next members h =>
    have hmap := List.mapM_map (f := Prod.fst) (g := Identifier.ofText) (l := members)
    exact .inr (hmap ▸ lists_of_loose (.keys h) (.inr ⟨members, h⟩))
  · next value harray htext hobject h =>
    refine .inl ⟨value, h, ?_⟩
    cases value with
    | array items => exact harray items rfl
    | text s => exact htext s rfl
    | object members => exact hobject members rfl
    | _ => trivial

theorem lists_of_ancestors (h : ancestors key fact = .ok ids) :
    Lists key fact (ids.map Identifier.text) ∧
      (StrictlyLists key fact ids ∨ IsLoose key fact) := by
  rcases ancestors_cases key fact with hscalar | ⟨ids', hids, hlists⟩ | ⟨cause, herror⟩
  · obtain ⟨value, herror⟩ := ancestors_of_hasScalar hscalar
    cases h.symm.trans herror
  · cases h.symm.trans hids
    exact hlists
  · cases h.symm.trans herror

theorem ancestors_of_readType {e : Identifier × TypeInfo} (h : readType fact = .ok e) :
    ancestors "superClasses" fact = .ok e.2.superClasses ∧
      ancestors "superInterfaces" fact = .ok e.2.superInterfaces := by
  simp only [readType, bind_eq_ok_iff] at h
  obtain ⟨name, -, file, -, superClasses, hclasses, superInterfaces, hinterfaces, h⟩ := h
  cases h
  exact ⟨hclasses, hinterfaces⟩

/-! ## One type -/

/-- The fact has the last word on the type of that name. -/
def IsNamedLast (lines : List String) (name : Identifier) (fact : Json) : Prop :=
  ∃ before after, factsOn lines = before ++ fact :: after ∧ typeName? fact = some name.text ∧
    ∀ f ∈ after, typeName? f ≠ some name.text

theorem IsNamedLast.mem_types {lines : List String} {name : Identifier}
    (h : IsNamedLast lines name fact) :
    fact ∈ factsOn lines ∧ isOfKind .type fact = true := by
  obtain ⟨before, after, hlines, hname, -⟩ := h
  refine ⟨by rw [hlines]; simp, ?_⟩
  by_contra hno
  rw [typeName?, if_neg hno] at hname
  cases hname

/-- What is reported last of a type is what the fact reports that has the last word on it. -/
theorem Reports.AreOf.exists_last {r : Reports} {lines : List String} {name : Identifier}
    (h : r.AreOf (factsOn lines)) (hlast : IsNamedLast lines name fact) :
    ∃ before info after, r.types = before ++ (name, info) :: after ∧
      readType fact = .ok (name, info) ∧ name ∉ after.map Prod.fst := by
  obtain ⟨-, hkind⟩ := hlast.mem_types
  obtain ⟨before, after, hlines, hname, hafter⟩ := hlast
  have htypes := h.types
  rw [hlines, List.filter_append, List.filter_cons_of_pos hkind] at htypes
  obtain ⟨pre, e, post, hsplit, hread, hpost⟩ := exists_split_right_of_forall₂ htypes
  have hnamed {f : Json} {e : Identifier × TypeInfo} (hf : isOfKind .type f = true)
      (he : readType f = .ok e) : typeName? f = some e.1.text := by
    rw [typeName?, if_pos hf, uri?_of_readType he]
  have htext : name.text = e.1.text := Option.some.inj (hname.symm.trans (hnamed hkind hread))
  obtain rfl : name = e.1 := Identifier.ext htext
  refine ⟨pre, e.2, post, hsplit, hread, fun hmem ↦ ?_⟩
  obtain ⟨e', he', heq⟩ := List.mem_map.mp hmem
  obtain ⟨f, hf, hread'⟩ := exists_left_of_forall₂ hpost he'
  obtain ⟨hf, hkind'⟩ := List.mem_filter.mp hf
  exact hafter f hf (heq ▸ hnamed hkind' hread')

end Facts

namespace Assembly

variable {a b : Assembly} {lines : List String}

theorem find?_foldl_takeType_of_not_mem {l : List (Identifier × TypeInfo)} {name : Identifier}
    (h : name ∉ l.map Prod.fst) :
    (l.foldl takeType a).types.find? name = a.types.find? name := by
  induction l generalizing a with
  | nil => rfl
  | cons e rest ih =>
    rw [List.map_cons, List.mem_cons, not_or] at h
    rw [List.foldl_cons, ih h.2, takeType, find?_addType, if_neg h.1]

theorem bare_foldlM_takeMethod {l : List (Identifier × Identifier)}
    (h : l.foldlM takeMethod a = .ok b) (name : Identifier) :
    (b.types.find? name).map TypeInfo.bare = (a.types.find? name).map TypeInfo.bare := by
  induction l generalizing a with
  | nil =>
    obtain rfl : a = b := by injection h
    rfl
  | cons m rest ih =>
    rw [List.foldlM_cons, bind_eq_ok_iff] at h
    obtain ⟨c, hc, h⟩ := h
    obtain ⟨id, hc⟩ := takeMethod_eq_ok_iff.mp hc
    rw [ih h, find?_bare_addMethod hc]

/-- Of reports on one type the last stays. -/
theorem bare_take {r : Facts.Reports} {before after : List (Identifier × TypeInfo)}
    {name : Identifier} {info : TypeInfo} (h : a.take r = .ok b)
    (htypes : r.types = before ++ (name, info) :: after) (hafter : name ∉ after.map Prod.fst) :
    (b.types.find? name).map TypeInfo.bare = some info.bare := by
  rw [take, bind_eq_ok_iff] at h
  obtain ⟨c, hc, h⟩ := h
  obtain rfl : r.calls.foldl takeCall c = b := by injection h
  rw [foldl_takeCall, bare_foldlM_takeMethod hc, htypes, List.foldl_append, List.foldl_cons,
    find?_foldl_takeType_of_not_mem hafter, takeType, find?_addType, if_pos rfl]
  rfl

/-- The types that facts name have the ancestors that the last fact on each of them lists. -/
def HasAncestors (lists : String → Json → List Identifier → Prop) (a : Assembly)
    (lines : List String) : Prop :=
  ∀ name fact, Facts.IsNamedLast lines name fact → ∃ info, a.types.find? name = some info ∧
    lists "superClasses" fact info.superClasses ∧ lists "superInterfaces" fact info.superInterfaces

/-- **The last fact on a type says what its ancestors are.** -/
theorem hasAncestors_of_applyFacts {n : Nat} (h : a.applyFacts lines = (b, .ok n)) :
    b.HasAncestors (fun key fact ids ↦ Facts.ancestors key fact = .ok ids) lines := by
  intro name fact hlast
  obtain ⟨-, r, hr, htake⟩ := applyFacts_eq_ok_iff.mp ⟨n, h⟩
  obtain ⟨before, info, after, htypes, hread, hafter⟩ := hr.exists_last hlast
  have hbare := bare_take htake htypes hafter
  rw [Option.map_eq_some_iff] at hbare
  obtain ⟨known, hknown, hbare⟩ := hbare
  obtain ⟨hclasses, hinterfaces⟩ := Facts.ancestors_of_readType hread
  obtain ⟨-, -, hsuper, hinter⟩ := TypeInfo.mk.inj hbare
  exact ⟨known, hknown, hsuper ▸ hclasses, hinter ▸ hinterfaces⟩

/-- Facts that are applied are read, so what stands under their keys is listed. -/
theorem exists_ancestors_of_applyFacts {n : Nat} (h : a.applyFacts lines = (b, .ok n))
    {fact : Json} (hfact : fact ∈ Facts.factsOn lines) (hkind : Facts.isOfKind .type fact = true) :
    ∀ key ∈ Facts.ancestorKeys, ∃ ids, Facts.ancestors key fact = .ok ids := by
  obtain ⟨-, r, hr, -⟩ := applyFacts_eq_ok_iff.mp ⟨n, h⟩
  obtain ⟨e, -, hread⟩ := exists_right_of_forall₂ hr.types (List.mem_filter.mpr ⟨hfact, hkind⟩)
  obtain ⟨hclasses, hinterfaces⟩ := Facts.ancestors_of_readType hread
  rw [Facts.ancestorKeys, List.forall_mem_cons, List.forall_mem_singleton]
  exact ⟨⟨_, hclasses⟩, _, hinterfaces⟩

theorem HasAncestors.imp {R S : String → Json → List Identifier → Prop}
    (h : a.HasAncestors R lines)
    (hRS : ∀ fact ∈ Facts.factsOn lines, Facts.isOfKind .type fact = true →
      ∀ key ∈ Facts.ancestorKeys, ∀ ids, R key fact ids → S key fact ids) :
    a.HasAncestors S lines := by
  intro name fact hlast
  obtain ⟨hfact, hkind⟩ := hlast.mem_types
  have hboth := hRS fact hfact hkind
  rw [Facts.ancestorKeys, List.forall_mem_cons, List.forall_mem_singleton] at hboth
  obtain ⟨info, hinfo, hclasses, hinterfaces⟩ := h name fact hlast
  exact ⟨info, hinfo, hboth.1 _ hclasses, hboth.2 _ hinterfaces⟩

end Assembly

end RevisionGraph
