import Mathlib.Data.List.Perm.Basic
import RevisionGraph.Proofs.Revision.Validity
import RevisionGraph.Revision.Wire

/-!
# Canonical form of revisions

Maps remember the order in which their entries came, and documents do not show it: types, methods,
external calls and tallies are written in the order of their keys.  `Revision.canonical` puts the
maps of a revision into that order and changes nothing else.

* **What it forgets.**  `Same` says of two values that they differ in the order of maps at most;
  for each kind of value `canonical_eq_iff_same` says that `canonical` forgets that much and no
  more.
* **What documents show.**  `toJson_canonical` and `encode_canonical`: a revision and its canonical
  form have one document.

The order of internal calls is part of a revision, and `canonical` keeps it.
-/

set_option autoImplicit false

namespace RevisionGraph

open OrderedMap

/-! ## Types -/

namespace TypeInfo

/-- The two types say the same, in whatever order their methods are. -/
structure Same (s t : TypeInfo) : Prop where
  sourceFile : s.sourceFile = t.sourceFile
  methods : Agree Eq s.methods t.methods
  superClasses : s.superClasses = t.superClasses
  superInterfaces : s.superInterfaces = t.superInterfaces

/-- A type with its methods in the order of their ids. -/
def canonical (t : TypeInfo) : TypeInfo :=
  { t with methods := t.methods.sortBy fun a b ↦ decide (a ≤ b) }

theorem canonical_eq_iff_same {s t : TypeInfo} : s.canonical = t.canonical ↔ s.Same t := by
  have hmethods := sortBy_eq_iff_agree linearLE_int (m := s.methods) (n := t.methods)
  constructor
  · intro h
    injection h with hfile hsort hclasses hinterfaces
    exact ⟨hfile, hmethods.mp hsort, hclasses, hinterfaces⟩
  · rintro ⟨hfile, hagree, hclasses, hinterfaces⟩
    rw [canonical, canonical, hmethods.mpr hagree, hfile, hclasses, hinterfaces]

theorem same_canonical (t : TypeInfo) : t.canonical.Same t := ⟨rfl, agree_sortBy _ _, rfl, rfl⟩

theorem sortedMethods_canonical (t : TypeInfo) : t.canonical.sortedMethods = t.sortedMethods :=
  mergeSort_mergeSort Prod.fst linearLE_int t.methods.entries

theorem toJson_canonical (t : TypeInfo) : t.canonical.toJson = t.toJson := by
  rw [toJson, sortedMethods_canonical]
  rfl

end TypeInfo

namespace Hierarchy

/-- The hierarchies say the same of the same types. -/
def Same (h k : Hierarchy) : Prop := Agree TypeInfo.Same h k

/-- A hierarchy in the order of its types. -/
def canonical (h : Hierarchy) : Hierarchy :=
  (h.mapValues TypeInfo.canonical).sortBy fun a b ↦ (compare a b).isLE

theorem canonical_eq_iff_same {h k : Hierarchy} : h.canonical = k.canonical ↔ h.Same k := by
  rw [canonical, canonical, sortBy_eq_iff_agree Identifier.linearLE, agree_mapValues_iff, Same]
  simp only [TypeInfo.canonical_eq_iff_same]

theorem same_canonical (h : Hierarchy) : h.canonical.Same h :=
  agree_sortBy_mapValues _ h TypeInfo.same_canonical

theorem entries_canonical (h : Hierarchy) :
    h.canonical.entries = h.sortedTypes.map fun e ↦ (e.1, e.2.canonical) := by
  rw [canonical, sortBy_mapValues]
  rfl

theorem toJson_canonical (h : Hierarchy) : h.canonical.toJson = h.toJson := by
  have hsorted : h.canonical.sortedTypes = h.sortedTypes.map fun e ↦ (e.1, e.2.canonical) := by
    rw [← entries_canonical]
    exact mergeSort_mergeSort Prod.fst Identifier.linearLE (h.mapValues TypeInfo.canonical).entries
  rw [toJson, hsorted, toJson, List.map_map]
  simp only [Function.comp_def, TypeInfo.toJson_canonical]

theorem methodEntries_canonical_perm (h : Hierarchy) :
    h.canonical.methodEntries.Perm h.methodEntries := by
  have hsort := (entries_sortBy_perm (fun a b ↦ (compare a b).isLE)
    (h.mapValues TypeInfo.canonical)).map Prod.snd
  refine (hsort.flatMap_right _).trans ?_
  rw [mapValues, List.map_map, List.flatMap_map, methodEntries, values, List.flatMap_map]
  exact List.Perm.flatMap_left _ fun e _ ↦ entries_sortBy_perm _ e.2.methods

end Hierarchy

/-! ## Calls -/

namespace Tally

/-- A tally in the order of the types of the calls. -/
def canonical (t : Tally) : Tally := t.sortBy fun a b ↦ (compare a b).isLE

theorem canonical_eq_iff_agree {s t : Tally} : s.canonical = t.canonical ↔ Agree Eq s t :=
  sortBy_eq_iff_agree (LinearLE.ofCompare compare)

theorem toJson_canonical (t : Tally) : toJson t.canonical = toJson t := by
  have hsorted : sorted t.canonical = sorted t :=
    mergeSort_mergeSort Prod.fst (LinearLE.ofCompare compare) t.entries
  rw [toJson, hsorted, toJson]

end Tally

namespace CallGraph

/-- The graphs count the same call sites for the same external calls. -/
def SameExternal (g h : CallGraph) : Prop := Agree (Agree Eq) g.external h.external

/-- A graph with the calls that leave it in order; those inside it stay where they are. -/
def canonical (g : CallGraph) : CallGraph :=
  { g with external := (g.external.mapValues Tally.canonical).sortBy fun a b ↦ (a.compare b).isLE }

theorem canonical_eq_iff_same {g h : CallGraph} :
    g.canonical = h.canonical ↔ g.internal = h.internal ∧ g.SameExternal h := by
  have hext : g.canonical.external = h.canonical.external ↔ g.SameExternal h := by
    rw [canonical, canonical, sortBy_eq_iff_agree ExternalKey.linearLE, agree_mapValues_iff,
      SameExternal]
    simp only [Tally.canonical_eq_iff_agree]
  rw [← hext]
  constructor
  · intro heq
    exact ⟨congrArg (fun c ↦ c.internal) heq, congrArg (fun c ↦ c.external) heq⟩
  · rintro ⟨hint, hext⟩
    rw [canonical, canonical] at hext ⊢
    rw [CallGraph.mk.injEq]
    exact ⟨hint, hext⟩

theorem sameExternal_canonical (g : CallGraph) : g.canonical.SameExternal g :=
  agree_sortBy_mapValues _ g.external fun t ↦ agree_sortBy _ t

theorem entries_external_canonical (g : CallGraph) :
    g.canonical.external.entries = g.sortedExternal.map fun e ↦ (e.1, Tally.canonical e.2) := by
  rw [canonical, sortBy_mapValues]
  rfl

theorem toJson_canonical (g : CallGraph) : g.canonical.toJson = g.toJson := by
  have hsorted : g.canonical.sortedExternal =
      g.sortedExternal.map fun e ↦ (e.1, Tally.canonical e.2) := by
    rw [← entries_external_canonical]
    exact mergeSort_mergeSort Prod.fst ExternalKey.linearLE
      (g.external.mapValues Tally.canonical).entries
  rw [toJson, hsorted, toJson, List.map_map]
  simp only [Function.comp_def, Tally.toJson_canonical]
  rfl

theorem keys_external_canonical_perm (g : CallGraph) :
    g.canonical.external.keys.Perm g.external.keys := by
  have hsort := (entries_sortBy_perm (fun a b ↦ (a.compare b).isLE)
    (g.external.mapValues Tally.canonical)).map Prod.fst
  refine hsort.trans ?_
  rw [mapValues, List.map_map]
  exact .refl _

end CallGraph

/-! ## Revisions -/

namespace Revision

/-- The revisions say the same, in whatever order their maps are, internal calls apart. -/
structure Same (r s : Revision) : Prop where
  forge : r.forge = s.forge
  product : r.product = s.product
  version : r.version = s.version
  generator : r.generator = s.generator
  timestamp : r.timestamp = s.timestamp
  dependencies : r.dependencies = s.dependencies
  hierarchy : r.hierarchy.Same s.hierarchy
  external : r.calls.SameExternal s.calls

/-- A revision in the order in which it is written. -/
def canonical (r : Revision) : Revision :=
  { r with hierarchy := r.hierarchy.canonical, calls := r.calls.canonical }

/-- **The canonical form forgets the order of maps and nothing else.** -/
theorem canonical_eq_iff_same {r s : Revision} :
    r.canonical = s.canonical ↔ r.Same s ∧ r.calls.internal = s.calls.internal := by
  rw [canonical, canonical, mk.injEq, Hierarchy.canonical_eq_iff_same,
    CallGraph.canonical_eq_iff_same]
  constructor
  · rintro ⟨hforge, hproduct, hversion, hgenerator, htime, hdeps, hhier, hint, hext⟩
    exact ⟨⟨hforge, hproduct, hversion, hgenerator, htime, hdeps, hhier, hext⟩, hint⟩
  · rintro ⟨⟨hforge, hproduct, hversion, hgenerator, htime, hdeps, hhier, hext⟩, hint⟩
    exact ⟨hforge, hproduct, hversion, hgenerator, htime, hdeps, hhier, hint, hext⟩

theorem same_canonical (r : Revision) : r.canonical.Same r :=
  ⟨rfl, rfl, rfl, rfl, rfl, rfl, r.hierarchy.same_canonical, r.calls.sameExternal_canonical⟩

theorem toJson_canonical (r : Revision) : r.canonical.toJson = r.toJson := by
  rw [toJson, toJson]
  simp only [canonical, Hierarchy.toJson_canonical, CallGraph.toJson_canonical]

theorem hasWritableIds_canonical (r : Revision) :
    r.canonical.hasWritableIds = r.hasWritableIds := by
  rw [hasWritableIds, hasWritableIds]
  congr 1
  · exact r.hierarchy.methodEntries_canonical_perm.all_eq
  · exact r.calls.keys_external_canonical_perm.all_eq

/-- **A revision and its canonical form have one text.** -/
theorem encode_canonical (r : Revision) : r.canonical.encode = r.encode := by
  rw [encode, encode, hasWritableIds_canonical, toJson_canonical]

end Revision

end RevisionGraph
