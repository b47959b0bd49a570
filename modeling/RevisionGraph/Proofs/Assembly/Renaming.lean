import Mathlib.Data.Set.Function
import RevisionGraph.Proofs.Assembly.Building
import RevisionGraph.Proofs.Assembly.Registration
import RevisionGraph.Proofs.Calls.Order
import RevisionGraph.Proofs.Revision.NormalForm

/-!
# Assemblies that differ in their ids

Assemblies that resemble each other (`Assembly.Resembles`) have the same methods and calls and may
have numbered the methods differently.  `Assembly.renameId` leads from the ids of the one to the ids
of the other, and the graph that is built from the ids follows it.  Assemblies that agree
(`Assembly.Agrees`) have the same methods under the same types, and there the whole revision
follows.

* `Revision.IsRenaming r x y`: renaming the ids of `x` by `r` gives `y`.
* `Resembles.exists_buildGraph`: if one of the assemblies builds a graph so does the other.
* `Agrees.exists_build`: if one of the assemblies builds a revision so does the other, and the
  second is a renaming of the first.
* `Agrees.encode_sortInternal`: if they have numbered their methods alike, the two revisions have
  one text once they are sorted.
-/

set_option autoImplicit false

namespace RevisionGraph

open OrderedMap

/-- A call that leaves the release, under other method ids. -/
def ExternalKey.rename (r : MethodId → MethodId) (k : ExternalKey) : ExternalKey :=
  ⟨r k.source, k.target⟩

/-- The second revision is the first with its ids renamed: one to one, with the same method under
the same type, the same internal calls in some order and the same counts under the same keys. -/
structure Revision.IsRenaming (r : MethodId → MethodId) (x y : Revision) : Prop where
  bijOn : Set.BijOn r {id | id ∈ x.hierarchy.ids} {id | id ∈ y.hierarchy.ids}
  bare : ∀ type, (x.hierarchy.find? type).map TypeInfo.bare =
    (y.hierarchy.find? type).map TypeInfo.bare
  defines_iff : ∀ id ∈ x.hierarchy.ids, ∀ type method,
    x.hierarchy.Defines type id method ↔ y.hierarchy.Defines type (r id) method
  internal : y.calls.internal.Perm (x.calls.internal.map (InternalCall.rename r))
  externalKeys : y.calls.external.keys.Perm (x.calls.external.keys.map (ExternalKey.rename r))
  external : ∀ k : ExternalKey, k.source ∈ x.hierarchy.ids →
    Option.Rel (Agree Eq) (x.calls.external.find? k) (y.calls.external.find? (k.rename r))

namespace Assembly

/-- The assemblies have the same methods, whatever their numbers, and the same calls in some
order. -/
structure Resembles (a b : Assembly) : Prop where
  mem_methods_iff : ∀ method, method ∈ a.methods ↔ method ∈ b.methods
  calls : a.calls.Perm b.calls

/-- The id that the second assembly has for the method that the first has under an id. -/
def renameId (a b : Assembly) (id : MethodId) : MethodId :=
  ((a.types.methods.find? id).bind b.methodId?).getD id

variable {a b : Assembly} {method : Identifier} {id id' : MethodId}

/-! ## The renaming -/

theorem IsWellFormed.find?_methods (ha : a.IsWellFormed) (hid : a.methodId? method = some id) :
    a.types.methods.find? id = some method := by
  have hmem : method ∈ a.methods := mem_methods_of_methodId? hid
  obtain ⟨type, hown⟩ := ha.exists_owner hmem
  exact (Hierarchy.find?_methods ha.nodup_ids).mpr ⟨type, ha.defines_iff.mpr ⟨hown, hid⟩⟩

theorem IsWellFormed.source_mem_ids (ha : a.IsWellFormed) {e : ExternalKey × String}
    (he : e ∈ a.externalSites) : e.1.source ∈ a.types.ids := by
  obtain ⟨source, hsource⟩ := mem_externalSites he
  exact ha.mem_ids_iff.mpr ⟨source, hsource⟩

theorem renameId_eq (ha : a.IsWellFormed) (hid : a.methodId? method = some id)
    (hid' : b.methodId? method = some id') : renameId a b id = id' := by
  rw [renameId, ha.find?_methods hid, Option.bind_some, hid', Option.getD_some]

/-- Assemblies that number their methods alike have nothing to rename. -/
theorem renameId_eq_self (ha : a.IsWellFormed) (hids : a.methodIds = b.methodIds) :
    renameId a b = fun id ↦ id := by
  funext id
  rw [renameId]
  cases hfind : a.types.methods.find? id with
  | none => rfl
  | some method =>
    obtain ⟨type, hdef⟩ := (Hierarchy.find?_methods ha.nodup_ids).mp hfind
    have hid := ha.methodId?_of_defines hdef
    rw [methodId?, hids] at hid
    rw [Option.bind_some, methodId?, hid, Option.getD_some]

theorem Agrees.resembles (h : a.Agrees b) (ha : a.IsWellFormed) (hb : b.IsWellFormed) :
    a.Resembles b where
  mem_methods_iff method := by
    rw [ha.mem_methods_iff, hb.mem_methods_iff]
    exact exists_congr fun _ ↦ h.owns_iff
  calls := h.calls

namespace Resembles

section

variable (h : a.Resembles b) (ha : a.IsWellFormed)
include h ha

theorem methodId?_eq_map (method : Identifier) :
    b.methodId? method = (a.methodId? method).map (renameId a b) := by
  cases hid : a.methodId? method with
  | none =>
    rw [methodId?_eq_none_iff, h.mem_methods_iff] at hid
    exact methodId?_eq_none_iff.mpr hid
  | some id =>
    have hmem : method ∈ b.methods := (h.mem_methods_iff method).mp (mem_methods_of_methodId? hid)
    obtain ⟨id', hid'⟩ := Option.isSome_iff_exists.mp (isSome_methodId?_iff.mpr hmem)
    rw [hid', Option.map_some, renameId_eq ha hid hid']

theorem bijOn_renameId (hb : b.IsWellFormed) :
    Set.BijOn (renameId a b) {id | id ∈ a.types.ids} {id | id ∈ b.types.ids} := by
  have hmap := h.methodId?_eq_map ha
  refine ⟨?_, ?_, ?_⟩
  · intro id hid
    obtain ⟨method, hid⟩ := ha.mem_ids_iff.mp hid
    exact hb.mem_ids_iff.mpr ⟨method, by rw [hmap, hid, Option.map_some]⟩
  · intro id hid id' hid' heq
    obtain ⟨method, hid⟩ := ha.mem_ids_iff.mp hid
    obtain ⟨method', hid'⟩ := ha.mem_ids_iff.mp hid'
    have hb₁ : b.methodId? method = some (renameId a b id) := by rw [hmap, hid, Option.map_some]
    have hb₂ : b.methodId? method' = some (renameId a b id) := by
      rw [hmap, hid', Option.map_some, heq]
    obtain rfl := hb.methodId?_inj hb₁ hb₂
    rw [hid] at hid'
    exact Option.some.inj hid'
  · intro id' hid'
    obtain ⟨method, hid'⟩ := hb.mem_ids_iff.mp hid'
    rw [hmap, Option.map_eq_some_iff] at hid'
    obtain ⟨id, hid, heq⟩ := hid'
    exact ⟨id, ha.mem_ids_iff.mpr ⟨method, hid⟩, heq⟩

/-! ## Calls -/

theorem internalCall?_eq_map (c : CallSite) : b.internalCall? c =
    (a.internalCall? c).map (InternalCall.rename (renameId a b)) := by
  rw [internalCall?, internalCall?, h.methodId?_eq_map ha, h.methodId?_eq_map ha]
  cases a.methodId? c.source <;> cases a.methodId? c.target <;> rfl

theorem externalSite?_eq_map (c : CallSite) : b.externalSite? c =
    (a.externalSite? c).map fun e ↦ (e.1.rename (renameId a b), e.2) := by
  rw [externalSite?, externalSite?, h.methodId?_eq_map ha, h.methodId?_eq_map ha]
  cases a.methodId? c.source <;> cases a.methodId? c.target <;> rfl

theorem internalCalls_perm :
    b.internalCalls.Perm (a.internalCalls.map (InternalCall.rename (renameId a b))) := by
  rw [internalCalls, internalCalls, List.map_filterMap]
  simp only [← h.internalCall?_eq_map ha]
  exact (h.calls.filterMap _).symm

/-- Calls that were recorded in the same order are in the graph in the same order. -/
theorem internalCalls_eq_map (hcalls : b.calls = a.calls) :
    b.internalCalls = a.internalCalls.map (InternalCall.rename (renameId a b)) := by
  rw [internalCalls, internalCalls, List.map_filterMap, hcalls]
  simp only [← h.internalCall?_eq_map ha]

/-- The call sites that are counted, with their sources renamed. -/
theorem externalSites_perm : b.externalSites.Perm
    (a.externalSites.map fun e ↦ (e.1.rename (renameId a b), e.2)) := by
  rw [externalSites, externalSites, List.map_filterMap]
  simp only [← h.externalSite?_eq_map ha]
  exact (h.calls.filterMap _).symm

end

section

variable (h : a.Resembles b) (ha : a.IsWellFormed) (hb : b.IsWellFormed)
include h ha hb

theorem rename_inj {k k' : ExternalKey} (hk : k.source ∈ a.types.ids)
    (hk' : k'.source ∈ a.types.ids) :
    k.rename (renameId a b) = k'.rename (renameId a b) ↔ k = k' := by
  refine ⟨fun heq ↦ ?_, congrArg _⟩
  obtain ⟨source, target⟩ := k
  obtain ⟨source', target'⟩ := k'
  injection heq with hsource htarget
  obtain rfl : source = source' := (h.bijOn_renameId ha hb).injOn hk hk' hsource
  obtain rfl : target = target' := htarget
  rfl

/-- The graphs count under the same keys, with their sources renamed. -/
theorem externalKeys_perm {g g' : CallGraph} (hg : g.Counts a.externalSites)
    (hg' : g'.Counts b.externalSites) :
    g'.external.keys.Perm (g.external.keys.map (ExternalKey.rename (renameId a b))) := by
  have hsource : ∀ k ∈ g.external.keys, k.source ∈ a.types.ids := fun k hk ↦ by
    obtain ⟨callType, hsite⟩ := (hg.mem_keys_iff k).mp hk
    exact ha.source_mem_ids hsite
  have hnodup : (g.external.keys.map (ExternalKey.rename (renameId a b))).Nodup :=
    g.external.nodup_keys.map_on fun k hk k' hk' heq ↦
      (h.rename_inj ha hb (hsource k hk) (hsource k' hk')).mp heq
  have hnodup' : g'.external.keys.Nodup := g'.external.nodup_keys
  refine (List.perm_ext_iff_of_nodup hnodup' hnodup).mpr fun k' ↦ ?_
  rw [hg'.mem_keys_iff]
  constructor
  · rintro ⟨callType, hsite'⟩
    obtain ⟨⟨k, callType'⟩, hsite, heq⟩ :=
      List.mem_map.mp ((h.externalSites_perm ha).mem_iff.mp hsite')
    cases heq
    exact List.mem_map_of_mem ((hg.mem_keys_iff k).mpr ⟨callType', hsite⟩)
  · intro hk'
    obtain ⟨k, hk, rfl⟩ := List.mem_map.mp hk'
    obtain ⟨callType, hsite⟩ := (hg.mem_keys_iff k).mp hk
    exact ⟨callType, (h.externalSites_perm ha).mem_iff.mpr (List.mem_map_of_mem hsite)⟩

/-- Call sites are counted as often after renaming. -/
theorem count_externalSites {k : ExternalKey} (hk : k.source ∈ a.types.ids) (callType : String) :
    a.externalSites.count (k, callType) =
      b.externalSites.count (k.rename (renameId a b), callType) := by
  rw [(h.externalSites_perm ha).count_eq, List.count_eq_countP, List.count_eq_countP,
    List.countP_map]
  refine List.countP_congr fun e he ↦ ?_
  have hinj := h.rename_inj ha hb (ha.source_mem_ids he) hk
  simp [Prod.ext_iff, hinj]

theorem exists_buildGraph (hg : ∃ g, a.buildGraph.2 = .ok g) : ∃ g, b.buildGraph.2 = .ok g := by
  obtain ⟨hsources, hcounts⟩ := exists_buildGraph_iff.mp hg
  refine exists_buildGraph_iff.mpr ⟨fun c hc ↦ ?_, fun e he ↦ ?_⟩
  · exact (h.mem_methods_iff _).mp (hsources c (h.calls.mem_iff.mpr hc))
  · obtain ⟨e', he', rfl⟩ := List.mem_map.mp ((h.externalSites_perm ha).mem_iff.mp he)
    rw [← h.count_externalSites ha hb (ha.source_mem_ids he')]
    exact hcounts e' he'

end

end Resembles

namespace Agrees

/-! ## Revisions -/

section

variable (h : a.Agrees b) (ha : a.IsWellFormed) (hb : b.IsWellFormed)
include h ha hb

theorem defines_renameId_iff (hid : id ∈ a.types.ids) {type : Identifier} :
    a.types.Defines type id method ↔ b.types.Defines type (renameId a b id) method := by
  have hmap := (h.resembles ha hb).methodId?_eq_map ha
  rw [ha.defines_iff, hb.defines_iff, h.owns_iff]
  refine and_congr_right fun _ ↦ ⟨fun hmethod ↦ by rw [hmap, hmethod, Option.map_some], ?_⟩
  intro hmethod
  obtain ⟨method', hid⟩ := ha.mem_ids_iff.mp hid
  have hmethod' : b.methodId? method' = some (renameId a b id) := by rw [hmap, hid, Option.map_some]
  rw [hb.methodId?_inj hmethod hmethod', hid]

/-- **If one of the assemblies builds a revision so does the other**, and the second revision is the
first with its ids renamed. -/
theorem exists_build {release : Release} {x : Revision} (hx : (a.build release).2 = .ok x) :
    ∃ y, (b.build release).2 = .ok y ∧ Revision.IsRenaming (renameId a b) x y := by
  obtain ⟨g, hg, hnamed, rfl, -⟩ := build_eq_ok_iff.mp hx
  have hlike := h.resembles ha hb
  obtain ⟨g', hg'⟩ := hlike.exists_buildGraph ha hb ⟨g, hg⟩
  obtain ⟨hinternal, hcounts⟩ := buildGraph_spec hg
  obtain ⟨hinternal', hcounts'⟩ := buildGraph_spec hg'
  refine ⟨b.revision release g',
    build_eq_ok_iff.mpr ⟨g', hg', hnamed, rfl, hb.isValid_revision hg' release⟩, ?_⟩
  exact {
    bijOn := hlike.bijOn_renameId ha hb
    bare := h.bare
    defines_iff := fun id hid type method ↦ defines_renameId_iff h ha hb hid
    internal := by
      simp only [revision, hinternal, hinternal']
      exact hlike.internalCalls_perm ha
    externalKeys := hlike.externalKeys_perm ha hb hcounts hcounts'
    external := fun k hk ↦ hcounts.rel_find? hcounts' (hlike.count_externalSites ha hb hk) }

end

/-- Assemblies that number their methods alike define the same methods under the same ids. -/
theorem hierarchy_same (h : a.Agrees b) (ha : a.IsWellFormed) (hb : b.IsWellFormed)
    (hids : a.methodIds = b.methodIds) : Hierarchy.Same a.types b.types := by
  have hdefines : ∀ type id method, a.types.Defines type id method ↔
      b.types.Defines type id method := fun type id method ↦ by
    rw [ha.defines_iff, hb.defines_iff, h.owns_iff, methodId?, methodId?, hids]
  intro type
  have hbare := h.bare type
  have htype := hdefines type
  simp only [Hierarchy.Defines] at htype
  cases hinfo : a.types.find? type with
  | none =>
    rw [hinfo, Option.map_none, eq_comm, Option.map_eq_none_iff] at hbare
    rw [hbare]
    exact .none
  | some info =>
    rw [hinfo, Option.map_some, eq_comm, Option.map_eq_some_iff] at hbare
    obtain ⟨info', hinfo', hbare⟩ := hbare
    simp only [hinfo, hinfo', Option.some.injEq, exists_eq_left'] at htype
    injection hbare with hfile _ hclasses hinterfaces
    rw [hinfo']
    refine .some ⟨hfile.symm, agree_eq_iff.mpr fun id ↦ ?_, hclasses.symm, hinterfaces.symm⟩
    exact Option.ext fun method ↦ htype id method

/-- **Revisions of assemblies that number their methods alike have one text** once they are
sorted. -/
theorem encode_sortInternal (h : a.Agrees b) (ha : a.IsWellFormed) (hb : b.IsWellFormed)
    (hids : a.methodIds = b.methodIds) {release : Release} {x y : Revision}
    (hx : (a.build release).2 = .ok x) (hy : (b.build release).2 = .ok y) :
    x.sortInternal.encode = y.sortInternal.encode := by
  obtain ⟨g, hg, -, rfl, hvalid⟩ := build_eq_ok_iff.mp hx
  obtain ⟨g', hg', -, rfl, hvalid'⟩ := build_eq_ok_iff.mp hy
  obtain ⟨hinternal, hcounts⟩ := buildGraph_spec hg
  obtain ⟨hinternal', hcounts'⟩ := buildGraph_spec hg'
  have hself := renameId_eq_self ha hids
  have hcalls := (h.resembles ha hb).internalCalls_perm ha
  have hsites := (h.resembles ha hb).externalSites_perm ha
  rw [hself] at hcalls hsites
  have hsame : (a.revision release g).Same (b.revision release g') := {
    forge := rfl, product := rfl, version := rfl, generator := rfl, timestamp := rfl
    dependencies := rfl
    hierarchy := hierarchy_same h ha hb hids
    external := fun k ↦ hcounts.rel_find? hcounts' fun callType ↦ by
      rw [hsites.count_eq]
      exact congrArg _ (List.map_id _).symm }
  refine Revision.encode_sortInternal_congr hvalid hvalid' hsame ?_
  simp only [revision, hinternal, hinternal']
  exact (hcalls.trans (.of_eq (List.map_id _))).symm

end Agrees

end Assembly

end RevisionGraph
