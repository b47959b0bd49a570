import RevisionGraph.Proofs.Assembly.Building
import RevisionGraph.Proofs.Revision.Reading

/-!
# The round trip of revisions

A revision comes from a document or from an assembly, and its calls can be sorted and added to.
`Revision.Reached` lists these ways, and each of them gives a sound revision, `Reached.isSound`.  A
sound revision survives the way through its text: `decode_encode`.
-/

set_option autoImplicit false

namespace RevisionGraph

namespace CallGraph

/-! ## Ids in use after a change -/

theorem endpoints_sortInternal_perm (g : CallGraph) (name : MethodId → Option Identifier) :
    (g.sortInternal name).endpoints.Perm g.endpoints :=
  ((List.mergeSort_perm _ _).flatMap_right _).append_right _

theorem mem_endpoints_addInternal {g : CallGraph} {source target id : MethodId} :
    id ∈ (g.addInternal source target).endpoints ↔
      id = source ∨ id = target ∨ id ∈ g.endpoints := by
  simp only [endpoints, addInternal, List.flatMap_append, List.mem_append, List.flatMap_cons,
    List.mem_cons, List.flatMap_nil, List.not_mem_nil, or_false]
  tauto

theorem mem_endpoints_addExternal {g g' : CallGraph} {source id : MethodId} {target : Identifier}
    {callType : String} (h : g.addExternal source target callType = .ok g') :
    id ∈ g'.endpoints ↔ id = source ∨ id ∈ g.endpoints := by
  obtain ⟨count, -, rfl⟩ := (addExternal_eq_ok_iff (k := ⟨source, target⟩)).mp h
  simp only [endpoints, withCount, List.mem_append, List.mem_map, OrderedMap.mem_keys_insert]
  constructor
  · rintro (hid | ⟨k, rfl | hk, rfl⟩)
    · exact .inr (.inl hid)
    · exact .inl rfl
    · exact .inr (.inr ⟨k, hk, rfl⟩)
  · rintro (rfl | hid | ⟨k, hk, rfl⟩)
    · exact .inr ⟨_, .inl rfl, rfl⟩
    · exact .inl hid
    · exact .inr ⟨k, .inr hk, rfl⟩

end CallGraph

namespace Revision

/-! ## Revisions that operations lead to -/

/-- The revisions that are read or built, and what sorting and adding calls makes of them. -/
inductive Reached : Revision → Prop
  | ofJson {data : Json} {r : Revision} (hkeys : data.HasDistinctKeys)
      (hr : Revision.ofJson data = .ok r) : Reached r
  | decode {text : String} {r : Revision} (hr : Revision.decode text = .ok r) : Reached r
  | decodeBytes {bytes : Text.Bytes} {r : Revision} (hr : Revision.decodeBytes bytes = .ok r) :
      Reached r
  | build {a : Assembly} {release : Release} {r : Revision} (ha : a.Reached)
      (hgroups : ∀ v ∈ release.dependencies, Dependencies.IsGroup v)
      (hkeys : ∀ v ∈ release.dependencies, v.HasDistinctKeys)
      (hr : (a.build release).2 = .ok r) : Reached r
  | sortInternal {r : Revision} (hr : Reached r) : Reached r.sortInternal
  | addInternal {r : Revision} {source target : MethodId} (hr : Reached r)
      (hsource : source ∈ r.hierarchy.ids) (htarget : target ∈ r.hierarchy.ids) :
      Reached { r with calls := r.calls.addInternal source target }
  | addExternal {r : Revision} {g : CallGraph} {source : MethodId} {target : Identifier}
      {callType : String} (hr : Reached r) (hsource : source ∈ r.hierarchy.ids)
      (hg : r.calls.addExternal source target callType = .ok g) : Reached { r with calls := g }

/-- Calls between defined methods keep a revision sound. -/
theorem IsSound.of_calls {r : Revision} (h : r.IsSound) {g : CallGraph}
    (hg : ∀ id ∈ g.endpoints, id ∈ r.hierarchy.ids) : IsSound { r with calls := g } :=
  ⟨⟨h.nodup_ids, hg⟩, h.nonneg, h.isGroup, h.hasDistinctKeys⟩

theorem IsSound.sortInternal {r : Revision} (h : r.IsSound) : r.sortInternal.IsSound :=
  h.of_calls fun id hid ↦ h.defined id ((CallGraph.endpoints_sortInternal_perm _ _).mem_iff.mp hid)

theorem isSound_of_build {a : Assembly} (ha : a.IsWellFormed) {release : Release}
    (hgroups : ∀ v ∈ release.dependencies, Dependencies.IsGroup v)
    (hkeys : ∀ v ∈ release.dependencies, v.HasDistinctKeys) {r : Revision}
    (hr : (a.build release).2 = .ok r) : r.IsSound := by
  obtain ⟨g, -, -, rfl, hvalid⟩ := Assembly.build_eq_ok_iff.mp hr
  exact ⟨hvalid, ha.nonneg_ids, hgroups, hkeys⟩

/-- **Whatever operations lead to is sound.** -/
theorem Reached.isSound {r : Revision} (h : r.Reached) : r.IsSound := by
  induction h with
  | ofJson hkeys hr => exact isSound_of_ofJson hkeys hr
  | decode hr => exact isSound_of_decode hr
  | decodeBytes hr => exact isSound_of_decodeBytes hr
  | build ha hgroups hkeys hr => exact isSound_of_build ha.isWellFormed hgroups hkeys hr
  | sortInternal _ ih => exact ih.sortInternal
  | addInternal _ hsource htarget ih =>
    refine ih.of_calls fun id hid ↦ ?_
    rcases CallGraph.mem_endpoints_addInternal.mp hid with rfl | rfl | hid
    · exact hsource
    · exact htarget
    · exact ih.defined id hid
  | addExternal _ hsource hg ih =>
    refine ih.of_calls fun id hid ↦ ?_
    rcases (CallGraph.mem_endpoints_addExternal hg).mp hid with rfl | hid
    · exact hsource
    · exact ih.defined id hid

/-! ## The round trip -/

/-- **The text of a revision holds all of it.**  What is read back says the same in every field,
keeps the order of internal calls, and has the same text without being sorted again. -/
theorem decode_encode {r : Revision} (hr : r.Reached) (hfloat : r.IsFloatFree) {text : String}
    (htext : r.encode = .ok text) : ∃ s, decode text = .ok s ∧ s.Same r ∧
      s.calls.internal = r.calls.internal ∧ s.encode = .ok text := by
  refine ⟨r.canonical, hr.isSound.decode_of_encode hfloat htext, r.same_canonical, rfl, ?_⟩
  rw [encode_canonical, htext]

/-- A document with needless zeros in an id and in a count. -/
def sample : Json := .object [
  ("forge", .text "mvn"), ("product", .text "g:a"), ("version", .text "1.0"),
  ("generator", .text "OPAL"), ("timestamp", .int 0),
  ("depset", .array [.array [.object [("scope", .null), ("age", .int (-2))]]]),
  ("cha", .object [("/p/B", .object [("sourceFile", .text "B.java"),
    ("methods", .object [("07", .text "/p/B.m()")]), ("superClasses", .array [.text "/p/A"]),
    ("superInterfaces", .array [])])]),
  ("graph", .object [("internalCalls", .array [.array [.int 7, .int 7]]),
    ("externalCalls", .array [
      .array [.int 7, .text "/q/C.k()", .object [("static", .text "007")]]])])]

theorem decode_encode_sample : ∃ r text, ofJson sample = .ok r ∧ r.encode = .ok text ∧
    ∃ s, decode text = .ok s ∧ s.Same r ∧ s.calls.internal = r.calls.internal ∧
      s.encode = .ok text := by
  obtain ⟨r, text, hr, htext, hfloat⟩ :
      ∃ r text, ofJson sample = .ok r ∧ r.encode = .ok text ∧ r.IsFloatFree :=
    ⟨_, _, ofJson_eq_ok_iff.mpr ⟨_, rfl, rfl, ⟨by decide, by decide⟩⟩,
      encode_eq_ok_iff.mpr ⟨by decide +kernel, by decide +kernel, rfl⟩, by decide⟩
  exact ⟨r, text, hr, htext, decode_encode (.ofJson (by decide) hr) hfloat htext⟩

end Revision

end RevisionGraph
