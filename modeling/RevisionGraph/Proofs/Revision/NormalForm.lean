import RevisionGraph.Proofs.Revision.RoundTrip

/-!
# The canonical text is a normal form

After `sortInternal` the text of a revision depends on what the revision says and not on the order
in which its maps and its internal calls were put together.

* `Hierarchy.Same.find?_methods`: hierarchies that say the same name ids alike, and so the calls of
  the one are sorted like those of the other.
* `encode_sortInternal_congr`: revisions that say the same, with the same internal calls in some
  order, have one text.
* `encode_sortInternal_eq_iff`: and no others have.
-/

set_option autoImplicit false

namespace RevisionGraph

open OrderedMap

/-! ## Naming ids -/

namespace Hierarchy

theorem Same.symm {h k : Hierarchy} (hsame : h.Same k) : k.Same h :=
  canonical_eq_iff_same.mp (canonical_eq_iff_same.mpr hsame).symm

theorem Same.defines {h k : Hierarchy} (hsame : h.Same k) {name method : Identifier} {id : MethodId}
    (hdef : h.Defines name id method) : k.Defines name id method := by
  obtain ⟨info, hinfo, hmethod⟩ := hdef
  have hname := hsame name
  rw [hinfo] at hname
  cases hk : k.find? name with
  | none =>
    rw [hk] at hname
    cases hname
  | some info' =>
    rw [hk, Option.rel_some_some] at hname
    exact ⟨info', hk, agree_eq_iff.mp hname.methods id ▸ hmethod⟩

/-- Hierarchies that say the same name ids alike. -/
theorem Same.find?_methods {h k : Hierarchy} (hsame : h.Same k) (hh : h.ids.Nodup)
    (hk : k.ids.Nodup) : h.methods.find? = k.methods.find? := by
  funext id
  refine Option.ext fun method ↦ ?_
  rw [Hierarchy.find?_methods hh, Hierarchy.find?_methods hk]
  exact exists_congr fun name ↦ ⟨hsame.defines, hsame.symm.defines⟩

end Hierarchy

namespace Revision

/-! ## Sorting before writing -/

theorem same_sortInternal_iff {r s : Revision} : r.sortInternal.Same s.sortInternal ↔ r.Same s := by
  constructor
  · intro h
    exact ⟨h.forge, h.product, h.version, h.generator, h.timestamp, h.dependencies, h.hierarchy,
      h.external⟩
  · intro h
    exact ⟨h.forge, h.product, h.version, h.generator, h.timestamp, h.dependencies, h.hierarchy,
      h.external⟩

theorem internal_sortInternal_perm (r : Revision) :
    r.sortInternal.calls.internal.Perm r.calls.internal :=
  List.mergeSort_perm _ _

theorem canonical_sortInternal_congr {r s : Revision} (hr : r.IsValid) (hs : s.IsValid)
    (hsame : r.Same s) (hperm : r.calls.internal.Perm s.calls.internal) :
    r.sortInternal.canonical = s.sortInternal.canonical := by
  rw [canonical_eq_iff_same, same_sortInternal_iff]
  refine ⟨hsame, ?_⟩
  have hnames : r.methods.find? = s.methods.find? :=
    hsame.hierarchy.find?_methods hr.nodup_ids hs.nodup_ids
  simp only [sortInternal, CallGraph.sortInternal, hnames]
  exact mergeSort_eq_of_perm (fun c ↦ c) (InternalCall.linearLE _) hperm fun _ _ _ _ h ↦ h

/-- **Order never shows**: revisions that say the same have one text once they are sorted. -/
theorem encode_sortInternal_congr {r s : Revision} (hr : r.IsValid) (hs : s.IsValid)
    (hsame : r.Same s) (hperm : r.calls.internal.Perm s.calls.internal) :
    r.sortInternal.encode = s.sortInternal.encode := by
  rw [← encode_canonical, ← encode_canonical s.sortInternal,
    canonical_sortInternal_congr hr hs hsame hperm]

/-- Sorting does not make an id too long to be written. -/
theorem exists_encode_sortInternal {r : Revision} {text : String} (h : r.encode = .ok text) :
    ∃ text', r.sortInternal.encode = .ok text' := by
  obtain ⟨hids, hwritable, -⟩ := encode_eq_ok_iff.mp h
  obtain ⟨htime, hinternal, hdeps⟩ := isWritable_toJson_iff.mp hwritable
  refine ⟨_, encode_eq_ok_iff.mpr ⟨hids, isWritable_toJson_iff.mpr ⟨htime, ?_, hdeps⟩, rfl⟩⟩
  exact fun c hc ↦ hinternal c (r.internal_sortInternal_perm.mem_iff.mp hc)

/-! ## Sorted calls -/

/-- The internal calls are in the canonical order, under the names of the revision. -/
def HasSortedCalls (r : Revision) : Prop :=
  r.calls.internal.Pairwise fun c d ↦ (c.compare r.methods.find? d).isLE = true

instance (r : Revision) : Decidable r.HasSortedCalls :=
  inferInstanceAs (Decidable (List.Pairwise _ _))

theorem hasSortedCalls_sortInternal (r : Revision) : r.sortInternal.HasSortedCalls :=
  pairwise_mergeSort_key (fun c ↦ c) (InternalCall.linearLE r.methods.find?) r.calls.internal

/-- The canonical form names ids alike, and keeps the order of internal calls. -/
theorem HasSortedCalls.canonical {r : Revision} (h : r.HasSortedCalls) (hr : r.IsValid) :
    r.canonical.HasSortedCalls := by
  have hnames : r.canonical.methods.find? = r.methods.find? :=
    r.same_canonical.hierarchy.find?_methods (isValid_canonical hr).nodup_ids hr.nodup_ids
  rw [HasSortedCalls, hnames]
  exact h

theorem isEmpty_sortInternal (r : Revision) : r.sortInternal.isEmpty = r.isEmpty := by
  have hperm : (r.sortInternal.calls.internal).Perm r.calls.internal := List.mergeSort_perm _ _
  rw [isEmpty, CallGraph.isEmpty, hperm.isEmpty_eq]
  rfl

theorem sortInternal_of_isEmpty {r : Revision} (h : r.isEmpty = true) : r.sortInternal = r := by
  have hnil : r.calls.internal = [] := by
    rw [isEmpty, CallGraph.isEmpty, Bool.and_eq_true] at h
    exact List.isEmpty_iff.mp h.1
  have hsort : r.calls.sortInternal r.methods.find? = r.calls := by
    rw [CallGraph.sortInternal, hnil, List.mergeSort_nil, ← hnil]
  rw [sortInternal, hsort]

/-! ## The normal form -/

/-- **The sorted text is a normal form.**  Two revisions have the same one exactly when they say the
same and have the same internal calls in some order. -/
theorem encode_sortInternal_eq_iff {r s : Revision} (hr : r.Reached) (hs : s.Reached)
    (hrfloat : r.IsFloatFree) (hsfloat : s.IsFloatFree) {text text' : String}
    (htext : r.encode = .ok text) (htext' : s.encode = .ok text') :
    ∃ t t', r.sortInternal.encode = .ok t ∧ s.sortInternal.encode = .ok t' ∧
      (t = t' ↔ r.Same s ∧ r.calls.internal.Perm s.calls.internal) := by
  obtain ⟨t, ht⟩ := exists_encode_sortInternal htext
  obtain ⟨t', ht'⟩ := exists_encode_sortInternal htext'
  refine ⟨t, t', ht, ht', ?_, ?_⟩
  · rintro rfl
    have hread := hr.sortInternal.isSound.decode_of_encode hrfloat ht
    rw [hs.sortInternal.isSound.decode_of_encode hsfloat ht'] at hread
    injection hread with hcanonical
    obtain ⟨hsame, hinternal⟩ := canonical_eq_iff_same.mp hcanonical.symm
    refine ⟨same_sortInternal_iff.mp hsame, r.internal_sortInternal_perm.symm.trans ?_⟩
    exact hinternal ▸ s.internal_sortInternal_perm
  · rintro ⟨hsame, hperm⟩
    have hcongr := encode_sortInternal_congr hr.isSound.toIsValid hs.isSound.toIsValid hsame hperm
    rw [ht, ht'] at hcongr
    injection hcongr

/-- A document with two types, two methods of a type and two call types, each pair in the order that
`arrange` gives it. -/
def sampleOf (arrange : List (String × Json) → List (String × Json)) (calls : List Json) : Json :=
  let type (methods : List (String × Json)) : Json := .object [("sourceFile", .text ""),
    ("methods", .object methods), ("superClasses", .array []), ("superInterfaces", .array [])]
  .object [
    ("forge", .text "mvn"), ("product", .text "g:a"), ("version", .text "1.0"),
    ("generator", .text ""), ("depset", .array []),
    ("cha", .object (arrange [
      ("/p/A", type (arrange [("0", .text "/p/A.m()"), ("1", .text "/p/A.n()")])),
      ("/p/B", type [("2", .text "/p/B.m()")])])),
    ("graph", .object [("internalCalls", .array calls), ("externalCalls", .array [
      .array [.int 2, .text "/q/C.k()", .object (arrange [("static", .text "1"),
        ("virtual", .text "2")])]])])]

/-- A document. -/
def sampleForward : Json := sampleOf id [.array [.int 0, .int 1], .array [.int 2, .int 0]]

/-- The document with its lists the other way round. -/
def sampleBackward : Json :=
  sampleOf List.reverse [.array [.int 2, .int 0], .array [.int 0, .int 1]]

theorem encode_sortInternal_eq_iff_sample : ∃ r s,
    ofJson sampleForward = .ok r ∧ ofJson sampleBackward = .ok s ∧
      ∃ t t', r.sortInternal.encode = .ok t ∧ s.sortInternal.encode = .ok t' ∧
        (t = t' ↔ r.Same s ∧ r.calls.internal.Perm s.calls.internal) := by
  obtain ⟨r, text, hr, htext, hrfloat⟩ :
      ∃ r text, ofJson sampleForward = .ok r ∧ r.encode = .ok text ∧ r.IsFloatFree :=
    ⟨_, _, ofJson_eq_ok_iff.mpr ⟨_, rfl, rfl, ⟨by decide, by decide⟩⟩,
      encode_eq_ok_iff.mpr ⟨by decide +kernel, isWritable_toJson_iff.mpr
        ⟨by decide +kernel, by decide +kernel, by decide +kernel⟩, rfl⟩, by decide⟩
  obtain ⟨s, text', hs, htext', hsfloat⟩ :
      ∃ s text, ofJson sampleBackward = .ok s ∧ s.encode = .ok text ∧ s.IsFloatFree :=
    ⟨_, _, ofJson_eq_ok_iff.mpr ⟨_, rfl, rfl, ⟨by decide, by decide⟩⟩,
      encode_eq_ok_iff.mpr ⟨by decide +kernel, isWritable_toJson_iff.mpr
        ⟨by decide +kernel, by decide +kernel, by decide +kernel⟩, rfl⟩, by decide⟩
  exact ⟨r, s, hr, hs, encode_sortInternal_eq_iff (.ofJson (by decide) hr) (.ofJson (by decide) hs)
    hrfloat hsfloat htext htext'⟩

end Revision

end RevisionGraph
