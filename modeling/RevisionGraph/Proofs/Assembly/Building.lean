import RevisionGraph.Proofs.Assembly.Registry
import RevisionGraph.Proofs.Calls.Merging

/-!
# What building makes of an assembly

* **The graph.**  A call between registered methods is an internal call, and a call to another
  method is an external call site: `internalCall?` and `externalSite?` say which.  The graph has the
  internal calls in their order and counts the external call sites, `buildGraph_spec`; there is one
  as long as every call starts from a registered method and every count can be written,
  `exists_buildGraph_iff`.
* **The revision.**  `build_eq_ok_iff` says what a build gives.  The graph of a well-formed assembly
  fits its types, `IsWellFormed.isValid_revision`, so nothing is found wrong with it then.
-/

set_option autoImplicit false

namespace RevisionGraph

open Result OrderedMap

/-- The fields that name the release are filled in. -/
def Release.IsNamed (r : Release) : Prop :=
  r.forge ≠ "" ∧ r.product ≠ "" ∧ r.version ≠ "" ∧ r.generator ≠ ""

namespace Assembly

/-- The revision of a release with these types and calls. -/
def revision (a : Assembly) (r : Release) (g : CallGraph) : Revision where
  forge := r.forge
  product := r.product
  version := r.version
  generator := r.generator
  timestamp := Revision.timestampOf r.time
  dependencies := r.dependencies
  hierarchy := a.types
  calls := g

/-- The parts of the revision that a build drafts. -/
def parts (a : Assembly) (r : Release) (g : CallGraph) : Revision.Parts where
  forge := r.forge
  product := r.product
  version := r.version
  generator := r.generator
  time := r.time
  dependencies := r.dependencies
  hierarchy := a.types
  calls := g

theorem isNamed_parts_iff (a : Assembly) (r : Release) (g : CallGraph) :
    (a.parts r g).IsNamed ↔ r.IsNamed := by
  simp [Revision.Parts.IsNamed, Revision.Parts.names, parts, Release.IsNamed]

theorem build_draft_eq_ok_iff {a : Assembly} {r : Release} {g : CallGraph} {x : Revision} :
    (a.draft r g).build = .ok x ↔ r.IsNamed ∧ x = a.revision r g ∧ x.IsValid := by
  rw [← isNamed_parts_iff a r g]
  exact Revision.Parts.build_draft_eq_ok_iff (p := a.parts r g)

theorem build_eq_ok_iff {a : Assembly} {r : Release} {x : Revision} : (a.build r).2 = .ok x ↔
    ∃ g, a.buildGraph.2 = .ok g ∧ r.IsNamed ∧ x = a.revision r g ∧ x.IsValid := by
  have htypes := a.types_buildGraph
  rw [build]
  split
  next b result h =>
    rw [h] at htypes ⊢
    cases result with
    | error e => exact iff_of_false (by rintro ⟨⟩) (by rintro ⟨_, ⟨⟩, _⟩)
    | ok g =>
      have hrevision : b.revision r g = a.revision r g := by
        rw [revision, revision, htypes]
      simp only [Except.ok.injEq, exists_eq_left', build_draft_eq_ok_iff, hrevision]

/-! ## Resolving calls -/

/-- The call between two registered methods, as the graph has it. -/
def internalCall? (a : Assembly) (c : CallSite) : Option InternalCall :=
  match a.methodId? c.source, a.methodId? c.target with
  | some source, some target => some ⟨source, target⟩
  | _, _ => none

/-- The call from a registered method to another one, as the graph counts it. -/
def externalSite? (a : Assembly) (c : CallSite) : Option (ExternalKey × String) :=
  match a.methodId? c.source, a.methodId? c.target with
  | some source, none => some (⟨source, c.target⟩, c.callType)
  | _, _ => none

section

variable {a : Assembly} {g g' : CallGraph} {sites : List (ExternalKey × String)}
  {calls : List CallSite}

/-! ### One call -/

variable {c : CallSite} {source target : MethodId}

theorem resolve_unknown (n : Nat) (hsource : a.methodId? c.source = none) :
    a.resolve g n (c :: calls) =
      (n, .error (.invariant (.callFromUnknownMethod c.source.text c.target.text))) := by
  rw [resolve, hsource]

theorem resolve_internal (n : Nat) (hsource : a.methodId? c.source = some source)
    (htarget : a.methodId? c.target = some target) :
    a.resolve g n (c :: calls) = a.resolve (g.addInternal source target) n calls := by
  rw [resolve, hsource]
  simp only [htarget]

theorem resolve_external (n : Nat) (hsource : a.methodId? c.source = some source)
    (htarget : a.methodId? c.target = none)
    (hadd : g.addExternal source c.target c.callType = .ok g') :
    a.resolve g n (c :: calls) = a.resolve g' (n + 1) calls := by
  rw [resolve, hsource]
  simp only [htarget, hadd]

theorem resolve_overflow (n : Nat) (hsource : a.methodId? c.source = some source)
    (htarget : a.methodId? c.target = none) {e : Fault}
    (hadd : g.addExternal source c.target c.callType = .error e) :
    a.resolve g n (c :: calls) = (n, .error e) := by
  rw [resolve, hsource]
  simp only [htarget, hadd]

theorem filterMap_internal (hsource : a.methodId? c.source = some source)
    (htarget : a.methodId? c.target = some target) :
    (c :: calls).filterMap a.internalCall? =
        ⟨source, target⟩ :: calls.filterMap a.internalCall? ∧
      (c :: calls).filterMap a.externalSite? = calls.filterMap a.externalSite? := by
  simp only [List.filterMap_cons, internalCall?, externalSite?, hsource, htarget, and_self]

theorem filterMap_external (hsource : a.methodId? c.source = some source)
    (htarget : a.methodId? c.target = none) :
    (c :: calls).filterMap a.internalCall? = calls.filterMap a.internalCall? ∧
      (c :: calls).filterMap a.externalSite? =
        (⟨source, c.target⟩, c.callType) :: calls.filterMap a.externalSite? := by
  simp only [List.filterMap_cons, internalCall?, externalSite?, hsource, htarget, and_self]

theorem externalSite?_eq_some_iff {k : ExternalKey} {callType : String} :
    a.externalSite? c = some (k, callType) ↔ a.methodId? c.source = some k.source ∧
      c.target ∉ a.methods ∧ c.target = k.target ∧ c.callType = callType := by
  obtain ⟨source, target⟩ := k
  rw [externalSite?, ← methodId?_eq_none_iff]
  cases a.methodId? c.source <;> cases a.methodId? c.target <;> simp [and_assoc]

/-! ### All calls -/

/-- Calls resolve as long as they start from registered methods and their counts can be written. -/
theorem exists_resolve_iff (hg : g.Counts sites) (n : Nat) :
    (∃ g', (a.resolve g n calls).2 = .ok g') ↔
      (∀ c ∈ calls, c.source ∈ a.methods) ∧
        ∀ e ∈ calls.filterMap a.externalSite?,
          Text.isWritable ((sites ++ calls.filterMap a.externalSite?).count e : Nat) = true := by
  induction calls generalizing g sites n with
  | nil => simp [resolve]
  | cons c rest ih =>
    rw [List.forall_mem_cons, ← isSome_methodId?_iff]
    cases hsource : a.methodId? c.source with
    | none =>
      rw [resolve_unknown n hsource]
      simp
    | some source =>
      rw [and_iff_right (Option.isSome_some)]
      cases htarget : a.methodId? c.target with
      | some target =>
        rw [resolve_internal n hsource htarget, (filterMap_internal hsource htarget).2]
        exact ih (hg.addInternal source target) n
      | none =>
        rw [(filterMap_external hsource htarget).2, CallGraph.Counts.forall_isWritable_cons_iff]
        cases hadd : g.addExternal source c.target c.callType with
        | error e =>
          rw [resolve_overflow n hsource htarget hadd]
          refine iff_of_false (by rintro ⟨_, ⟨⟩⟩) fun h ↦ ?_
          have hok := (hg.addExternal_eq_ok_iff (k := ⟨source, c.target⟩)).mpr ⟨h.2.1, rfl⟩
          rw [hadd] at hok
          cases hok
        | ok g₁ =>
          obtain ⟨hw, rfl⟩ := (hg.addExternal_eq_ok_iff (k := ⟨source, c.target⟩)).mp hadd
          -- the site joins those that were counted before the others are looked at
          have hrest := ih (hg.withCount ⟨source, c.target⟩ c.callType) (n + 1)
          rw [List.append_assoc] at hrest
          rw [resolve_external n hsource htarget hadd, and_iff_right hw]
          exact hrest

/-- What calls resolve to. -/
theorem resolve_spec (hg : g.Counts sites) {n : Nat} (h : (a.resolve g n calls).2 = .ok g') :
    g'.internal = g.internal ++ calls.filterMap a.internalCall? ∧
      g'.Counts (sites ++ calls.filterMap a.externalSite?) := by
  induction calls generalizing g sites n with
  | nil =>
    cases h
    simpa using hg
  | cons c rest ih =>
    cases hsource : a.methodId? c.source with
    | none =>
      rw [resolve_unknown n hsource] at h
      cases h
    | some source =>
      cases htarget : a.methodId? c.target with
      | some target =>
        rw [resolve_internal n hsource htarget] at h
        obtain ⟨hinternal, hcounts⟩ := ih (hg.addInternal source target) h
        rw [(filterMap_internal hsource htarget).1, (filterMap_internal hsource htarget).2,
          hinternal]
        exact ⟨List.append_assoc .., hcounts⟩
      | none =>
        cases hadd : g.addExternal source c.target c.callType with
        | error e =>
          rw [resolve_overflow n hsource htarget hadd] at h
          cases h
        | ok g₁ =>
          obtain ⟨-, rfl⟩ := (hg.addExternal_eq_ok_iff (k := ⟨source, c.target⟩)).mp hadd
          rw [resolve_external n hsource htarget hadd] at h
          obtain ⟨hinternal, hcounts⟩ := ih (hg.withCount ⟨source, c.target⟩ c.callType) h
          rw [(filterMap_external hsource htarget).1, (filterMap_external hsource htarget).2]
          rw [List.append_assoc] at hcounts
          exact ⟨hinternal, hcounts⟩

end

/-! ## Building -/

/-- The internal calls of the graph, in the order in which they were recorded. -/
def internalCalls (a : Assembly) : List InternalCall := a.calls.filterMap a.internalCall?

/-- The call sites that the graph counts, in the order in which they were recorded. -/
def externalSites (a : Assembly) : List (ExternalKey × String) := a.calls.filterMap a.externalSite?

variable {a : Assembly} {g : CallGraph}

theorem snd_buildGraph (a : Assembly) : a.buildGraph.2 = (a.resolve .empty 0 a.calls).2 := by
  rw [buildGraph]
  split
  next sites result h =>
    rw [h]
    cases result <;> rfl

/-- There is a graph as long as calls start from registered methods and counts can be written. -/
theorem exists_buildGraph_iff : (∃ g, a.buildGraph.2 = .ok g) ↔
    (∀ c ∈ a.calls, c.source ∈ a.methods) ∧
      ∀ e ∈ a.externalSites, Text.isWritable (a.externalSites.count e : Nat) = true := by
  rw [snd_buildGraph]
  exact exists_resolve_iff CallGraph.counts_empty 0

/-- **Every call is in the graph**, as an internal call or in a count. -/
theorem buildGraph_spec (hg : a.buildGraph.2 = .ok g) :
    g.internal = a.internalCalls ∧ g.Counts a.externalSites := by
  rw [snd_buildGraph] at hg
  exact resolve_spec CallGraph.counts_empty hg

theorem mem_internalCalls {i : InternalCall} (hi : i ∈ a.internalCalls) :
    ∃ source target, a.methodId? source = some i.source ∧ a.methodId? target = some i.target := by
  obtain ⟨c, -, hc⟩ := List.mem_filterMap.mp hi
  rw [internalCall?] at hc
  split at hc
  · next source target hsource htarget =>
    cases hc
    exact ⟨c.source, c.target, hsource, htarget⟩
  · cases hc

theorem mem_externalSites {e : ExternalKey × String} (he : e ∈ a.externalSites) :
    ∃ source, a.methodId? source = some e.1.source := by
  obtain ⟨c, -, hc⟩ := List.mem_filterMap.mp he
  rw [externalSite?] at hc
  split at hc
  · next source hsource htarget =>
    cases hc
    exact ⟨c.source, hsource⟩
  · cases hc

namespace IsWellFormed

/-- **What a well-formed assembly builds is valid.** -/
theorem isValid_revision (h : a.IsWellFormed) (hg : a.buildGraph.2 = .ok g) (r : Release) :
    (a.revision r g).IsValid := by
  obtain ⟨hinternal, hcounts⟩ := buildGraph_spec hg
  refine ⟨h.nodup_ids, fun id hid ↦ h.mem_ids_iff.mpr ?_⟩
  rcases List.mem_append.mp hid with hid | hid
  · obtain ⟨i, hi, hid⟩ := List.mem_flatMap.mp hid
    have hi : i ∈ a.internalCalls := hinternal ▸ hi
    obtain ⟨source, target, hsource, htarget⟩ := mem_internalCalls hi
    rw [List.mem_cons, List.mem_singleton] at hid
    rcases hid with rfl | rfl
    · exact ⟨source, hsource⟩
    · exact ⟨target, htarget⟩
  · obtain ⟨k, hk, rfl⟩ := List.mem_map.mp hid
    obtain ⟨callType, hsite⟩ := (hcounts.mem_keys_iff k).mp hk
    exact mem_externalSites hsite

end IsWellFormed

end Assembly

end RevisionGraph
