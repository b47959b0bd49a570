import RevisionGraph.Proofs.Assembly.Building
import RevisionGraph.Proofs.Assembly.History
import RevisionGraph.Proofs.Identifier

/-!
# How a build ends

A build fails for one of two reasons, as long as the counts can be written: a call starts from a
method that is not registered, or the release is not named; the first of the two counts.  Otherwise
it gives a revision, and the revision is valid: the two checks on ids that a revision goes through
never refuse what an assembly made.

* `exists_unknown_of_buildGraph`: where there is no graph, a call starts from an unknown method.
* `IsWellFormed.build_cases`: the three endings of a build.
* `build_run`: which of them it is, after any history.
-/

set_option autoImplicit false

namespace RevisionGraph

open Result OrderedMap

theorem Release.not_isNamed_iff {r : Release} : ¬ r.IsNamed ↔
    r.forge = "" ∨ r.product = "" ∨ r.version = "" ∨ r.generator = "" := by
  simp only [IsNamed, not_and_or, not_not]

namespace Assembly

variable {a : Assembly} {g : CallGraph} {r : Release}

/-- Every count of the graph can be written. -/
def HasWritableCounts (a : Assembly) : Prop :=
  ∀ e ∈ a.externalSites, Text.isWritable (a.externalSites.count e : Nat) = true

instance (a : Assembly) : Decidable a.HasWritableCounts :=
  inferInstanceAs (Decidable (∀ e ∈ a.externalSites, _))

/-! ## Where there is no graph -/

/-- Calls whose counts can be written resolve up to one from a method that is not registered. -/
theorem exists_unknown_of_resolve {sites : List (ExternalKey × String)} {calls : List CallSite}
    (hg : g.Counts sites) (hcounts : ∀ e ∈ calls.filterMap a.externalSite?,
      Text.isWritable ((sites ++ calls.filterMap a.externalSite?).count e : Nat) = true)
    {n : Nat} {e : Fault} (h : (a.resolve g n calls).2 = .error e) :
    ∃ c ∈ calls, a.methodId? c.source = none ∧
      e = .invariant (.callFromUnknownMethod c.source.text c.target.text) := by
  induction calls generalizing g sites n with
  | nil => cases h
  | cons c rest ih =>
    cases hsource : a.methodId? c.source with
    | none =>
      rw [resolve_unknown n hsource] at h
      cases h
      exact ⟨c, List.mem_cons_self, hsource, rfl⟩
    | some source =>
      -- the other calls are to blame, so what is found among them is found among all
      suffices hrest : ∃ c ∈ rest, a.methodId? c.source = none ∧
          e = .invariant (.callFromUnknownMethod c.source.text c.target.text) by
        obtain ⟨c', hc', hblame⟩ := hrest
        exact ⟨c', List.mem_cons_of_mem c hc', hblame⟩
      cases htarget : a.methodId? c.target with
      | some target =>
        rw [resolve_internal n hsource htarget] at h
        rw [(filterMap_internal hsource htarget).2] at hcounts
        exact ih (hg.addInternal source target) hcounts h
      | none =>
        rw [(filterMap_external hsource htarget).2,
          CallGraph.Counts.forall_isWritable_cons_iff] at hcounts
        obtain ⟨hfirst, hothers⟩ := hcounts
        have hadd := (hg.addExternal_eq_ok_iff (k := ⟨source, c.target⟩)).mpr ⟨hfirst, rfl⟩
        rw [resolve_external n hsource htarget hadd] at h
        refine ih (hg.withCount ⟨source, c.target⟩ c.callType) ?_ h
        rwa [List.append_assoc]

theorem exists_unknown_of_buildGraph (hcounts : a.HasWritableCounts) {e : Fault}
    (h : a.buildGraph.2 = .error e) : ∃ c ∈ a.calls, a.methodId? c.source = none ∧
      e = .invariant (.callFromUnknownMethod c.source.text c.target.text) := by
  rw [snd_buildGraph] at h
  exact exists_unknown_of_resolve CallGraph.counts_empty hcounts h

/-! ## The endings of a build -/

theorem snd_build (a : Assembly) (r : Release) :
    (a.build r).2 = a.buildGraph.2 >>= fun g ↦ (a.draft r g).build := by
  have htypes := a.types_buildGraph
  rw [build]
  split
  next b result h =>
    rw [h] at htypes ⊢
    cases result with
    | error e => rfl
    | ok g =>
      have hdraft : b.draft r g = a.draft r g := by rw [draft, draft, htypes]
      exact congrArg Draft.build hdraft

theorem build_draft_of_not_isNamed (h : ¬ r.IsNamed) :
    (a.draft r g).build = .error (.format (.revisionIncomplete (a.draft r g).missing)) := by
  have hmissing : (a.draft r g).missing = (a.parts r g).emptyNames := (a.parts r g).missing_draft
  rw [hmissing]
  have hnamed : ¬ (a.parts r g).IsNamed := (isNamed_parts_iff a r g).not.mpr h
  exact Revision.Parts.build_draft_of_not_isNamed hnamed

/-- **A build ends in one of three ways.** -/
theorem IsWellFormed.build_cases (h : a.IsWellFormed) (hcounts : a.HasWritableCounts)
    (r : Release) :
    (∃ c ∈ a.calls, a.methodId? c.source = none ∧
      (a.build r).2 = .error (.invariant (.callFromUnknownMethod c.source.text c.target.text))) ∨
    ∃ g, a.buildGraph.2 = .ok g ∧
      (¬ r.IsNamed ∧
          (a.build r).2 = .error (.format (.revisionIncomplete (a.draft r g).missing)) ∨
        r.IsNamed ∧ (a.build r).2 = .ok (a.revision r g)) := by
  rw [snd_build]
  cases hg : a.buildGraph.2 with
  | error e =>
    obtain ⟨c, hc, hsource, rfl⟩ := exists_unknown_of_buildGraph hcounts hg
    exact .inl ⟨c, hc, hsource, rfl⟩
  | ok g =>
    refine .inr ⟨g, rfl, ?_⟩
    rw [bind_of_eq_ok rfl]
    by_cases hnamed : r.IsNamed
    · exact .inr ⟨hnamed, build_draft_eq_ok_iff.mpr ⟨hnamed, rfl, h.isValid_revision hg r⟩⟩
    · exact .inl ⟨hnamed, build_draft_of_not_isNamed hnamed⟩

/-- External calls lead to methods that no type defines. -/
theorem IsWellFormed.not_defines_target (h : a.IsWellFormed) (hg : a.buildGraph.2 = .ok g)
    {k : ExternalKey} (hk : k ∈ g.external.keys) (type : Identifier) (id : MethodId) :
    ¬ a.types.Defines type id k.target := by
  intro hdef
  obtain ⟨callType, hsite⟩ := ((buildGraph_spec hg).2.mem_keys_iff k).mp hk
  obtain ⟨c, -, hc⟩ := List.mem_filterMap.mp hsite
  rw [externalSite?] at hc
  split at hc
  · next htarget =>
    cases hc
    rw [h.methodId?_of_defines hdef] at htarget
    cases htarget
  · cases hc

/-- **How a build ends after any history.**  An unknown source is a violation, the lack of a name a
fault of shape, and otherwise there is a revision that passes the check of its ids, whose external
calls lead out of it. -/
theorem build_run (history : List Operation) (r : Release)
    (hcounts : (run history).HasWritableCounts) :
    ((∃ cause, ((run history).build r).2 = .error (.invariant cause)) ↔
      ∃ c ∈ (run history).calls, (run history).methodId? c.source = none) ∧
    ((∃ cause, ((run history).build r).2 = .error (.format cause)) ↔
      (¬ ∃ c ∈ (run history).calls, (run history).methodId? c.source = none) ∧
        (r.forge = "" ∨ r.product = "" ∨ r.version = "" ∨ r.generator = "")) ∧
    ((∃ x, ((run history).build r).2 = .ok x) ↔
      (¬ ∃ c ∈ (run history).calls, (run history).methodId? c.source = none) ∧
        ¬ (r.forge = "" ∨ r.product = "" ∨ r.version = "" ∨ r.generator = "")) ∧
    (∀ cause, ((run history).build r).2 = .error (.invariant cause) →
      ∃ source target, cause = .callFromUnknownMethod source target) ∧
    ∀ x, ((run history).build r).2 = .ok x → x.validate = .ok () ∧
      ∀ k ∈ x.calls.external.keys, ∀ type id, ¬ x.hierarchy.Defines type id k.target := by
  -- the statements exclude each other, so the ending that happened settles all of them
  have hwell := isWellFormed_run history
  rw [← Release.not_isNamed_iff, not_not]
  rcases hwell.build_cases hcounts r with ⟨c, hc, hsource, hend⟩ | ⟨g, hg, hends⟩
  · have hunknown : ∃ c ∈ (run history).calls, (run history).methodId? c.source = none :=
      ⟨c, hc, hsource⟩
    rw [hend]
    simp [hunknown]
  · have hknown : ¬ ∃ c ∈ (run history).calls, (run history).methodId? c.source = none := by
      rintro ⟨c, hc, hsource⟩
      exact methodId?_eq_none_iff.mp hsource ((exists_buildGraph_iff.mp ⟨g, hg⟩).1 c hc)
    rcases hends with ⟨hnamed, hend⟩ | ⟨hnamed, hend⟩
    · rw [hend]
      simp [hknown, hnamed]
    · have hvalid := Revision.validate_eq_ok_iff.mpr (hwell.isValid_revision hg r)
      have hleave := fun k hk ↦ hwell.not_defines_target hg (k := k) hk
      rw [hend]
      simp only [hknown, hnamed, not_false_eq_true, not_true_eq_false, and_true, and_false]
      refine ⟨by simp, by simp, by simp, by simp, fun x hx ↦ ?_⟩
      cases hx
      exact ⟨hvalid, hleave⟩

/-- A type with one method, which calls itself and a method elsewhere. -/
def sampleHistory : List Operation :=
  let type : Identifier := .sampleOwner
  let method : Identifier := .sampleCaller
  let elsewhere : Identifier := .sampleElsewhere
  [.addType type "A.java" [] [], .addMethod type method, .addCall method method "static",
    .addCall method elsewhere "static"]

/-- A release with all names, made when time began. -/
def namedRelease : Release := ⟨"mvn", "g:a", "1.0", "OPAL", 0, []⟩

theorem build_run_sample : ∃ x, ((run sampleHistory).build namedRelease).2 = .ok x ∧
    x.validate = .ok () ∧
      ∀ k ∈ x.calls.external.keys, ∀ type id, ¬ x.hierarchy.Defines type id k.target := by
  obtain ⟨-, -, hbuilt, -, hx⟩ := build_run sampleHistory namedRelease (by decide +kernel)
  obtain ⟨x, hok⟩ := hbuilt.mpr (by decide +kernel)
  exact ⟨x, hok, hx x hok⟩

end Assembly

end RevisionGraph
