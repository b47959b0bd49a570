import Mathlib.Data.List.Range
import RevisionGraph.Proofs.Assembly.History
import RevisionGraph.Proofs.Assembly.Renaming

/-!
# No call site is lost

A build goes through the calls that were recorded, puts some into the list of internal calls, merges
the others into counts and keeps statistics of its own.  Nothing is lost on the way and nothing is
counted twice:

* `CallGraph.HasCallsOf g a`: the graph has the calls of the assembly, each once.
* `Stats.Describe s a g`: the statistics are those of the assembly and its graph.

Calls are looked up when the graph is built, so it does not matter when they were recorded:
`run_eq_of_split`.
-/

set_option autoImplicit false

namespace RevisionGraph

open Result OrderedMap

namespace Assembly

/-- How many call sites were recorded from the method with an id to another method. -/
def callSites (a : Assembly) (k : ExternalKey) (callType : String) : Nat :=
  a.calls.countP fun c ↦
    a.methodId? c.source = some k.source ∧ c.target = k.target ∧ c.callType = callType

end Assembly

/-- The graph has the calls of the assembly: those between its methods in their order, and how many
lead elsewhere. -/
structure CallGraph.HasCallsOf (g : CallGraph) (a : Assembly) : Prop where
  internal : List.Forall₂
    (fun c i ↦ a.methodId? c.source = some i.source ∧ a.methodId? c.target = some i.target)
    (a.calls.filter (·.target ∈ a.methods)) g.internal
  count?_eq : ∀ k callType, k.target ∉ a.methods → g.count? k callType =
    if a.callSites k callType = 0 then none else some (.ofNat (a.callSites k callType))
  mem_keys_iff : ∀ k, k ∈ g.external.keys ↔
    k.target ∉ a.methods ∧ ∃ callType, a.callSites k callType ≠ 0

/-- The statistics are those of the assembly and its graph. -/
structure Stats.Describe (s : Stats) (a : Assembly) (g : CallGraph) : Prop where
  calls : s.internalCalls + s.externalCallSites = a.calls.length
  internalCalls : s.internalCalls = g.internal.length
  externalCallSites : s.externalCallSites = g.total
  externalCalls : s.externalCalls = g.external.size
  methods : s.methods = a.types.methodEntries.length
  types : s.types = a.types.size

namespace Assembly

variable {a b : Assembly} {g g' : CallGraph} {c : CallSite}

/-! ## The calls of the graph -/

/-- A call to a method elsewhere is counted as often as it was recorded. -/
theorem count_externalSites {k : ExternalKey} (hk : k.target ∉ a.methods) (callType : String) :
    a.externalSites.count (k, callType) = a.callSites k callType := by
  rw [externalSites, List.count_eq_countP, List.countP_filterMap, callSites]
  refine List.countP_congr fun c _ ↦ ?_
  have hsite : ((a.externalSite? c).map (· == (k, callType))).getD false = true ↔
      a.externalSite? c = some (k, callType) := by
    cases a.externalSite? c <;> simp
  rw [hsite, externalSite?_eq_some_iff, decide_eq_true_eq]
  refine and_congr_right fun _ ↦ ⟨And.right, fun h ↦ ⟨?_, h⟩⟩
  rw [h.1]
  exact hk

/-- Where every source is registered, the internal calls are those to registered methods. -/
theorem forall₂_internalCall? {calls : List CallSite}
    (hsources : ∀ c ∈ calls, c.source ∈ a.methods) : List.Forall₂
      (fun c i ↦ a.methodId? c.source = some i.source ∧ a.methodId? c.target = some i.target)
      (calls.filter (·.target ∈ a.methods)) (calls.filterMap a.internalCall?) := by
  induction calls with
  | nil => exact .nil
  | cons c rest ih =>
    obtain ⟨hsource, hrest⟩ := List.forall_mem_cons.mp hsources
    obtain ⟨source, hsource⟩ := Option.isSome_iff_exists.mp (isSome_methodId?_iff.mpr hsource)
    cases htarget : a.methodId? c.target with
    | none =>
      have hout : c.target ∉ a.methods := methodId?_eq_none_iff.mp htarget
      rw [(filterMap_external hsource htarget).1, List.filter_cons_of_neg (by simpa using hout)]
      exact ih hrest
    | some target =>
      have hin : c.target ∈ a.methods := mem_methods_of_methodId? htarget
      rw [(filterMap_internal hsource htarget).1, List.filter_cons_of_pos (by simpa using hin)]
      exact .cons ⟨hsource, htarget⟩ (ih hrest)

theorem hasCallsOf_buildGraph (hg : a.buildGraph.2 = .ok g) : g.HasCallsOf a := by
  obtain ⟨hinternal, hcounts⟩ := buildGraph_spec hg
  have hsources := (exists_buildGraph_iff.mp ⟨g, hg⟩).1
  refine ⟨hinternal ▸ forall₂_internalCall? hsources, fun k callType hk ↦ ?_, fun k ↦ ?_⟩
  · rw [hcounts.count?_eq, ← count_externalSites hk]
    by_cases hsite : (k, callType) ∈ a.externalSites
    · rw [if_pos hsite, if_neg (Nat.ne_of_gt (List.count_pos_iff.mpr hsite))]
    · rw [if_neg hsite, if_pos (List.count_eq_zero.mpr hsite)]
  · rw [hcounts.mem_keys_iff]
    constructor
    · rintro ⟨callType, hsite⟩
      obtain ⟨c, -, hc⟩ := List.mem_filterMap.mp hsite
      obtain ⟨-, hout, htarget, -⟩ := externalSite?_eq_some_iff.mp hc
      have hk : k.target ∉ a.methods := htarget ▸ hout
      refine ⟨hk, callType, ?_⟩
      rw [← count_externalSites hk]
      exact Nat.ne_of_gt (List.count_pos_iff.mpr hsite)
    · rintro ⟨hk, callType, hsites⟩
      rw [← count_externalSites hk] at hsites
      exact ⟨callType, List.count_pos_iff.mp (Nat.pos_of_ne_zero hsites)⟩

/-! ## The statistics -/

/-- **Each call goes to one side or the other.**  What is counted in passing is what the graph
counts, on top of what was there before. -/
theorem resolve_accounts {calls : List CallSite} {n : Nat} (h : (a.resolve g n calls).2 = .ok g') :
    (a.resolve g n calls).1 + g.total = n + g'.total ∧
      g'.internal.length + (a.resolve g n calls).1 = g.internal.length + n + calls.length := by
  induction calls generalizing g n with
  | nil =>
    cases h
    exact ⟨rfl, rfl⟩
  | cons c rest ih =>
    cases hsource : a.methodId? c.source with
    | none =>
      rw [resolve_unknown n hsource] at h
      cases h
    | some source =>
      cases htarget : a.methodId? c.target with
      | some target =>
        rw [resolve_internal n hsource htarget] at h ⊢
        obtain ⟨htotal, hlength⟩ := ih h
        refine ⟨htotal, hlength.trans ?_⟩
        simp only [CallGraph.addInternal, List.length_append, List.length_cons, List.length_nil]
        omega
      | none =>
        cases hadd : g.addExternal source c.target c.callType with
        | error e =>
          rw [resolve_overflow n hsource htarget hadd] at h
          cases h
        | ok g₁ =>
          have hone := CallGraph.total_addExternal (k := ⟨source, c.target⟩) hadd
          obtain ⟨_, -, hg₁⟩ := CallGraph.addExternal_eq_ok_iff (k := ⟨source, c.target⟩).mp hadd
          have hinternal : g₁.internal = g.internal := by rw [hg₁]; rfl
          rw [resolve_external n hsource htarget hadd] at h ⊢
          obtain ⟨htotal, hlength⟩ := ih h
          rw [hinternal] at hlength
          rw [List.length_cons]
          omega

/-- The types of a well-formed assembly have as many methods as it numbered. -/
theorem IsWellFormed.length_methodEntries (h : a.IsWellFormed) :
    a.types.methodEntries.length = a.methodIds.size := by
  have hids : a.types.ids.Perm ((List.range a.methodIds.size).map Int.ofNat) := by
    refine (List.perm_ext_iff_of_nodup h.nodup_ids
      (List.nodup_range.map fun _ _ ↦ Int.ofNat.inj)).mpr fun id ↦ ?_
    rw [h.mem_ids_iff, List.mem_map]
    constructor
    · rintro ⟨method, hid⟩
      obtain ⟨n, rfl, hn⟩ := h.exists_of_methodId? hid
      exact ⟨n, List.mem_range.mpr hn, rfl⟩
    · rintro ⟨n, hn, rfl⟩
      have hlt : n < a.methods.length := a.length_methods ▸ List.mem_range.mp hn
      exact ⟨a.methods[n], h.methodId?_eq_some_iff.mpr ⟨n, rfl, List.getElem?_eq_getElem hlt⟩⟩
  have hlength := hids.length_eq
  rwa [← Hierarchy.map_fst_methodEntries, List.length_map, List.length_map, List.length_range]
    at hlength

theorem fst_buildGraph_of_ok (hg : a.buildGraph.2 = .ok g) : a.buildGraph.1 = { a with
    stats := {
      types := a.types.size
      methods := a.methodIds.size
      internalCalls := g.internal.length
      externalCallSites := (a.resolve .empty 0 a.calls).1
      externalCalls := g.external.size } } := by
  rw [snd_buildGraph] at hg
  rw [buildGraph]
  split
  next sites result h =>
    rw [h] at hg ⊢
    cases hg
    rfl

theorem IsWellFormed.describe_buildGraph (h : a.IsWellFormed) (hg : a.buildGraph.2 = .ok g) :
    a.buildGraph.1.stats.Describe a g := by
  have hresolve := hg
  rw [snd_buildGraph] at hresolve
  obtain ⟨htotal, hlength⟩ := resolve_accounts hresolve
  have hnone : CallGraph.empty.total = 0 := rfl
  rw [fst_buildGraph_of_ok hg]
  refine ⟨?_, rfl, ?_, rfl, h.length_methodEntries.symm, rfl⟩
  · simpa [CallGraph.empty] using hlength
  · rw [hnone, Nat.add_zero, Nat.zero_add] at htotal
    exact htotal

/-! ## When calls are recorded -/

/-- The call site that an operation records. -/
def Operation.call? : Operation → Option CallSite
  | .addCall source target callType => some ⟨source, target, callType⟩
  | .addType .. => none
  | .addMethod .. => none
  | .buildGraph => none
  | .build _ => none

theorem calls_buildGraph (a : Assembly) : a.buildGraph.1.calls = a.calls := by
  rw [buildGraph]
  split
  split <;> rfl

theorem calls_perform (a : Assembly) (op : Operation) :
    (a.perform op).1.calls = a.calls ++ op.call?.toList := by
  cases op with
  | addCall source target callType => rfl
  | addType name sourceFile superClasses superInterfaces => exact (List.append_nil _).symm
  | addMethod type method =>
    refine Eq.trans ?_ (List.append_nil _).symm
    rcases a.addMethod_cases type method with ⟨b, id, hadd⟩ | ⟨e, hadd⟩
    · rw [perform_addMethod_of_ok hadd, calls_addMethod hadd]
    · rw [perform_addMethod_of_error hadd]
  | buildGraph => exact a.calls_buildGraph.trans (List.append_nil _).symm
  | build release =>
    have hleft : (a.build release).1.calls = a.calls := by rw [fst_build, calls_buildGraph]
    exact hleft.trans (List.append_nil _).symm

/-- Every call is kept that was recorded, and no other. -/
theorem calls_runFrom (a : Assembly) (history : List Operation) :
    (a.runFrom history).calls = a.calls ++ history.filterMap Operation.call? := by
  induction history generalizing a with
  | nil => exact (List.append_nil _).symm
  | cons op rest ih =>
    refine (ih (a.perform op).1).trans ?_
    rw [calls_perform, List.append_assoc]
    cases hcall : op.call? with
    | none => rw [List.filterMap_cons_none hcall]; rfl
    | some c => rw [List.filterMap_cons_some hcall]; rfl

theorem calls_run (history : List Operation) :
    (run history).calls = history.filterMap Operation.call? :=
  calls_runFrom empty history

/-- The assemblies have registered the same. -/
def SameRegistry (a b : Assembly) : Prop := a.types = b.types ∧ a.methodIds = b.methodIds

namespace SameRegistry

theorem addMethod (h : a.SameRegistry b) (type method : Identifier) :
    (a.addMethod type method).1.SameRegistry (b.addMethod type method).1 := by
  obtain ⟨types, methodIds, calls, stats⟩ := a
  obtain ⟨types', methodIds', calls', stats'⟩ := b
  obtain ⟨rfl, rfl⟩ := h
  simp only [Assembly.addMethod, methodId?]
  cases types.find? type with
  | none => exact ⟨rfl, rfl⟩
  | some info =>
    cases methodIds.find? method with
    | none => exact ⟨rfl, rfl⟩
    | some id =>
      simp only
      split <;> exact ⟨rfl, rfl⟩

theorem perform (h : a.SameRegistry b) (op : Operation) :
    (a.perform op).1.SameRegistry (b.perform op).1 := by
  have hbuilt : a.buildGraph.1.SameRegistry b.buildGraph.1 := by
    rwa [SameRegistry, types_buildGraph, methodIds_buildGraph, types_buildGraph,
      methodIds_buildGraph]
  cases op with
  | addType name sourceFile superClasses superInterfaces =>
    refine ⟨?_, h.2⟩
    simp only [Assembly.perform, Assembly.addType, h.1]
  | addMethod type method => exact h.addMethod type method
  | addCall source target callType => exact h
  | buildGraph => exact hbuilt
  | build release =>
    simp only [Assembly.perform, fst_build]
    exact hbuilt

/-- **Recording calls registers nothing**: without them, a history leads to the same registry. -/
theorem runFrom (h : a.SameRegistry b) (history : List Operation) :
    (a.runFrom (history.filter (·.call? = none))).SameRegistry (b.runFrom history) := by
  induction history generalizing a b with
  | nil => exact h
  | cons op rest ih =>
    cases hcall : op.call? with
    | none =>
      rw [List.filter_cons_of_pos (by simpa using hcall)]
      exact ih (h.perform op)
    | some c =>
      rw [List.filter_cons_of_neg (by simp [hcall])]
      refine ih (b := (b.perform op).1) ?_
      cases op with
      | addCall source target callType => exact h
      | _ => cases hcall

theorem resolve (h : a.SameRegistry b) (g : CallGraph) (n : Nat) (calls : List CallSite) :
    a.resolve g n calls = b.resolve g n calls := by
  have hid : ∀ method, a.methodId? method = b.methodId? method := fun method ↦ by
    rw [methodId?, methodId?, h.2]
  induction calls generalizing g n with
  | nil => rfl
  | cons c rest ih =>
    rw [Assembly.resolve, Assembly.resolve, hid, hid]
    simp only [ih]

/-- Statistics that are there are not looked at. -/
theorem buildGraph (h : a.SameRegistry b) (hcalls : a.calls = b.calls) :
    a.buildGraph = b.buildGraph := by
  have hresolve := h.resolve .empty 0 a.calls
  rw [Assembly.buildGraph, Assembly.buildGraph, hresolve, ← hcalls, h.1, h.2]

end SameRegistry

/-- **It does not matter when a call was recorded**, before its methods were registered or after. -/
theorem buildGraph_run_of_split {history history' : List Operation}
    (hcalls : history'.filterMap Operation.call? = history.filterMap Operation.call?)
    (hothers : history'.filter (·.call? = none) = history.filter (·.call? = none)) :
    (run history').buildGraph = (run history).buildGraph := by
  have hself : empty.SameRegistry empty := ⟨rfl, rfl⟩
  have hleft := hself.runFrom history
  have hright := hself.runFrom history'
  rw [hothers] at hright
  have hsame : (run history').SameRegistry (run history) :=
    ⟨hright.1.symm.trans hleft.1, hright.2.symm.trans hleft.2⟩
  refine hsame.buildGraph ?_
  rw [calls_run, calls_run, hcalls]

/-- Methods in another numbering give the same graph under other ids. -/
theorem buildGraph_of_resembles (h : a.Resembles b) (ha : a.IsWellFormed) (hb : b.IsWellFormed)
    (hcalls : b.calls = a.calls) (hg : a.buildGraph.2 = .ok g) :
    ∃ g', b.buildGraph.2 = .ok g' ∧
      g'.internal = g.internal.map (InternalCall.rename (renameId a b)) ∧
      g'.external.keys.Perm (g.external.keys.map (ExternalKey.rename (renameId a b))) ∧
      ∀ k ∈ g.external.keys, Option.Rel (Agree Eq) (g.external.find? k)
        (g'.external.find? (k.rename (renameId a b))) := by
  obtain ⟨g', hg'⟩ := h.exists_buildGraph ha hb ⟨g, hg⟩
  obtain ⟨hinternal, hcounts⟩ := buildGraph_spec hg
  obtain ⟨hinternal', hcounts'⟩ := buildGraph_spec hg'
  refine ⟨g', hg', ?_, h.externalKeys_perm ha hb hcounts hcounts', fun k hk ↦ ?_⟩
  · rw [hinternal, hinternal', h.internalCalls_eq_map ha hcalls]
  · obtain ⟨callType, hsite⟩ := (hcounts.mem_keys_iff k).mp hk
    exact hcounts.rel_find? hcounts' (h.count_externalSites ha hb (ha.source_mem_ids hsite))

/-- **Call sites are conserved**, after any history that leads to a graph.  Every call that was
recorded is in the graph once, the statistics add up, and neither depends on when the calls were
recorded; where the same methods were registered in another order, the graph is the same under their
other ids. -/
theorem buildGraph_conserves (history : List Operation) {g : CallGraph}
    (hg : (run history).buildGraph.2 = .ok g) :
    (run history).calls = history.filterMap Operation.call? ∧
    g.HasCallsOf (run history) ∧
    (run history).buildGraph.1.stats.Describe (run history) g ∧
    (∀ history' : List Operation,
      history'.filterMap Operation.call? = history.filterMap Operation.call? →
      history'.filter (·.call? = none) = history.filter (·.call? = none) →
      (run history').buildGraph = (run history).buildGraph) ∧
    ∀ history' : List Operation,
      history'.filterMap Operation.call? = history.filterMap Operation.call? →
      (∀ method, method ∈ (run history).methods ↔ method ∈ (run history').methods) →
      ∃ (r : MethodId → MethodId) (g' : CallGraph), (run history').buildGraph.2 = .ok g' ∧
        (∀ method, (run history').methodId? method = ((run history).methodId? method).map r) ∧
        g'.internal = g.internal.map (InternalCall.rename r) ∧
        g'.external.keys.Perm (g.external.keys.map (ExternalKey.rename r)) ∧
        ∀ k ∈ g.external.keys,
          Option.Rel (Agree Eq) (g.external.find? k) (g'.external.find? (k.rename r)) := by
  have hwell := isWellFormed_run history
  refine ⟨calls_run history, hasCallsOf_buildGraph hg, hwell.describe_buildGraph hg,
    fun history' ↦ buildGraph_run_of_split, fun history' hcalls hmethods ↦ ?_⟩
  have hwell' := isWellFormed_run history'
  rw [← calls_run, ← calls_run] at hcalls
  have hlike : (run history).Resembles (run history') := ⟨hmethods, .of_eq hcalls.symm⟩
  obtain ⟨g', hg', hgraph⟩ := buildGraph_of_resembles hlike hwell hwell' hcalls hg
  exact ⟨_, g', hg', hlike.methodId?_eq_map hwell, hgraph⟩

open Identifier (sampleOwner sampleCaller sampleCallee sampleElsewhere)

/-- A call is recorded, and a graph built, before the method that it leads to is registered. -/
def earlyCall : List Operation :=
  [.addType sampleOwner "A.java" [] [], .addMethod sampleOwner sampleCaller,
    .addCall sampleCaller sampleCallee "static", .addCall sampleCaller sampleElsewhere "static",
    .buildGraph, .addMethod sampleOwner sampleCallee,
    .addCall sampleCallee sampleElsewhere "virtual",
    .addCall sampleCaller sampleElsewhere "static"]

/-- The same with the calls at the end. -/
def lateCall : List Operation :=
  [.addType sampleOwner "A.java" [] [], .addMethod sampleOwner sampleCaller, .buildGraph,
    .addMethod sampleOwner sampleCallee, .addCall sampleCaller sampleCallee "static",
    .addCall sampleCaller sampleElsewhere "static",
    .addCall sampleCallee sampleElsewhere "virtual",
    .addCall sampleCaller sampleElsewhere "static"]

/-- The same with the methods the other way round. -/
def otherNumbers : List Operation :=
  [.addType sampleOwner "A.java" [] [], .addMethod sampleOwner sampleCallee,
    .addMethod sampleOwner sampleCaller, .addCall sampleCaller sampleCallee "static",
    .addCall sampleCaller sampleElsewhere "static",
    .addCall sampleCallee sampleElsewhere "virtual",
    .addCall sampleCaller sampleElsewhere "static"]

/-- The graph that the sample comes to. -/
def sampleCallGraph : CallGraph :=
  ⟨[⟨0, 1⟩], .ofList [(⟨0, sampleElsewhere⟩, .ofList [("static", .ofNat 2)]),
    (⟨1, sampleElsewhere⟩, .ofList [("virtual", .ofNat 1)])]⟩

theorem buildGraph_conserves_sample :
    (run earlyCall).buildGraph.2 = .ok sampleCallGraph ∧
    sampleCallGraph.HasCallsOf (run earlyCall) ∧
    (run earlyCall).buildGraph.1.stats.Describe (run earlyCall) sampleCallGraph ∧
    (run lateCall).buildGraph = (run earlyCall).buildGraph ∧
    ∃ (r : MethodId → MethodId) (g' : CallGraph), (run otherNumbers).buildGraph.2 = .ok g' ∧
      g'.internal = sampleCallGraph.internal.map (InternalCall.rename r) := by
  have hg : (run earlyCall).buildGraph.2 = .ok sampleCallGraph := by decide +kernel
  obtain ⟨-, hcalls, hstats, hlate, hother⟩ := buildGraph_conserves earlyCall hg
  have hmethods : (run earlyCall).methods.Perm (run otherNumbers).methods := by decide +kernel
  obtain ⟨r, g', hg', -, hinternal, -⟩ :=
    hother otherNumbers (by decide +kernel) fun _ ↦ hmethods.mem_iff
  exact ⟨hg, hcalls, hstats, hlate lateCall (by decide +kernel) rfl, r, g', hg', hinternal⟩

end Assembly

end RevisionGraph
