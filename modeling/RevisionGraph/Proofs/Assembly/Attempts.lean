import RevisionGraph.Proofs.Assembly.Conservation

/-!
# What an attempt at a graph leaves behind

An attempt may fail in two places.  A call cannot be resolved, and then there is no graph; or the
release is not named, and then there is a graph and no revision.  Either way nothing that was
registered or recorded is touched.  The statistics are another matter: they are started afresh by
every attempt and counted in passing, so what a failed attempt counted stays in them.

* **Calls, one by one.**  A call either stops the attempt or leaves the others to be resolved,
  `resolve_cons_cases`.  So a failed attempt has a first call that stopped it, `StopsAt`, and what
  was counted before that call is found in `exists_stopsAt`.
* **Whole histories.**  `Stats.AreOfAttempt` says which statistics an attempt leaves; `run_attempts`
  finds the statistics of an assembly from the last attempt of its history.
-/

set_option autoImplicit false

namespace RevisionGraph

variable {a : Assembly} {g : CallGraph} {calls : List CallSite} {n : Nat} {e : Fault}
  {op : Assembly.Operation}

namespace Assembly

/-! ## Calls, one by one -/

/-- **What one call does to an attempt**: it stops it where it stands, or it is taken into the graph
and the others go on from there. -/
theorem resolve_cons_cases (a : Assembly) (g : CallGraph) (n : Nat) (c : CallSite) :
    (∃ e, ∀ rest, a.resolve g n (c :: rest) = (n, .error e)) ∨
      ∃ g' m, ∀ rest, a.resolve g n (c :: rest) = a.resolve g' m rest := by
  cases hsource : a.methodId? c.source with
  | none => exact .inl ⟨_, fun rest ↦ resolve_unknown n hsource⟩
  | some source =>
    cases htarget : a.methodId? c.target with
    | some target => exact .inr ⟨_, n, fun rest ↦ resolve_internal n hsource htarget⟩
    | none =>
      cases hadd : g.addExternal source c.target c.callType with
      | error e => exact .inl ⟨e, fun rest ↦ resolve_overflow n hsource htarget hadd⟩
      | ok g' => exact .inr ⟨g', n + 1, fun rest ↦ resolve_external n hsource htarget hadd⟩

/-- Calls that do not resolve have a first one that stops them.  The calls before it resolve, and as
many external call sites are counted as there are among them. -/
theorem exists_stop_of_resolve (h : (a.resolve g n calls).2 = .error e) : ∃ passed c rest g',
    calls = passed ++ c :: rest ∧ a.resolve g n passed = ((a.resolve g n calls).1, .ok g') ∧
      ∀ more, (a.resolve g n (passed ++ c :: more)).2 = .error e := by
  induction calls generalizing g n with
  | nil => cases h
  | cons c rest ih =>
    rcases a.resolve_cons_cases g n c with ⟨e', hstops⟩ | ⟨g₁, m, hgoes⟩
    · have he : e' = e := by simpa [hstops] using h
      refine ⟨[], c, rest, g, rfl, ?_, fun more ↦ ?_⟩
      · rw [hstops]
        rfl
      · rw [List.nil_append, hstops, he]
    · rw [hgoes] at h ⊢
      obtain ⟨passed, c', rest', g', hsplit, hpassed, hmore⟩ := ih h
      refine ⟨c :: passed, c', rest', g', by rw [hsplit, List.cons_append], ?_, fun more ↦ ?_⟩
      · rw [hgoes, hpassed]
      · rw [List.cons_append, hgoes, hmore]

/-- The external call sites that are counted in passing are the calls to other methods. -/
theorem fst_resolve_of_ok (h : (a.resolve .empty 0 calls).2 = .ok g) :
    (a.resolve .empty 0 calls).1 = calls.countP fun c ↦ decide (c.target ∉ a.methods) := by
  have hsame : SameRegistry { a with calls } a := ⟨rfl, rfl⟩
  have hg : { a with calls }.buildGraph.2 = .ok g := by
    rw [snd_buildGraph, hsame.resolve]
    exact h
  have hinside : (calls.filter (·.target ∈ a.methods)).length = g.internal.length :=
    (hasCallsOf_buildGraph hg).internal.length_eq
  obtain ⟨-, haccounts⟩ := resolve_accounts h
  have hsides := List.length_eq_countP_add_countP (l := calls) (·.target ∈ a.methods)
  have hnone : CallGraph.empty.internal.length = 0 := rfl
  rw [← List.countP_eq_length_filter] at hinside
  simp only [decide_eq_true_eq] at hsides
  omega

/-- The call is the first that stands in the way of a graph: the calls before it make one, and with
it there is none. -/
structure StopsAt (a : Assembly) (passed : List CallSite) (c : CallSite) (e : Fault) : Prop where
  exists_rest : ∃ rest, a.calls = passed ++ c :: rest
  passes : ∃ g, { a with calls := passed }.buildGraph.2 = .ok g
  stops : { a with calls := passed ++ [c] }.buildGraph.2 = .error e

theorem fst_buildGraph_of_error (h : a.buildGraph.2 = .error e) : a.buildGraph.1 =
    { a with stats := { externalCallSites := (a.resolve .empty 0 a.calls).1 } } := by
  rw [snd_buildGraph] at h
  rw [buildGraph]
  split
  next sites result hresolve =>
    rw [hresolve] at h ⊢
    cases h
    rfl

/-- **A failed attempt stops at a call**, and the external call sites before that call are
counted. -/
theorem exists_stopsAt (h : a.buildGraph.2 = .error e) : ∃ passed c, a.StopsAt passed c e ∧
    a.buildGraph.1.stats =
      { externalCallSites := passed.countP fun c ↦ decide (c.target ∉ a.methods) } := by
  have hresolve := h
  rw [snd_buildGraph] at hresolve
  obtain ⟨passed, c, rest, g, hsplit, hpassed, hmore⟩ := exists_stop_of_resolve hresolve
  have hsame : ∀ calls, SameRegistry { a with calls } a := fun _ ↦ ⟨rfl, rfl⟩
  refine ⟨passed, c, ⟨⟨rest, hsplit⟩, ⟨g, ?_⟩, ?_⟩, ?_⟩
  · rw [snd_buildGraph, (hsame passed).resolve, hpassed]
  · rw [snd_buildGraph, (hsame (passed ++ [c])).resolve]
    exact hmore []
  · have hcount : (a.resolve .empty 0 passed).1 = (a.resolve .empty 0 a.calls).1 := by rw [hpassed]
    have hok : (a.resolve .empty 0 passed).2 = .ok g := by rw [hpassed]
    rw [fst_buildGraph_of_error h, ← hcount, fst_resolve_of_ok hok]

end Assembly

/-! ## One attempt -/

/-- The statistics are those of an attempt at a graph of the assembly.  They are the statistics of
the graph, if there is one; otherwise they are zero but for the external call sites before the call
that stopped the attempt. -/
def Stats.AreOfAttempt (s : Stats) (a : Assembly) : Prop :=
  (∃ g, a.buildGraph.2 = .ok g ∧ s.Describe a g) ∨
    ∃ passed c e, a.buildGraph.2 = .error e ∧ a.StopsAt passed c e ∧
      s = { externalCallSites := passed.countP fun c ↦ decide (c.target ∉ a.methods) }

namespace Assembly

/-- The operation attempts a graph. -/
def Operation.attempts : Operation → Bool
  | .buildGraph => true
  | .build _ => true
  | .addType .. => false
  | .addMethod .. => false
  | .addCall .. => false

theorem fst_perform_of_attempts (h : op.attempts = true) :
    (a.perform op).1 = a.buildGraph.1 := by
  cases op with
  | buildGraph => rfl
  | build release => exact a.fst_build release
  | _ => cases h

/-- **Nothing but the statistics changes** when a graph is attempted, whether or not it fails. -/
theorem exists_perform_eq_of_attempts (a : Assembly) (h : op.attempts = true) :
    ∃ stats, (a.perform op).1 = { a with stats } := by
  rw [fst_perform_of_attempts h, buildGraph]
  split
  split <;> exact ⟨_, rfl⟩

theorem IsWellFormed.areOfAttempt_perform (h : a.IsWellFormed) (hop : op.attempts = true) :
    (a.perform op).1.stats.AreOfAttempt a := by
  rw [fst_perform_of_attempts hop]
  cases hg : a.buildGraph.2 with
  | ok g => exact .inl ⟨g, hg, h.describe_buildGraph hg⟩
  | error e =>
    obtain ⟨passed, c, hstops, hstats⟩ := exists_stopsAt hg
    exact .inr ⟨passed, c, e, hg, hstops, hstats⟩

/-- Registering and recording leave the statistics as they are. -/
theorem stats_perform_of_not_attempts (h : op.attempts = false) :
    (a.perform op).1.stats = a.stats := by
  cases op with
  | addType name sourceFile superClasses superInterfaces => rfl
  | addCall source target callType => rfl
  | addMethod type method =>
    rcases a.addMethod_cases type method with ⟨b, id, hadd⟩ | ⟨e, hadd⟩
    · rw [perform_addMethod_of_ok hadd]
      rcases addMethod_eq_ok_iff.mp hadd with ⟨-, -, hsame⟩ | ⟨info, -, -, -, hnew⟩
      · rw [hsame]
      · rw [hnew]
        rfl
    · rw [perform_addMethod_of_error hadd]
  | _ => cases h

/-! ## Whole histories -/

theorem stats_runFrom_of_not_attempts {history : List Operation}
    (h : ∀ op ∈ history, op.attempts = false) : (a.runFrom history).stats = a.stats := by
  induction history generalizing a with
  | nil => rfl
  | cons op rest ih =>
    obtain ⟨hop, hrest⟩ := List.forall_mem_cons.mp h
    have hstep : (a.runFrom (op :: rest)).stats = (a.perform op).1.stats := ih hrest
    rw [hstep, stats_perform_of_not_attempts hop]

/-- **What attempts leave behind**, after any history.  An attempt changes the statistics and
nothing else.  The statistics are zero as long as no graph was attempted; from then on they are
those of the last attempt, which are those of its graph, or of the calls before the one that stopped
it. -/
theorem run_attempts (history : List Operation) :
    (∀ op, op.attempts = true →
      ∃ stats, ((run history).perform op).1 = { run history with stats }) ∧
    ((∀ op ∈ history, op.attempts = false) → (run history).stats = {}) ∧
    ∀ before op after, history = before ++ op :: after → op.attempts = true →
      (∀ later ∈ after, later.attempts = false) →
        (run history).stats.AreOfAttempt (run before) := by
  refine ⟨fun op hop ↦ exists_perform_eq_of_attempts _ hop,
    fun hnone ↦ stats_runFrom_of_not_attempts hnone, ?_⟩
  rintro before op after rfl hop hafter
  have hrun : run (before ++ op :: after) = ((run before).perform op).1.runFrom after := by
    rw [run, runFrom_append]
    rfl
  rw [hrun, stats_runFrom_of_not_attempts hafter]
  exact (isWellFormed_run before).areOfAttempt_perform hop

open Identifier (sampleOwner sampleCaller sampleElsewhere)

/-- A call to a method elsewhere, and behind it a call from there. -/
def strayCall : List Operation :=
  [.addType sampleOwner "A.java" [] [], .addMethod sampleOwner sampleCaller,
    .addCall sampleCaller sampleElsewhere "static", .addCall sampleElsewhere sampleCaller "static"]

/-- **A failed attempt can leave a trace**: no graph was ever built, and an external call site is
counted. -/
theorem exists_trace :
    (∀ op ∈ strayCall, op.attempts = false) ∧ (run strayCall).stats = {} ∧
      (∃ e, ((run strayCall).perform .buildGraph).2 = .error e) ∧
      ((run strayCall).perform .buildGraph).1.stats = { externalCallSites := 1 } ∧
      ((run strayCall).perform .buildGraph).1 ≠ run strayCall := by
  have hstats : ((run strayCall).perform .buildGraph).1.stats = { externalCallSites := 1 } := by
    decide +kernel
  have hzero : (run strayCall).stats = {} := by decide +kernel
  refine ⟨by decide, hzero, ⟨.invariant (.callFromUnknownMethod "/q/C.k()" "/p/A.m()"), ?_⟩, hstats,
    fun hsame ↦ ?_⟩
  · decide +kernel
  · rw [hsame, hzero] at hstats
    revert hstats
    decide

end Assembly

end RevisionGraph
