import RevisionGraph.Engine.Producer
import RevisionGraph.Proofs.Assembly.Obstacles

/-!
# What a producer promises, and what gets past it

A producer gives a valid revision of the release it was asked for, or says that the analysis failed:
`EngineProducer.Keeps`.  `EngineProducer.keeps_produce_iff` says how far an engine producer keeps
this promise, whatever the files are and whatever the engine does: unless one of the faults arises
that `EngineProducer.Escapes` lists, and these are what it ends in.

* The directory of a run may be impossible to make or to remove, and this is passed on.
* Of the faults of a program that is run, three are failures of the analysis: that the command is
  missing, took too long or failed.  Any other is passed on, and so is a fault of the template.
* A file without facts is a failure of the analysis.  What is wrong with the facts themselves is
  passed on: `Facts.Obstructs` lists it, and `Assembly.buildFrom_blames` says of what kind it is.
-/

set_option autoImplicit false

namespace RevisionGraph

open Result

/-! ## Artifacts -/

namespace Repository

variable {r : Repository} {files : FileTree} {cwd : Place} {c : Coordinate}

theorem resolve_of_nameTooLong (hnul : (r.artifactPath c).hasNul = false)
    (hfind : files.find cwd (r.artifactPath c) = .error .nameTooLong) :
    r.resolve files cwd c = .error (.file ⟨.nameTooLong, (r.artifactPath c).toText⟩) := by
  rw [resolve]
  simp only [hnul, hfind]
  rfl

/-- An artifact that is not found is missing, or its name is too long to be looked for. -/
theorem resolve_failsWith : FailsWith (r.resolve files cwd c) fun e ↦
    (∃ cause, e = .analysis cause) ∨ (r.artifactPath c).hasNul = false ∧
      files.find cwd (r.artifactPath c) = .error .nameTooLong ∧
        e = .file ⟨.nameTooLong, (r.artifactPath c).toText⟩ := by
  rw [resolve]
  split
  · exact .error (.inl ⟨_, rfl⟩)
  next hnul =>
  split
  · exact .ok _
  · next hfind => exact .error (.inr ⟨Bool.not_eq_true _ ▸ hnul, hfind, rfl⟩)
  · exact .error (.inl ⟨_, rfl⟩)

end Repository

/-! ## Commands -/

namespace Engine

theorem scan_failsWith (position : Position) (word cs : List Char) :
    FailsWith (scan position word cs) fun e ↦ ∃ cause, e = .conversion cause := by
  fun_induction scan position word cs with
  | case1 => exact .ok _
  | case2 => exact .ok _
  | case3 => exact .error ⟨_, rfl⟩
  | case5 => exact .error ⟨_, rfl⟩
  | case10 _ _ _ _ _ _ _ ih => exact ih.bind fun _ _ ↦ .ok _
  | case12 => exact .error ⟨_, rfl⟩
  | _ => assumption

theorem fill_failsWith (values : List (String × Path)) (template : String) :
    FailsWith (fill values template) fun e ↦ ∃ cause, e = .conversion cause := by
  rw [fill]
  split
  · exact .ok _
  · exact .error ⟨_, rfl⟩

/-- The command ended in time and without an error. -/
def Outcome.Succeeded (o : Outcome) : Prop := o.timedOut = false ∧ o.exitCode = 0

end Engine

/-- A command is missing, took too long or failed. -/
inductive Fault.IsRunFailure : Fault → Prop
  | notFound (reason : String) : IsRunFailure (.commandNotFound reason)
  | timedOut (elapsed command : String) : IsRunFailure (.commandTimedOut elapsed command)
  | failed (exitCode : Int) (command errors : String) :
      IsRunFailure (.commandFailed exitCode command errors)

theorem Engine.Outcome.check_of_succeeded {o : Outcome} (h : o.Succeeded) (words : List String) :
    o.check words = .ok () := by
  rw [check, if_neg (by simp [h.1]), if_neg (by simp [h.2])]

/-- A command that did not succeed took too long or failed, and is named by its first word. -/
theorem Engine.Outcome.check_cases {words : List String} (hwords : words ≠ []) (o : Outcome) :
    o.Succeeded ∨ ∃ e, o.check words = .error e ∧ e.IsRunFailure := by
  obtain ⟨word, rest, rfl⟩ := List.exists_cons_of_ne_nil hwords
  rw [check]
  split
  · exact .inr ⟨_, rfl, .timedOut _ _⟩
  next htime =>
  split
  · exact .inr ⟨_, rfl, .failed _ _ _⟩
  next hexit => exact .inl ⟨Bool.not_eq_true _ ▸ htime, not_not.mp hexit⟩

namespace EngineProducer

variable {p : EngineProducer} {c : Coordinate}

theorem commandFor_failsWith (p : EngineProducer) (artifact output : Path) :
    FailsWith (p.commandFor artifact output) fun e ↦ ∃ cause, e = .conversion cause :=
  (Engine.scan_failsWith _ _ _).bind fun _ _ ↦ .mapM fun _ _ ↦ Engine.fill_failsWith _ _

/-- A template with a word in it makes a command with a word in it. -/
theorem ne_nil_of_commandFor (hwords : Engine.splitWords p.command ≠ .ok [])
    {artifact output : Path} {words : List String}
    (h : p.commandFor artifact output = .ok words) : words ≠ [] := by
  obtain ⟨parts, hparts, hfill⟩ := bind_eq_ok_iff.mp h
  rintro rfl
  rw [List.forall₂_nil_right_iff.mp (mapM_eq_ok_iff.mp hfill)] at hparts
  exact hwords hparts

/-- The promise of a producer: a valid revision of the release, or a failure of the analysis. -/
def Keeps (p : EngineProducer) (c : Coordinate) (x : Result Revision) : Prop :=
  (∃ r, x = .ok r ∧ r.validate = .ok () ∧ r.forge = p.forge ∧ r.product = c.product ∧
    r.version = c.version ∧ r.generator = p.generator) ∨
  ∃ cause, x = .error (.analysis cause)

theorem Keeps.analysisFault {e : Fault} (h : e.IsRunFailure) :
    p.Keeps c (.error (p.analysisFault c e)) := by
  cases h <;> exact .inr ⟨_, rfl⟩

theorem analysisFault_of_not_isRunFailure {e : Fault} (h : ¬ e.IsRunFailure) :
    p.analysisFault c e = e := by
  rw [analysisFault.eq_def]
  split
  · exact absurd (.notFound _) h
  · exact absurd (.timedOut _ _) h
  · exact absurd (.failed _ _ _) h
  · rfl

/-! ## The stages of a run -/

section

variable {σ : Type}

/-- What running the words of a command leads to. -/
def ran (p : EngineProducer) (run : Engine.Runner σ) (w : Workplace) (site : Engine.Site σ)
    (words : List String) : Engine.Site σ × Result Engine.Outcome :=
  run (w.prepare site) ⟨words, w.scratch, p.timeout⟩

/-- The files that are there before the directory of a run is removed. -/
def left (p : EngineProducer) (run : Engine.Runner σ) (w : Workplace) (site : Engine.Site σ)
    (artifact : Path) : FileTree :=
  match p.commandFor artifact w.output with
  | .error _ => (w.prepare site).files
  | .ok words => (p.ran run w site words).1.files

/-- The directory of a run cannot be made among the files before it, or not be removed from the
files that the run left. -/
def Workplace.scratchFault? (w : Workplace) (before after : FileTree) : Option FileFault :=
  (w.makingFault before).or (w.removalFault after)

/-- What comes of a run in its directory. -/
def Workplace.within {α : Type} (w : Workplace) (before after : FileTree) (r : Result α) :
    Result α :=
  match w.scratchFault? before after with
  | some fault => .error (.file fault)
  | none => r

/-- What a run of the engine amounts to. -/
def conclude (p : EngineProducer) (w : Workplace) (c : Coordinate) (time : Int)
    (words : List String) (ran : Engine.Site σ × Result Engine.Outcome) : Result Revision :=
  match ran.2.bind fun o ↦ o.check words with
  | .error e => .error (p.analysisFault c e)
  | .ok () => p.readFacts c ran.1.files w.directory w.output >>= fun assembly ↦
    (assembly.build (p.releaseOf c time)).2

/-- What there is when the engine has run in its directory. -/
theorem runEngine_spec (p : EngineProducer) (run : Engine.Runner σ) (w : Workplace)
    (site : Engine.Site σ) (c : Coordinate) (time : Int) (artifact : Path) :
    (p.runEngine run w c artifact (w.prepare site)).1.files = p.left run w site artifact ∧
      ((p.runEngine run w c artifact (w.prepare site)).2 >>= fun assembly ↦
        (assembly.build (p.releaseOf c time)).2) =
      p.commandFor artifact w.output >>= fun words ↦
        p.conclude w c time words (p.ran run w site words) := by
  rw [runEngine, left]
  cases p.commandFor artifact w.output with
  | error e => exact ⟨rfl, rfl⟩
  | ok words =>
    have hran : run (w.prepare site) ⟨words, w.scratch, p.timeout⟩ = p.ran run w site words := rfl
    rw [bind_of_eq_ok rfl, conclude]
    simp only [hran]
    cases (p.ran run w site words).2.bind fun o ↦ o.check words <;> exact ⟨rfl, rfl⟩

theorem within_bind {α β : Type} (w : Workplace) (before after : FileTree) (r : Result α)
    (f : α → Result β) : (w.within before after r >>= f) = w.within before after (r >>= f) := by
  rw [Workplace.within, Workplace.within]
  cases w.scratchFault? before after <;> rfl

theorem snd_facts (p : EngineProducer) (run : Engine.Runner σ) (w : Workplace) (c : Coordinate)
    (artifact : Path) (site : Engine.Site σ) : (p.facts run w c artifact site).2 =
      w.within site.files (p.runEngine run w c artifact (w.prepare site)).1.files
        (p.runEngine run w c artifact (w.prepare site)).2 := by
  rw [facts, Workplace.within, Workplace.scratchFault?]
  cases w.makingFault site.files with
  | some fault => rfl
  | none =>
    simp only [Option.none_or]
    cases w.removalFault (p.runEngine run w c artifact (w.prepare site)).1.files <;> rfl

/-- **Producing, stage by stage**: the artifact is found, the directory made and removed, the
command made, the engine run. -/
theorem result_produce (p : EngineProducer) (run : Engine.Runner σ) (w : Workplace)
    (site : Engine.Site σ) (c : Coordinate) (time : Int) :
    (p.produce run w site c time).2.result =
      p.repository.resolve site.files w.directory c >>= fun artifact ↦
        w.within site.files (p.left run w site artifact)
          (p.commandFor artifact w.output >>= fun words ↦
            p.conclude w c time words (p.ran run w site words)) := by
  rw [produce]
  cases p.repository.resolve site.files w.directory c with
  | error e => rfl
  | ok artifact =>
    obtain ⟨hleft, hresult⟩ := p.runEngine_spec run w site c time artifact
    rw [bind_of_eq_ok rfl, ← hleft, ← hresult, ← within_bind, ← snd_facts]
    simp only
    cases (p.facts run w c artifact site).2 <;> rfl

/-- **A revision that is produced is valid**, and one of the release that was asked for. -/
theorem revision_of_produce {run : Engine.Runner σ} {w : Workplace} {site : Engine.Site σ}
    {time : Int} {r : Revision} (h : (p.produce run w site c time).2.result = .ok r) :
    r.validate = .ok () ∧ r.forge = p.forge ∧ r.product = c.product ∧ r.version = c.version ∧
      r.generator = p.generator := by
  rw [result_produce] at h
  obtain ⟨artifact, -, h⟩ := bind_eq_ok_iff.mp h
  rw [Workplace.within] at h
  split at h
  · cases h
  obtain ⟨words, -, h⟩ := bind_eq_ok_iff.mp h
  rw [conclude] at h
  split at h
  · cases h
  · obtain ⟨assembly, -, h⟩ := bind_eq_ok_iff.mp h
    exact Assembly.revision_of_build h

/-! ### The facts that are left -/

/-- Facts that are read are made a revision of.  In a file that is no text, a line ahead of what is
wrong with it may be refused first. -/
theorem readFacts_of_read {files : FileTree} {cwd : Place} {output : Path} {bytes : Text.Bytes}
    (h : files.read cwd output = .ok bytes) (release : Release) :
    (p.readFacts c files cwd output >>= fun assembly ↦ (assembly.build release).2) =
      match Text.decodeFile bytes with
      | .error broken => Facts.ofLines 1 (Text.linesSoFar broken.before) >>= fun _ ↦
        .error (.conversion (.undecodable broken.cause))
      | .ok text => Assembly.buildFrom (Text.lines text) release := by
  rw [readFacts, h]
  simp only
  rw [Assembly.loadFacts]
  cases Text.decodeFile bytes with
  | error broken =>
    simp only
    cases Facts.ofLines 1 (Text.linesSoFar broken.before) <;> rfl
  | ok text =>
    simp only
    rw [Assembly.buildFrom]
    cases Assembly.empty.applyFacts (Text.lines text) with
    | mk assembly result => cases result <;> rfl

/-- No facts are a failure of the analysis, save where the file cannot be looked at. -/
theorem readFacts_of_not_read {files : FileTree} {cwd : Place} {output : Path} {cause : FileCause}
    (h : files.read cwd output = .error cause) :
    p.readFacts c files cwd output =
      if cause = .isADirectory ∨ cause = .nameTooLong then .error (.file ⟨cause, output.toText⟩)
      else .error (.analysis (.noFacts p.generator c.text)) := by
  rw [readFacts, h]
  cases cause <;> rfl

/-! ## What escapes -/

variable (p c) in
/-- The faults of a run that are passed on, given what the run led to. -/
inductive EscapesRun (w : Workplace) (time : Int) (after : Engine.Site σ) :
    Result Engine.Outcome → Fault → Prop
  /-- the program does not start, or what it writes is not text -/
  | engine {e : Fault} (hfailure : ¬ e.IsRunFailure) (hanalysis : ∀ cause, e ≠ .analysis cause) :
      EscapesRun w time after (.error e) e
  /-- the facts are not in a file -/
  | file {o : Engine.Outcome} {cause : FileCause} (hdone : o.Succeeded)
      (hread : after.files.read w.directory w.output = .error cause)
      (hcause : cause = .isADirectory ∨ cause = .nameTooLong) :
      EscapesRun w time after (.ok o) (.file ⟨cause, w.output.toText⟩)
  /-- the facts are not text, and all lines ahead of what is wrong can be read -/
  | charset {o : Engine.Outcome} {bytes : Text.Bytes} {broken : Text.Interruption}
      (hdone : o.Succeeded) (hread : after.files.read w.directory w.output = .ok bytes)
      (htext : Text.decodeFile bytes = .error broken)
      (hlines : ∀ line ∈ Text.linesSoFar broken.before, Facts.IsReadable line) :
      EscapesRun w time after (.ok o) (.conversion (.undecodable broken.cause))
  /-- the facts are not text, and a line ahead of what is wrong cannot be read -/
  | line {o : Engine.Outcome} {bytes : Text.Bytes} {broken : Text.Interruption} {e : Fault}
      (hdone : o.Succeeded) (hread : after.files.read w.directory w.output = .ok bytes)
      (htext : Text.decodeFile bytes = .error broken)
      (hline : Facts.StopsWith 1 (Text.linesSoFar broken.before) e) :
      EscapesRun w time after (.ok o) e
  /-- no revision can be made of the facts -/
  | facts {o : Engine.Outcome} {bytes : Text.Bytes} {text : String} {e : Fault}
      (hdone : o.Succeeded) (hread : after.files.read w.directory w.output = .ok bytes)
      (htext : Text.decodeFile bytes = .ok text)
      (hfacts : Facts.Obstructs (Text.lines text) (p.releaseOf c time) e) :
      EscapesRun w time after (.ok o) e

variable (p) in
/-- The faults that are passed on, whatever they mean for the analysis. -/
inductive Escapes (run : Engine.Runner σ) (w : Workplace) (site : Engine.Site σ) (c : Coordinate)
    (time : Int) : Fault → Prop
  /-- the path of the artifact is too long to be looked for -/
  | artifact (hnul : (p.repository.artifactPath c).hasNul = false)
      (hfind : site.files.find w.directory (p.repository.artifactPath c) = .error .nameTooLong) :
      Escapes run w site c time (.file ⟨.nameTooLong, (p.repository.artifactPath c).toText⟩)
  /-- the directory of the run cannot be made or removed -/
  | scratch {artifact : Path} {fault : FileFault}
      (hartifact : p.repository.resolve site.files w.directory c = .ok artifact)
      (hscratch : w.scratchFault? site.files (p.left run w site artifact) = some fault) :
      Escapes run w site c time (.file fault)
  /-- the template of the command cannot be filled in -/
  | template {artifact : Path} {cause : ConversionFault}
      (hartifact : p.repository.resolve site.files w.directory c = .ok artifact)
      (hscratch : w.scratchFault? site.files (p.left run w site artifact) = none)
      (hwords : p.commandFor artifact w.output = .error (.conversion cause)) :
      Escapes run w site c time (.conversion cause)
  | run {artifact : Path} {words : List String} {e : Fault}
      (hartifact : p.repository.resolve site.files w.directory c = .ok artifact)
      (hscratch : w.scratchFault? site.files (p.left run w site artifact) = none)
      (hwords : p.commandFor artifact w.output = .ok words)
      (hrun : p.EscapesRun c w time (p.ran run w site words).1 (p.ran run w site words).2 e) :
      Escapes run w site c time e

section

variable {w : Workplace} {time : Int} {words : List String} {after : Engine.Site σ}
  {outcome : Result Engine.Outcome}

theorem conclude_of_succeeded {o : Engine.Outcome} (h : o.Succeeded) :
    p.conclude w c time words (after, .ok o) =
      p.readFacts c after.files w.directory w.output >>= fun assembly ↦
        (assembly.build (p.releaseOf c time)).2 := by
  have hcheck : (Except.ok o : Result Engine.Outcome).bind (fun o ↦ o.check words) = .ok () :=
    o.check_of_succeeded h words
  rw [conclude, hcheck]

theorem conclude_of_check_eq_error {e : Fault}
    (h : (outcome.bind fun o ↦ o.check words) = .error e) :
    p.conclude w c time words (after, outcome) = .error (p.analysisFault c e) := by
  rw [conclude, h]

/-- Facts that are read make a revision, or a fault that is passed on. -/
theorem conclude_cases_of_read {o : Engine.Outcome} {bytes : Text.Bytes} (hdone : o.Succeeded)
    (hread : after.files.read w.directory w.output = .ok bytes) :
    p.Keeps c (p.conclude w c time words (after, .ok o)) ∨
      ∃ e, p.EscapesRun c w time after (.ok o) e := by
  rw [conclude_of_succeeded hdone, readFacts_of_read hread]
  cases htext : Text.decodeFile bytes with
  | error broken =>
    rcases Facts.ofLines_cases 1 (Text.linesSoFar broken.before) with ⟨e, hline, -⟩ | ⟨hlines, -⟩
    · exact .inr ⟨e, .line hdone hread htext hline⟩
    · exact .inr ⟨_, .charset hdone hread htext hlines⟩
  | ok text =>
    simp only
    cases hbuild : Assembly.buildFrom (Text.lines text) (p.releaseOf c time) with
    | ok r =>
      obtain ⟨_, -, hr⟩ := Assembly.buildFrom_eq_ok_iff.mp hbuild
      exact .inl (.inl ⟨r, rfl, Assembly.revision_of_build hr⟩)
    | error e =>
      exact .inr ⟨e, .facts hdone hread htext (Assembly.buildFrom_eq_error_iff.mp hbuild)⟩

/-- **A run ends as promised**, or in a fault that is passed on. -/
theorem conclude_cases (hwords : words ≠ []) :
    p.Keeps c (p.conclude w c time words (after, outcome)) ∨
      ∃ e, p.EscapesRun c w time after outcome e := by
  cases outcome with
  | error e =>
    rw [conclude_of_check_eq_error rfl]
    -- a fault of an analysis is passed on as it is, which keeps the promise
    by_cases hfailure : e.IsRunFailure
    · exact .inl (.analysisFault hfailure)
    by_cases hanalysis : ∃ cause, e = .analysis cause
    · obtain ⟨cause, rfl⟩ := hanalysis
      exact .inl (.inr ⟨cause, rfl⟩)
    · exact .inr ⟨e, .engine hfailure (not_exists.mp hanalysis)⟩
  | ok o =>
    rcases o.check_cases hwords with hdone | ⟨e, he, hfailure⟩
    · cases hread : after.files.read w.directory w.output with
      | ok bytes => exact conclude_cases_of_read hdone hread
      | error cause =>
        rw [conclude_of_succeeded hdone, readFacts_of_not_read hread]
        split
        · next hcause => exact .inr ⟨_, .file hdone hread hcause⟩
        · exact .inl (.inr ⟨_, rfl⟩)
    · have hcheck : (Except.ok o : Result Engine.Outcome).bind (fun o ↦ o.check words) = .error e :=
        he
      rw [conclude_of_check_eq_error hcheck]
      exact .inl (.analysisFault hfailure)

/-- What is passed on is what the run ends in. -/
theorem EscapesRun.conclude_eq {e : Fault} (h : p.EscapesRun c w time after outcome e) :
    p.conclude w c time words (after, outcome) = .error e := by
  cases h with
  | engine hfailure _ =>
    rw [conclude_of_check_eq_error rfl, analysisFault_of_not_isRunFailure hfailure]
  | file hdone hread hcause =>
    rw [conclude_of_succeeded hdone, readFacts_of_not_read hread, if_pos hcause]
    rfl
  | charset hdone hread htext hlines =>
    rw [conclude_of_succeeded hdone, readFacts_of_read hread, htext]
    exact bind_of_eq_ok (Facts.ofLines_eq_ok_iff.mpr ⟨hlines, rfl⟩)
  | line hdone hread htext hline =>
    rw [conclude_of_succeeded hdone, readFacts_of_read hread, htext]
    simp only
    rw [hline.ofLines_eq]
    rfl
  | facts hdone hread htext hfacts =>
    rw [conclude_of_succeeded hdone, readFacts_of_read hread, htext]
    exact Assembly.buildFrom_eq_error_iff.mpr hfacts

/-- What is passed on is no failure of the analysis. -/
theorem EscapesRun.ne_analysis {e : Fault} (h : p.EscapesRun c w time after outcome e)
    (cause : AnalysisFault) : e ≠ .analysis cause := by
  cases h with
  | engine _ hanalysis => exact hanalysis cause
  | file _ _ _ => rintro ⟨⟩
  | charset _ _ _ _ => rintro ⟨⟩
  | line _ _ _ hline => exact (Facts.ofLines_blames _ _ _ hline.ofLines_eq).ne_analysis cause
  | facts _ _ _ hfacts =>
    exact (Assembly.buildFrom_blames _ _ _ (Assembly.buildFrom_eq_error_iff.mpr hfacts)).ne_analysis
      cause

end

/-! ## The promise -/

section

variable {run : Engine.Runner σ} {w : Workplace} {site : Engine.Site σ} {time : Int} {e : Fault}

theorem Escapes.result_eq (h : p.Escapes run w site c time e) :
    (p.produce run w site c time).2.result = .error e := by
  rw [result_produce]
  cases h with
  | artifact hnul hfind =>
    rw [Repository.resolve_of_nameTooLong hnul hfind]
    rfl
  | scratch hartifact hscratch => rw [bind_of_eq_ok hartifact, Workplace.within, hscratch]
  | template hartifact hscratch hwords =>
    rw [bind_of_eq_ok hartifact, Workplace.within, hscratch, hwords]
    rfl
  | run hartifact hscratch hwords hrun =>
    rw [bind_of_eq_ok hartifact, Workplace.within, hscratch, bind_of_eq_ok hwords]
    exact hrun.conclude_eq

theorem Escapes.ne_analysis (h : p.Escapes run w site c time e) (cause : AnalysisFault) :
    e ≠ .analysis cause := by
  cases h with
  | artifact _ _ => rintro ⟨⟩
  | scratch _ _ => rintro ⟨⟩
  | template _ _ _ => rintro ⟨⟩
  | run _ _ _ hrun => exact hrun.ne_analysis cause

theorem produce_cases (hwords : Engine.splitWords p.command ≠ .ok []) :
    p.Keeps c (p.produce run w site c time).2.result ∨ ∃ e, p.Escapes run w site c time e := by
  rw [result_produce]
  cases hartifact : p.repository.resolve site.files w.directory c with
  | error e =>
    rcases Repository.resolve_failsWith e hartifact with ⟨cause, rfl⟩ | ⟨hnul, hfind, rfl⟩
    · exact .inl (.inr ⟨cause, rfl⟩)
    · exact .inr ⟨_, .artifact hnul hfind⟩
  | ok artifact =>
    rw [bind_of_eq_ok rfl, Workplace.within]
    cases hscratch : w.scratchFault? site.files (p.left run w site artifact) with
    | some fault => exact .inr ⟨_, .scratch hartifact hscratch⟩
    | none =>
      cases hcommand : p.commandFor artifact w.output with
      | error e =>
        obtain ⟨cause, rfl⟩ := p.commandFor_failsWith _ _ e hcommand
        exact .inr ⟨_, .template hartifact hscratch hcommand⟩
      | ok words =>
        simp only
        rw [bind_of_eq_ok rfl]
        rcases conclude_cases (ne_nil_of_commandFor hwords hcommand) with hkeeps | ⟨e, he⟩
        · exact .inl hkeeps
        · exact .inr ⟨e, .run hartifact hscratch hcommand he⟩

/-- **How far a producer keeps its promise**: exactly as long as nothing escapes, and what escapes
is what it ends in, which says nothing of an analysis. -/
theorem keeps_produce_iff (p : EngineProducer) (run : Engine.Runner σ) (w : Workplace)
    (site : Engine.Site σ) (c : Coordinate) (time : Int)
    (hwords : Engine.splitWords p.command ≠ .ok []) :
    (p.Keeps c (p.produce run w site c time).2.result ↔ ∀ e, ¬ p.Escapes run w site c time e) ∧
    ∀ e, p.Escapes run w site c time e →
      (p.produce run w site c time).2.result = .error e ∧ ∀ cause, e ≠ .analysis cause := by
  refine ⟨⟨fun hkeeps e he ↦ ?_, fun hno ↦ ?_⟩, fun e he ↦ ⟨he.result_eq, he.ne_analysis⟩⟩
  · -- what escapes is neither a revision nor a failure of the analysis
    rw [he.result_eq] at hkeeps
    rcases hkeeps with ⟨r, ⟨⟩, -⟩ | ⟨cause, hcause⟩
    cases hcause
    exact he.ne_analysis cause rfl
  · refine (produce_cases hwords).resolve_right ?_
    rintro ⟨e, he⟩
    exact hno e he

end

end

/-! ### An engine that leaves given facts -/

/-- A producer with a command of three words. -/
def sampleProducer : EngineProducer where
  generator := "OPAL"
  command := "engine \x7bartifact\x7d \x7boutput\x7d"
  repository := ⟨Path.ofText "/m2"⟩
  forge := "mvn"
  timeout := .whole 5

/-- A release to ask for. -/
def sampleCoordinate : Coordinate := ⟨"g", "a", "1"⟩

/-- A workplace at the root. -/
def sampleWorkplace : Workplace where
  directory := []
  scratch := Path.ofText "/work"

/-- The repository holds the artifact of a coordinate. -/
def sampleSite (c : Coordinate) : Engine.Site Unit where
  files := FileTree.empty.plant (sampleProducer.repository.artifactPath c).parts (.file [])
    (rightsOf 6 4 4)
  state := ()

/-- Leaves the facts and succeeds. -/
def sampleRun (facts : String) : Engine.Runner Unit := fun site _ ↦
  let left := site.files.plant ["work", factsFileName] (.file (Text.Utf8.encode facts))
    (rightsOf 6 4 4)
  ({ site with files := left }, .ok ⟨0, "", "", .ofInt 0, false⟩)

/-- The facts of a type. -/
def sampleFacts : String :=
  "\x7b\"kind\":\"type\",\"uri\":\"/A\",\"sourceFile\":\"\"\x7d"

theorem keeps_produce_iff_sample : Engine.splitWords sampleProducer.command ≠ .ok [] ∧
    ∀ e, ¬ sampleProducer.Escapes (sampleRun sampleFacts) sampleWorkplace
      (sampleSite sampleCoordinate) sampleCoordinate 0 e := by
  have hwords : Engine.splitWords sampleProducer.command ≠ .ok [] := by decide +kernel
  refine ⟨hwords, (keeps_produce_iff sampleProducer (sampleRun sampleFacts) sampleWorkplace
    (sampleSite sampleCoordinate) sampleCoordinate 0 hwords).1.mp ?_⟩
  have hok : (sampleProducer.produce (sampleRun sampleFacts) sampleWorkplace
      (sampleSite sampleCoordinate) sampleCoordinate 0).2.result.isOk = true := by decide +kernel
  obtain ⟨r, hr⟩ := exists_eq_ok_of_isOk hok
  rcases produce_cases hwords with hkeeps | ⟨e, he⟩
  · exact hkeeps
  · cases he.result_eq.symm.trans hr

/-- **A producer need not keep its promise**: facts that are not JSON are a fault of shape, and no
failure of the analysis. -/
theorem exists_not_keeps : Engine.splitWords sampleProducer.command ≠ .ok [] ∧
    ¬ sampleProducer.Keeps sampleCoordinate
      (sampleProducer.produce (sampleRun "x") sampleWorkplace (sampleSite sampleCoordinate)
        sampleCoordinate 0).2.result := by
  have hresult : (sampleProducer.produce (sampleRun "x") sampleWorkplace
      (sampleSite sampleCoordinate) sampleCoordinate 0).2.result =
        .error (.format (.factNotJson 1 "Expecting value: line 1 column 1 (char 0)")) := by
    decide +kernel
  refine ⟨by decide +kernel, ?_⟩
  rw [hresult]
  rintro (⟨r, ⟨⟩, -⟩ | ⟨cause, ⟨⟩⟩)

end EngineProducer

end RevisionGraph
