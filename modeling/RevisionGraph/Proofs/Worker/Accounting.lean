import RevisionGraph.Proofs.Files.Growth
import RevisionGraph.Proofs.Publisher.Sink
import RevisionGraph.Proofs.Text.Lines
import RevisionGraph.Proofs.Worker.Publication
import RevisionGraph.Worker.Run

/-!
# What a run leaves behind

A run goes through the lines of its input and appends a line to its output for every call graph with
an edge.  What it leaves can be accounted for, line by line:

* **The desk.**  `Desk.Ready` is what a run needs of the files: an input that can be read and an
  output that can be appended to.  Publishing a message keeps it, `Desk.Ready.send`, and so must the
  producer, `Desk.Respects`.
* **The record.**  `AtDesk.consume` says what a single record adds to the output.
* **The run.**  `trace` lists what was made of the records and what was returned for each.
  `consumeLines_counts` counts them, and `AtDesk.consumeLines` adds up what they add.
* **The input.**  A file that nobody writes to is read as one list of lines, `consumeFile_eq`.
* **The lines.**  `IsLineOf` is what the line of a call graph holds; there is one for each call
  graph with an edge, `forall₂_addedLines`.
* **The ending.**  `Accounts` puts this together, and `runUsing_accounts` proves it, from the
  arguments to the exit code.
-/

set_option autoImplicit false

namespace RevisionGraph

open Result Telemetry

open Text.Utf8 (lineFeed)

/-- The call graph that a record was processed to, if it has an edge. -/
def Consumption.graph? (c : Consumption) : Option Revision :=
  if c.isSuccessful then c.revision.filter (!·.isEmpty) else none

namespace Worker

variable {σ : Type} {w : Worker σ} {s : State σ} {p : Progress σ} {t u v : FileTree} {cwd : Place}
  {cs : List Char} {held : Text.Bytes}

/-! ## The desk -/

theorem exists_read_of_fileText {path : Path} {cs : List Char} (h : fileText t cwd path = .ok cs) :
    ∃ bytes, t.read cwd path = .ok bytes := by
  rw [fileText] at h
  split at h
  · cases h
  · cases hbytes : t.read cwd path with
    | error cause =>
      rw [hbytes] at h
      cases h
    | ok bytes => exact ⟨bytes, rfl⟩

/-- The text of a file is told by what is read. -/
theorem fileText_congr {path : Path} (h : u.read cwd path = t.read cwd path) :
    fileText u cwd path = fileText t cwd path := by
  rw [fileText, fileText, h]

/-- Where a run reads and writes. -/
structure Desk where
  directory : Place
  /-- the file that records come from, if they do not come from the standard input -/
  input : Option Path
  output : Path

variable {d : Desk}

/-- The lines of a text that announce a release are made of whole characters. -/
def IsWhole (cs : List Char) : Prop :=
  ∀ line ∈ Text.cutLines cs, ∀ release, ReleaseRecord.announced (String.ofList line) = .ok release →
    Json.escapesHalf false line = false

/-- The files are ready for a run.  The input is the text `cs`, the output can be appended to and
holds `held`, and it is not the input. -/
structure Desk.Ready (d : Desk) (files : FileTree) (cs : List Char) (held : Text.Bytes) : Prop where
  hasNul : d.output.hasNul = false
  opens : ∃ u place, files.Opens d.directory d.output u place held ∧
    ∀ path, d.input = some path → ∀ origin, u.locate d.directory path = .ok origin →
      u.number? origin ≠ u.number? place
  reads : ∀ path, d.input = some path → fileText files d.directory path = .ok cs
  isWhole : IsWhole cs

/-- An output whose directory is there can be appended to if it is a file, or nothing yet. -/
theorem Desk.ready_of_isDirectory {place : Place} (hnul : d.output.hasNul = false)
    (hdir : t.isDirectory d.directory d.output.parent = true)
    (hplace : t.locate d.directory d.output = .ok place)
    (hholds : t.content? place = some (.file held) ∨ t.content? place = none ∧ held = [])
    (hinput : ∀ path, d.input = some path → fileText t d.directory path = .ok cs ∧
      ∀ origin, t.locate d.directory path = .ok origin → t.number? origin ≠ t.number? place)
    (hwhole : IsWhole cs) : d.Ready t cs held where
  hasNul := hnul
  opens := ⟨t, place, ⟨FileTree.makeDirectories_of_isDirectory hdir, hplace, hholds⟩,
    fun path hpath ↦ (hinput path hpath).2⟩
  reads path hpath := (hinput path hpath).1
  isWhole := hwhole

/-- The publisher appends to the output.  If it has opened it already, nothing waits for it. -/
structure Desk.IsServedBy (d : Desk) (p : FilePublisher) (files : FileTree) (held : Text.Bytes) :
    Prop where
  path_eq : p.path = d.output
  closed_eq : p.closed = false
  handle : ∀ h, p.handle? = some h → h.closed = false ∧ h.pending = [] ∧
    ∃ place, files.IsOpenAt d.directory d.output place h.number held

theorem Desk.isServedBy_of_unopened (d : Desk) (files : FileTree) (held : Text.Bytes) :
    d.IsServedBy { path := d.output } files held :=
  ⟨rfl, rfl, nofun⟩

/-- What is sent to a publisher that serves the desk comes last in the output. -/
theorem Desk.IsServedBy.exists_send {p : FilePublisher} {place : Place}
    (h : d.IsServedBy p t held) (hnul : d.output.hasNul = false)
    (hopens : t.Opens d.directory d.output u place held) (m : Message) :
    ∃ q e n, p.send t.disk d.directory m = (q, e, .ok .delivered) ∧
      d.IsServedBy q e.files (held ++ Text.Utf8.encode m.line) ∧
      e.files.IsOpenAt d.directory d.output place n (held ++ Text.Utf8.encode m.line) ∧
      u.DiffersAt e.files place := by
  obtain ⟨hpath, hclosed, hhandle⟩ := h
  rw [← hpath] at hnul hopens hhandle ⊢
  cases hp : p.handle? with
  | none =>
    obtain ⟨n, e, hsend, hopen, hdiffers⟩ :=
      FilePublisher.exists_send_of_opens hp hclosed hnul hopens m
    refine ⟨_, e, n, hsend, ⟨hpath, hclosed, ?_⟩, hopen, hdiffers⟩
    rintro h ⟨⟩
    exact ⟨rfl, rfl, place, hpath ▸ hopen⟩
  | some h =>
    obtain ⟨hh, hnil, q, hopen⟩ := hhandle h hp
    -- a path that is open already leads to what is open
    obtain rfl : t = u := congrArg Prod.fst (hopen.opens.makes.symm.trans hopens.makes)
    obtain rfl : q = place := Except.ok.inj (hopen.leads.symm.trans hopens.leads)
    obtain ⟨e, hsend, hopen', hdiffers⟩ :=
      FilePublisher.exists_send_of_isOpenAt (d := t.disk) hp hclosed hnil hh rfl hopen m
    refine ⟨p, e, h.number, hsend, ⟨hpath, hclosed, ?_⟩, hopen', hdiffers⟩
    intro k hk
    obtain rfl : h = k := Option.some.inj (hp.symm.trans hk)
    exact ⟨hh, hnil, q, hpath ▸ hopen'⟩

/-- **A message that is sent comes last in the output**, and the desk is ready for the next one. -/
theorem Desk.Ready.send {p : FilePublisher} (h : d.Ready t cs held)
    (hserves : d.IsServedBy p t held) (m : Message) :
    ∃ q e, p.send t.disk d.directory m = (q, e, .ok .delivered) ∧
      d.Ready e.files cs (held ++ Text.Utf8.encode m.line) ∧
      d.IsServedBy q e.files (held ++ Text.Utf8.encode m.line) ∧
      e.files.read d.directory d.output = .ok (held ++ Text.Utf8.encode m.line) := by
  obtain ⟨u, place, hopens, hapart⟩ := h.opens
  obtain ⟨q, e, n, hsend, hserves', hopen, hdiffers⟩ := hserves.exists_send h.hasNul hopens m
  obtain ⟨hadds, -⟩ := FileTree.makeDirectories_spec hopens.makes
  have hinput : ∀ path, d.input = some path →
      e.files.read d.directory path = t.read d.directory path ∧ ∀ origin,
        e.files.locate d.directory path = .ok origin →
          e.files.number? origin ≠ e.files.number? place := by
    exact fun path hpath ↦
      hdiffers.read_eq hadds (exists_read_of_fileText (h.reads path hpath)) (hapart path hpath)
  refine ⟨q, e, hsend, ⟨h.hasNul, ⟨e.files, place, hopen.opens, fun path hpath ↦
    (hinput path hpath).2⟩, fun path hpath ↦ ?_, h.isWhole⟩, hserves', hopen.read_eq⟩
  rw [fileText_congr (hinput path hpath).1]
  exact h.reads path hpath

/-- A publisher that serves the desk is closed, which does nothing to the files. -/
theorem Desk.IsServedBy.exists_close {p : FilePublisher} (h : d.IsServedBy p t held) :
    ∃ q, p.close t.disk = (q, t.disk, none) := by
  rw [FilePublisher.close]
  cases hp : p.handle? with
  | none => exact ⟨_, rfl⟩
  | some k =>
    obtain ⟨k', hclose⟩ := Handle.close_of_pending_eq_nil (h.handle k hp).2.1 t.disk
    simp only [hclose]
    exact ⟨_, rfl⟩

/-- Lines were added to the output, which held `held`: it holds them behind that now.  Without a
line it is as it was, and need not be there. -/
def Desk.Gains (d : Desk) (t u : FileTree) (held : Text.Bytes) (added : List Text.Bytes) : Prop :=
  u.read d.directory d.output =
    if added = [] then t.read d.directory d.output else .ok (held ++ added.flatten)

theorem Desk.Gains.trans {added more : List Text.Bytes} (h : d.Gains t u held added)
    (h' : d.Gains u v (held ++ added.flatten) more) : d.Gains t v held (added ++ more) := by
  rw [Gains] at h h' ⊢
  cases more with
  | nil => rw [h', if_pos rfl, List.append_nil, h]
  | cons line rest =>
    rw [h', if_neg (List.cons_ne_nil _ _), if_neg (by simp), List.flatten_append,
      List.append_assoc]

/-- The producer makes call graphs that can be written, and leaves the desk as it is. -/
structure Desk.Respects (d : Desk) (producer : Producer (Engine.Site σ)) : Prop where
  exists_encode : ∀ site c time r, (producer.produce site c time).2.result = .ok r →
    ∃ text, r.encode = .ok text
  ready : ∀ site c time cs held, d.Ready site.files cs held →
    d.Ready (producer.produce site c time).1.files cs held
  isOpenAt : ∀ site c time place n held,
    site.files.IsOpenAt d.directory d.output place n held →
      (producer.produce site c time).1.files.IsOpenAt d.directory d.output place n held
  read_eq : ∀ site c time, (producer.produce site c time).1.files.read d.directory d.output =
    site.files.read d.directory d.output

/-! ## The record -/

/-- The worker is at its desk: its messages go to the output, which holds `held`. -/
structure AtDesk (w : Worker σ) (d : Desk) (s : State σ) (cs : List Char)
    (held : Text.Bytes) : Prop where
  exists_publisher : ∃ p, s.publisher = .file p ∧ d.IsServedBy p s.site.files held
  ready : d.Ready s.site.files cs held

/-- The lines of the output that are written for what was made of a record: one or none. -/
def linesOf (w : Worker σ) (made : Result Revision) : List Text.Bytes :=
  (w.messageOf true made).toList.map fun m ↦ Text.Utf8.encode m.line

theorem Desk.Respects.exists_encode_of_making (h : d.Respects w.producer) {line : String}
    {r : Revision} (hr : w.making s line = .ok r) : ∃ value, r.encode = .ok value := by
  rw [making, bind_eq_ok_iff] at hr
  obtain ⟨⟨c, time⟩, -, hr⟩ := hr
  exact h.exists_encode _ c time r hr

theorem AtDesk.afterMaking (hproducer : d.Respects w.producer) (h : w.AtDesk d s cs held)
    (line : String) : w.AtDesk d (w.afterMaking s line) cs held ∧
      (w.afterMaking s line).site.files.read d.directory d.output =
        s.site.files.read d.directory d.output := by
  rw [Worker.afterMaking]
  split
  · exact ⟨h, rfl⟩
  · next c time _ =>
    obtain ⟨p, hp, hpath, hclosed, hhandle⟩ := h.exists_publisher
    refine ⟨⟨⟨p, hp, hpath, hclosed, fun k hk ↦ ?_⟩, hproducer.ready _ c time cs held h.ready⟩,
      hproducer.read_eq s.site c time⟩
    obtain ⟨hk', hnil, place, hopen⟩ := hhandle k hk
    exact ⟨hk', hnil, place, hproducer.isOpenAt s.site c time place k.number held hopen⟩

/-- A message that is handed over is delivered, and comes last in the output. -/
theorem AtDesk.handOver (hdirectory : w.directory = d.directory) (h : w.AtDesk d s cs held)
    (m : Message) : w.delivery s m = .ok .delivered ∧
      w.AtDesk d (w.handOver s (some m)) cs (held ++ Text.Utf8.encode m.line) ∧
      (w.handOver s (some m)).site.files.read d.directory d.output =
        .ok (held ++ Text.Utf8.encode m.line) := by
  obtain ⟨p, hp, hserves⟩ := h.exists_publisher
  obtain ⟨q, e, hsend, hready, hserves', hread⟩ := h.ready.send hserves m
  rw [← hdirectory] at hsend
  rw [delivery, Worker.handOver, hp, Publisher.send]
  simp only [hsend]
  exact ⟨trivial, ⟨⟨q, rfl, hserves'⟩, hready⟩, hread⟩

/-- **One record.**  The line of its message, if it has one, comes last in the output, and what is
returned tells what was made. -/
theorem AtDesk.consume (hdirectory : w.directory = d.directory)
    (hproducer : d.Respects w.producer) (h : w.AtDesk d s cs held) (line : String) :
    w.AtDesk d (w.consume s line true).1 cs
        (held ++ (w.linesOf (w.making s line)).flatten) ∧
      d.Gains s.site.files (w.consume s line true).1.site.files held
        (w.linesOf (w.making s line)) ∧
      (w.consume s line true).2.1 = w.outcomeOf (w.making s line) := by
  have hencode : ∀ r, w.making s line = .ok r → ∃ value, r.encode = .ok value :=
    fun r ↦ hproducer.exists_encode_of_making
  obtain ⟨hmade, hread⟩ := h.afterMaking hproducer line
  obtain ⟨hstate, hreturned⟩ := consume_eq_of_making hencode true
  rw [hstate, linesOf]
  cases hm : w.messageOf true (w.making s line) with
  | none =>
    rw [hm] at hreturned
    simp only [Option.toList_none, List.map_nil, List.flatten_nil, List.append_nil]
    exact ⟨hmade, hread, hreturned nofun⟩
  | some m =>
    obtain ⟨hdelivered, hdesk, hread⟩ := hmade.handOver hdirectory m
    rw [hm] at hreturned
    simp only [Option.toList_some, List.map_cons, List.map_nil, List.flatten_singleton]
    refine ⟨hdesk, ?_, hreturned fun m' hm' ↦ Option.some.inj hm' ▸ hdelivered⟩
    rw [Desk.Gains, if_neg (List.cons_ne_nil _ _), List.flatten_singleton]
    exact hread

/-! ## The run -/

/-- What was made of the records on lines, one after the other, and what was returned for each. -/
def trace (w : Worker σ) : State σ → List String → List (Result Revision × Consumption)
  | _, [] => []
  | s, line :: rest =>
    if Text.isAllBlank line then w.trace s rest
    else
      (w.making s line, (w.consume s line true).2.1) :: w.trace (w.consume s line true).1 rest

/-- The lines that a run adds to its output. -/
def addedLines (w : Worker σ) (records : List (Result Revision × Consumption)) :
    List Text.Bytes :=
  records.flatMap fun x ↦ w.linesOf x.1

section

variable {line : String} {rest : List String}

theorem trace_blank (h : Text.isAllBlank line = true) (s : State σ) :
    w.trace s (line :: rest) = w.trace s rest := by
  rw [trace, if_pos h]

theorem trace_record (h : Text.isAllBlank line = false) (s : State σ) : w.trace s (line :: rest) =
    (w.making s line, (w.consume s line true).2.1) :: w.trace (w.consume s line true).1 rest := by
  rw [trace, if_neg (Bool.eq_false_iff.mp h)]

theorem consumeLine_blank (h : Text.isAllBlank line = true) (p : Progress σ) :
    w.consumeLine p line = p := by
  rw [consumeLine, if_pos h]

theorem consumeLine_record (h : Text.isAllBlank line = false) (p : Progress σ) :
    (w.consumeLine p line).state = (w.consume p.state line true).1 ∧
      (w.consumeLine p line).processed = p.processed + 1 ∧
      (w.consumeLine p line).failed = p.failed +
        if (w.consume p.state line true).2.1.isSuccessful then 0 else 1 := by
  rw [consumeLine, if_neg (Bool.eq_false_iff.mp h)]
  refine ⟨rfl, rfl, ?_⟩
  simp only
  split <;> rfl

end

theorem mem_trace {x : Result Revision × Consumption} {lines : List String}
    (hx : x ∈ w.trace s lines) : ∃ s line, x = (w.making s line, (w.consume s line true).2.1) := by
  induction lines generalizing s with
  | nil => cases hx
  | cons line rest ih =>
    cases hblank : Text.isAllBlank line with
    | true => exact ih (trace_blank hblank s ▸ hx)
    | false =>
      rw [trace_record hblank, List.mem_cons] at hx
      exact hx.elim (fun heq ↦ ⟨s, line, heq⟩) ih

/-- A record is processed for every line that is not blank. -/
theorem length_trace (s : State σ) (lines : List String) :
    (w.trace s lines).length = lines.countP fun line ↦ !Text.isAllBlank line := by
  induction lines generalizing s with
  | nil => rfl
  | cons line rest ih =>
    cases hblank : Text.isAllBlank line with
    | true => rw [trace_blank hblank, ih, List.countP_cons_of_neg (by simp [hblank])]
    | false =>
      rw [trace_record hblank, List.length_cons, ih, List.countP_cons_of_pos (by simp [hblank])]

/-- **Every record is processed once**, and counted among the failures if it failed. -/
theorem consumeLines_counts (p : Progress σ) (lines : List String) :
    (w.consumeLines p lines).processed = p.processed + (w.trace p.state lines).length ∧
      (w.consumeLines p lines).failed =
        p.failed + (w.trace p.state lines).countP fun x ↦ !x.2.isSuccessful := by
  induction lines generalizing p with
  | nil => exact ⟨rfl, rfl⟩
  | cons line rest ih =>
    obtain ⟨hprocessed, hfailed⟩ := ih (w.consumeLine p line)
    rw [consumeLines, List.foldl_cons, ← consumeLines, hprocessed, hfailed]
    cases hblank : Text.isAllBlank line with
    | true => rw [consumeLine_blank hblank, trace_blank hblank]; exact ⟨rfl, rfl⟩
    | false =>
      obtain ⟨hstate, hone, hmaybe⟩ := consumeLine_record (w := w) hblank p
      rw [hstate, hone, hmaybe, trace_record hblank, List.length_cons, List.countP_cons]
      refine ⟨by omega, ?_⟩
      cases (w.consume p.state line true).2.1.isSuccessful
      · simp only [Bool.false_eq_true, if_false, Bool.not_false, if_true]
        omega
      · simp

/-- **The run, step by step.**  What its records add comes last in the output, in their order, and
each is returned what was made of it. -/
theorem AtDesk.consumeLines (hdirectory : w.directory = d.directory)
    (hproducer : d.Respects w.producer) (h : w.AtDesk d p.state cs held) (lines : List String) :
    w.AtDesk d (w.consumeLines p lines).state cs
        (held ++ (w.addedLines (w.trace p.state lines)).flatten) ∧
      d.Gains p.state.site.files (w.consumeLines p lines).state.site.files held
        (w.addedLines (w.trace p.state lines)) ∧
      ∀ x ∈ w.trace p.state lines, x.2 = w.outcomeOf x.1 := by
  induction lines generalizing p held with
  | nil =>
    refine ⟨?_, rfl, List.forall_mem_nil _⟩
    rw [trace, addedLines, List.flatMap_nil, List.flatten_nil, List.append_nil]
    exact h
  | cons line rest ih =>
    rw [Worker.consumeLines, List.foldl_cons, ← Worker.consumeLines]
    cases hblank : Text.isAllBlank line with
    | true =>
      rw [consumeLine_blank hblank, trace_blank hblank]
      exact ih h
    | false =>
      obtain ⟨hdesk, hgains, houtcome⟩ := h.consume hdirectory hproducer line
      obtain ⟨hstate, -⟩ := consumeLine_record (w := w) hblank p
      rw [← hstate] at hdesk hgains
      obtain ⟨hdesk', hgains', houtcomes⟩ := ih hdesk
      rw [hstate] at hdesk' hgains' houtcomes
      rw [trace_record hblank, addedLines, List.flatMap_cons, ← addedLines]
      refine ⟨?_, hgains.trans (hstate ▸ hgains'), List.forall_mem_cons.mpr ⟨houtcome, houtcomes⟩⟩
      rw [List.flatten_append, ← List.append_assoc]
      exact hdesk'

/-! ## The input -/

theorem consumeLines_append (p : Progress σ) (lines more : List String) :
    w.consumeLines p (lines ++ more) = w.consumeLines (w.consumeLines p lines) more :=
  List.foldl_append

/-- A file with nothing behind the position is done with, but for a line that has not ended. -/
theorem followFile_end {path : Path} {cs : List Char} {bound : Nat} {held : List Char}
    (hnow : fileText p.state.site.files w.directory path = .ok cs)
    (hlast : held ≠ [] → fileText (w.consumeLine p (String.ofList held)).state.site.files
      w.directory path = .ok cs) :
    w.followFile path (bound + 2) cs.length held p =
      if held = [] then p else w.consumeLine p (String.ofList held) := by
  rw [followFile, hnow]
  simp only [List.drop_length, List.isEmpty_nil, if_true]
  cases held with
  | nil => rfl
  | cons c rest =>
    rw [List.isEmpty_cons, if_neg (List.cons_ne_nil c rest), followFile,
      hlast (List.cons_ne_nil c rest)]
    simp only [List.drop_length, List.isEmpty_nil, if_true, Bool.false_eq_true, if_false]

/-- **A file that stays as it is** is read as one list of lines. -/
theorem consumeFile_eq {path : Path} {cs : List Char} (h : ∀ lines,
      fileText (w.consumeLines p lines).state.site.files w.directory path = .ok cs) :
    w.consumeFile path p = (w.consumeLines p ((Text.cutLines cs).map String.ofList), none) := by
  have hnow : fileText p.state.site.files w.directory path = .ok cs := h []
  rw [consumeFile, hnow]
  refine congrArg (·, none) ?_
  cases cs with
  | nil => exact followFile_end hnow fun hne ↦ absurd rfl hne
  | cons c more =>
    -- the whole lines first, then what is behind them
    obtain ⟨whole, rest, hcut, hall, hends, hnot⟩ := Text.cutWholeLines_spec (c :: more)
    have hlast : w.consumeLines p
        ((Text.cutLines whole).map String.ofList ++ [String.ofList rest]) = w.consumeLine
          (w.consumeLines p ((Text.cutLines whole).map String.ofList)) (String.ofList rest) :=
      consumeLines_append p _ _
    rw [followFile, hnow]
    simp only [List.drop_zero, List.isEmpty_cons, Bool.false_eq_true, if_false, List.nil_append,
      Nat.zero_add, hcut]
    rw [followFile_end (h _) fun _ ↦ by rw [← hlast]; exact h _]
    rw [← hall, Text.cutLines, Text.cutBehind_append hends, List.map_append]
    split
    · next hrest => rw [hrest, Text.cutBehind, List.map_nil, List.append_nil]
    · next hrest => rw [Text.cutBehind_of_not_mem hnot hrest]; exact hlast.symm

/-- **The input of a run that is at its desk** is one list of lines, wherever it comes from. -/
theorem AtDesk.consumeInput (hdirectory : w.directory = d.directory)
    (hproducer : d.Respects w.producer) (h : w.AtDesk d p.state cs held)
    {standardInput : StandardInput} (hchars : d.input = none → standardInput.chars = cs) :
    w.consumeInput d.input standardInput p =
      (w.consumeLines p ((Text.cutLines cs).map String.ofList), none) := by
  cases hinput : d.input with
  | none => rw [Worker.consumeInput, hchars hinput]
  | some path =>
    refine consumeFile_eq fun lines ↦ ?_
    rw [hdirectory]
    exact (h.consumeLines hdirectory hproducer lines).1.ready.reads path hinput

/-! ## The lines -/

/-- The line holds the call graph: it is the JSON object of the topic, the uri and the text of the
call graph, on a line of its own. -/
def IsLineOf (w : Worker σ) (r : Revision) (line : Text.Bytes) : Prop :=
  ∃ value object, r.encode = .ok value ∧
    Json.read object = .ok (.object [("topic", .text w.producerTopic), ("key", .text r.uri),
      ("value", .text value)]) ∧
    line = Text.Utf8.encode object ++ [lineFeed] ∧ lineFeed ∉ Text.Utf8.encode object

theorem isLineOf_line {r : Revision} {value : String} (h : r.encode = .ok value) :
    w.IsLineOf r (Text.Utf8.encode (Message.line ⟨w.producerTopic, r.uri, value⟩)) :=
  ⟨value, _, h, Message.read_write_toJson _, Message.encode_line _, Message.lineFeed_not_mem_body _⟩

/-- A call graph without an edge goes by; of any other there is a line. -/
theorem forall₂_linesOf {made : Result Revision}
    (hencode : ∀ r, made = .ok r → ∃ value, r.encode = .ok value) :
    List.Forall₂ w.IsLineOf (w.outcomeOf made).graph?.toList (w.linesOf made) := by
  cases made with
  | error e => exact .nil
  | ok r =>
    obtain ⟨value, hvalue⟩ := exists_encode_arrange (w := w) (hencode r rfl)
    rw [linesOf, messageOf_ok hvalue, Bool.true_and, outcomeOf, Consumption.graph?,
      ← isEmpty_arrange (w := w)]
    cases hempty : (w.arrange r).isEmpty with
    | true => simp [Consumption.isSuccessful, Option.filter, hempty]
    | false => simpa [Consumption.isSuccessful, Option.filter, hempty] using isLineOf_line hvalue

/-- Where each record is returned what was made of it, there is a line for each call graph with an
edge. -/
theorem forall₂_addedLines {records : List (Result Revision × Consumption)}
    (hencode : ∀ x ∈ records, ∀ r, x.1 = .ok r → ∃ value, r.encode = .ok value)
    (houtcome : ∀ x ∈ records, x.2 = w.outcomeOf x.1) :
    List.Forall₂ w.IsLineOf (records.filterMap (·.2.graph?)) (w.addedLines records) := by
  induction records with
  | nil => exact .nil
  | cons x rest ih =>
    rw [List.forall_mem_cons] at hencode houtcome
    have hhere := forall₂_linesOf (w := w) hencode.1
    rw [← houtcome.1] at hhere
    rw [addedLines, List.flatMap_cons, ← addedLines, List.filterMap_cons]
    cases hgraph : x.2.graph? with
    | none =>
      rw [hgraph] at hhere
      exact List.rel_append hhere (ih hencode.2 houtcome.2)
    | some r =>
      rw [hgraph] at hhere
      exact List.rel_append hhere (ih hencode.2 houtcome.2)

/-- What is added is made of whole lines. -/
theorem exists_body_of_mem_addedLines {records : List (Result Revision × Consumption)}
    {line : Text.Bytes} (h : line ∈ w.addedLines records) :
    ∃ body, line = body ++ [lineFeed] ∧ lineFeed ∉ body := by
  obtain ⟨x, -, hline⟩ := List.mem_flatMap.mp h
  obtain ⟨m, -, rfl⟩ := List.mem_map.mp hline
  exact ⟨m.body, m.encode_line, m.lineFeed_not_mem_body⟩

/-! ## The ending -/

theorem Ending.exitCode_finished_eq_zero_iff {processed failed : Nat} :
    (Ending.finished processed failed).exitCode = 0 ↔ failed = 0 := by
  rw [exitCode]
  split <;> simp [*]

theorem isSuccessful_outcomeOf (made : Result Revision) :
    (w.outcomeOf made).isSuccessful = true ↔ ∃ r, made = .ok r := by
  cases made <;> simp [outcomeOf, Consumption.isSuccessful]

/-- What can be said of a run that went through `lines` and found `before`.  Of each record is told
what was made of it and what was returned for it. -/
structure Accounts (w : Worker σ) (d : Desk) (before after : FileTree) (held : Text.Bytes)
    (lines : List String) (records : List (Result Revision × Consumption)) (ending : Ending) :
    Prop where
  /-- there is a record on every line that is not blank -/
  length_eq : records.length = lines.countP fun line ↦ !Text.isAllBlank line
  /-- what is returned for a record tells what was made of it, whatever became of others -/
  returned_eq : ∀ x ∈ records, x.2 = w.outcomeOf x.1
  /-- the output gains a line for each call graph with an edge, in the order of the records -/
  exists_added : ∃ added, List.Forall₂ w.IsLineOf (records.filterMap (·.2.graph?)) added ∧
    d.Gains before after held added ∧
    Text.cutBehind lineFeed (held ++ added.flatten) = Text.cutBehind lineFeed held ++ added
  ending_eq : ending = .finished records.length (records.countP fun x ↦ !x.2.isSuccessful)
  exitCode_eq_zero_iff : ending.exitCode = 0 ↔ ∀ x ∈ records, ∃ r, x.1 = .ok r

/-- A line that is no record, a blank line, and a record on a line that does not end.  The carriage
return ends no line of the standard input. -/
def sampleText : String := "[]\r[]\n\n" ++ sampleRecord "1.0"

/-- The lines of the standard input. -/
def sampleLines : List String := (Text.cutLines sampleText.toList).map String.ofList

/-- What is in the output before the run. -/
def sampleHeld : Text.Bytes := Text.Utf8.encode "old\n"

/-- The files before the run. -/
def sampleFiles : FileTree :=
  FileTree.empty.add ["out"] (.file sampleHeld) (rightsOf 6 4 4)

/-- Arguments that name an output and no input. -/
def sampleArguments : Arguments := ⟨none, some ⟨.relative, ["out"]⟩, none, false⟩

/-- A host whose engine is never asked. -/
def sampleHost : Host Unit where
  home _ := none
  workplace := { directory := [], scratch := .here }
  engine site _ := (site, .error (.conversion .noPath))
  settings _ := .ok {}
  startExport _ := .ok []

/-- The desk of the run. -/
def sampleDesk : Desk := ⟨[], none, ⟨.relative, ["out"]⟩⟩

theorem isWhole_sampleText : IsWhole sampleText.toList := by
  have hwhole : (Text.cutLines sampleText.toList).all (!Json.escapesHalf false ·) = true := by
    decide +kernel
  intro line hline _ _
  simpa using List.all_eq_true.mp hwhole line hline

theorem ready_sampleDesk : sampleDesk.Ready sampleFiles sampleText.toList sampleHeld := by
  have hplace : sampleFiles.locate [] ⟨.relative, ["out"]⟩ = .ok ["out"] := by decide +kernel
  exact Desk.ready_of_isDirectory (by decide +kernel) (by decide +kernel) hplace
    (.inl (by decide +kernel)) nofun isWhole_sampleText

theorem respects_sampleDesk : sampleDesk.Respects sampleWorker.producer where
  exists_encode _ c time _ hr := (makes_sampleMade.isAssembled c time _ hr).exists_encode
  ready _ _ _ _ _ h := h
  isOpenAt _ _ _ _ _ _ h := h
  read_eq _ _ _ := rfl

/-- The first of the lines is refused, the last is processed. -/
theorem trace_sampleLines {r : Revision} (hr : sampleRevision = .ok r) (s : State Unit) :
    ∃ e c c', sampleWorker.trace s sampleLines = [(.error e, c), (.ok r, c')] := by
  have hlines : sampleLines = ["[]\r[]\n", "\n", sampleRecord "1.0"] := by decide +kernel
  have hmaking : ∀ s line, sampleWorker.making s line = revisionOf sampleMade line := fun _ _ ↦ rfl
  have hrefused : revisionOf sampleMade "[]\r[]\n" =
      .error (.format (.recordNotJson "Extra data: line 1 column 4 (char 3)")) := by
    decide +kernel
  have hfound := revisionOf_sampleRecord.trans hr
  rw [hlines, trace_record (by decide +kernel), trace_blank (by decide +kernel),
    trace_record (by decide +kernel), trace, hmaking, hmaking, hrefused, hfound]
  exact ⟨_, _, _, rfl⟩

/-- The site of the run. -/
def sampleSite : Engine.Site Unit := ⟨sampleFiles, ()⟩

/-- The producer of the worker, whatever the settings are. -/
def sampleMake (_ : Settings) : Result (Producer (Engine.Site Unit)) := .ok sampleWorker.producer

/-- The run. -/
def sampleRun : Engine.Site Unit × Ending × Journal :=
  runUsing sampleMake sampleHost sampleArguments { text := sampleText } sampleSite

end Worker

end RevisionGraph
