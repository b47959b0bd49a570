import Mathlib.Data.List.Forall2
import RevisionGraph.Proofs.Files.Writing
import RevisionGraph.Proofs.Publisher.Handle
import RevisionGraph.Proofs.Publisher.Message
import RevisionGraph.Proofs.Text.Lines
import RevisionGraph.Proofs.Text.Utf8
import RevisionGraph.Publisher.Basic

/-!
# Messages are read back from their file

A file that only publishers write to holds one line for every message, and the message can be read
back from it.  Three things could stand in the way: bytes that are read as another text, characters
of a message that end a line, and publishers that write over what others wrote.

* **Lines.**  `Message.IsLine` is what the line of a message holds.  By `lines_flatMap_line` a text
  of such lines falls into just these, although the reader takes a carriage return for a line end.
* **Sending.**  `openFile_cases`: the file is opened or left as it is.  By `exists_send_of_opens`
  and `exists_send_of_isOpenAt` a message is written if nothing is in the way.
* **One message.**  `FileTree.IsHolding` says what a publisher finds when it opens the file, and
  `Serves` what it adds to; `Serves.send` says that it adds to that.
* **Whole runs.**  `run` goes through the uses of a file by one publisher after the other.  By
  `run_appends` the file grows by the lines of the messages, and `run_readable` reads them back.
-/

set_option autoImplicit false

namespace RevisionGraph

open Text.Utf8 (encode)

/-! ## Lines -/

namespace Message

/-- The line is that of the message: an object of its topic, key and value, and a line end. -/
def IsLine (m : Message) (line : String) : Prop :=
  ∃ body, line = body ++ "\n" ∧ '\n' ∉ body.toList ∧
    Json.read body = .ok (.object [("topic", .text m.topic), ("key", .text m.key),
      ("value", .text m.value)])

theorem isLine_line (m : Message) : m.IsLine m.line :=
  ⟨_, rfl, m.not_mem_write_toJson (by decide), m.read_write_toJson⟩

theorem toList_line (m : Message) : m.line.toList = (m.toJson.write .spaced).toList ++ ['\n'] := by
  rw [line, String.toList_append]
  rfl

/-- **The lines of a text of messages** are those of the messages. -/
theorem lines_flatMap_line (messages : List Message) :
    Text.lines (String.ofList (messages.flatMap (·.line.toList))) = messages.map line := by
  have hreturn : '\r' ∉ messages.flatMap (·.line.toList) := by
    rw [List.mem_flatMap]
    rintro ⟨m, -, hm⟩
    rw [toList_line, List.mem_append, List.mem_singleton] at hm
    exact hm.elim (m.not_mem_write_toJson (by decide)) (by decide)
  rw [Text.lines, String.toList_ofList, Text.normaliseChars_of_not_mem hreturn, Text.cutLines,
    List.flatMap_def, Text.cutBehind_flatten, List.map_map]
  · exact List.map_congr_left fun m _ ↦ String.ofList_toList
  · intro line hline
    obtain ⟨m, -, rfl⟩ := List.mem_map.mp hline
    exact ⟨_, m.toList_line, m.not_mem_write_toJson (by decide)⟩

end Message

/-! ## Files -/

/-- Whoever opens the file to append to it finds `held` there, and a file that is not there holds
nothing.  The directories that lead to it are made first, which may be what takes the path to a
file. -/
def FileTree.IsHolding (t : FileTree) (cwd : Place) (p : Path) (held : Text.Bytes) : Prop :=
  ∀ u place, t.makeDirectories cwd p.parent = (u, none) → u.locate cwd p = .ok place →
    u.content? place = some (.file held) ∨ u.content? place = none ∧ held = []

theorem FileTree.IsOpenAt.isHolding {t : FileTree} {cwd place : Place} {p : Path} {n : Nat}
    {held : Text.Bytes} (h : t.IsOpenAt cwd p place n held) : t.IsHolding cwd p held := by
  intro u q hmakes hq
  -- nothing is left to be made, so the file is at the same place
  obtain rfl : t = u := congrArg Prod.fst (h.opens.makes.symm.trans hmakes)
  obtain rfl : place = q := Except.ok.inj (h.leads.symm.trans hq)
  exact .inl h.holds

namespace FilePublisher

variable {p q : FilePublisher} {t u : FileTree} {d : Disk} {cwd place : Place}
  {held : Text.Bytes} {h : Handle} {m : Message}

/-! ## Sending -/

theorem hasNul_parent {path : Path} (h : path.hasNul = false) : path.parent.hasNul = false := by
  rw [Path.hasNul, List.any_eq_false] at h ⊢
  exact fun part hpart ↦ h part (List.dropLast_subset _ hpart)

/-- The file is opened once its directories are there, or no file holds other bytes than before. -/
theorem openFile_cases (p : FilePublisher) (t : FileTree) (cwd : Place) :
    (∃ e, (p.openFile t cwd).2 = .error e ∧ t.Keeps (p.openFile t cwd).1 ∧
      (p.path.hasNul = false → e.isFromSystem = true)) ∨
    p.path.hasNul = false ∧ ∃ u v n, t.makeDirectories cwd p.path.parent = (u, none) ∧
      u.openToAppend cwd p.path = .ok (v, n) ∧
      p.openFile t cwd = (v, .ok { number := n, room := p.room }) := by
  have hkeeps := t.keeps_makeDirectories cwd p.path.parent
  rw [openFile]
  split
  · next hnul =>
    refine .inl ⟨_, rfl, .refl t, fun hpath ↦ ?_⟩
    rw [hasNul_parent hpath] at hnul
    cases hnul
  cases hmakes : t.makeDirectories cwd p.path.parent with
  | mk u fault? =>
    rw [hmakes] at hkeeps
    cases fault? with
    | some fault => exact .inl ⟨_, rfl, hkeeps, fun _ ↦ rfl⟩
    | none =>
      simp only
      split
      · next hnul => exact .inl ⟨_, rfl, hkeeps, fun hpath ↦ absurd (hnul ▸ hpath) nofun⟩
      · next hpath =>
        cases hopen : u.openToAppend cwd p.path with
        | error cause => exact .inl ⟨_, rfl, hkeeps, fun _ ↦ rfl⟩
        | ok made => exact .inr ⟨Bool.eq_false_iff.mpr hpath, u, made.1, made.2, rfl, hopen, rfl⟩

theorem append_of_handle (hp : p.handle? = some h) (hh : h.closed = false) (d : Disk) (cwd : Place)
    (m : Message) : p.append d cwd m =
      ({ p with handle? := some (h.write d (encode m.line)).1 }, (h.write d (encode m.line)).2.1,
        (h.write d (encode m.line)).2.2.map .writing) := by
  rw [append, reach, hp]
  simp only [hh, Bool.false_eq_true, if_false]

/-- Once the file is open, a message is appended as if it had been. -/
theorem append_of_reach {d' : Disk} (hreach : p.reach d cwd = (d', .ok h)) (hh : h.closed = false)
    (m : Message) : p.append d cwd m = { p with handle? := some h }.append d' cwd m := by
  rw [append, hreach, append_of_handle rfl hh]
  simp only [hh, Bool.false_eq_true, if_false]

theorem send_of_closed_eq_false (hclosed : p.closed = false) (d : Disk) (cwd : Place)
    (m : Message) : p.send d cwd m = match p.append d cwd m with
      | (p, d, none) => (p, d, .ok .delivered)
      | (p, d, some e) => (p, d, if e.isFromSystem then .ok (.failed e) else .error e) := by
  rw [send, hclosed]
  rfl

/-- A message is written to the file that is open. -/
theorem exists_send_of_isOpenAt (hp : p.handle? = some h) (hclosed : p.closed = false)
    (hnil : h.pending = []) (hh : h.closed = false) (hclear : d.obstacles = [])
    (hopen : d.files.IsOpenAt cwd p.path place h.number held) (m : Message) :
    ∃ d', p.send d cwd m = (p, d', .ok .delivered) ∧
      d'.files.IsOpenAt cwd p.path place h.number (held ++ encode m.line) ∧
      d.files.DiffersAt d'.files place := by
  obtain ⟨written, hwrites, -⟩ := Handle.write_spec hopen (encode m.line)
  have hdone := hwrites.eq_none hclear
  obtain ⟨rfl, hpending⟩ := hwrites.of_none hdone
  refine ⟨(h.write d (encode m.line)).2.1, ?_, ?_, hwrites.differsAt⟩
  · have hsame : (h.write d (encode m.line)).1 = h := by
      rw [hwrites.handle_eq, hpending, ← hnil]
    rw [send_of_closed_eq_false hclosed, append_of_handle hp hh, hdone, hsame, ← hp]
    rfl
  · have hopen' := hwrites.isOpenAt
    rwa [hnil, List.nil_append] at hopen'

theorem reach_of_handle_eq_none (hp : p.handle? = none) (t : FileTree) (cwd : Place) :
    p.reach t.disk cwd = ({ t.disk with files := (p.openFile t cwd).1 }, (p.openFile t cwd).2) := by
  rw [reach, hp]
  rfl

/-- A message is written to a file that can be opened, which is open then. -/
theorem exists_send_of_opens (hp : p.handle? = none) (hclosed : p.closed = false)
    (hnul : p.path.hasNul = false) (hopens : t.Opens cwd p.path u place held) (m : Message) :
    ∃ n d', p.send t.disk cwd m =
        ({ p with handle? := some { number := n, room := p.room } }, d', .ok .delivered) ∧
      d'.files.IsOpenAt cwd p.path place n (held ++ encode m.line) ∧
      u.DiffersAt d'.files place := by
  obtain ⟨v, n, hopen, hisOpen, hmade⟩ := hopens.openToAppend
  have hfile : p.openFile t cwd = (v, .ok { number := n, room := p.room }) := by
    rw [openFile, hasNul_parent hnul, hopens.makes]
    simp only [hnul, hopen, Bool.false_eq_true, if_false]
  have hreach := p.reach_of_handle_eq_none hp t cwd
  rw [hfile] at hreach
  obtain ⟨d', hsend, hwritten, hdiffers⟩ :=
    exists_send_of_isOpenAt (p := { p with handle? := some { number := n, room := p.room } })
      (d := { t.disk with files := v }) rfl hclosed rfl rfl rfl hisOpen m
  refine ⟨n, d', ?_, hwritten, hmade.differsAt.trans hdiffers⟩
  rw [send_of_closed_eq_false hclosed, append_of_reach hreach rfl,
    ← send_of_closed_eq_false (by exact hclosed)]
  exact hsend

/-! ## One message -/

/-- The file that the publisher adds to holds `held`, and nothing else waits to be written there. -/
def Serves (p : FilePublisher) (t : FileTree) (cwd : Place) (held : Text.Bytes) : Prop :=
  match p.handle? with
  | none => t.IsHolding cwd p.path held
  | some h => h.pending = [] ∧ ∃ place, t.IsOpenAt cwd p.path place h.number held

theorem serves_of_isHolding (hp : p.handle? = none) (h : t.IsHolding cwd p.path held) :
    p.Serves t cwd held := by
  rwa [Serves, hp]

theorem Serves.isHolding (h : p.Serves t cwd held) : t.IsHolding cwd p.path held := by
  rw [Serves] at h
  split at h
  · exact h
  · obtain ⟨-, place, hopen⟩ := h
    exact hopen.isHolding

/-- What was delivered went to a file that was open, or could be opened. -/
theorem reached_of_delivered (h : p.send t.disk cwd m = (q, d, .ok .delivered)) :
    p.closed = false ∧ ((∃ h, p.handle? = some h ∧ h.closed = false) ∨
      p.handle? = none ∧ p.path.hasNul = false ∧ ∃ u v n,
        t.makeDirectories cwd p.path.parent = (u, none) ∧
          u.openToAppend cwd p.path = .ok (v, n)) := by
  cases hclosed : p.closed with
  | true =>
    rw [send, hclosed] at h
    cases h
  | false =>
    refine ⟨rfl, ?_⟩
    rw [send_of_closed_eq_false hclosed] at h
    cases hp : p.handle? with
    | some h' =>
      refine .inl ⟨h', rfl, ?_⟩
      by_contra hh
      rw [append, reach, hp] at h
      simp only [Bool.not_eq_false] at hh
      simp [hh, Fault.isFromSystem] at h
    | none =>
      refine .inr ⟨rfl, ?_⟩
      rcases p.openFile_cases t cwd with ⟨e, herror, -⟩ | ⟨hnul, u, v, n, hmakes, hopen, -⟩
      · rw [append, p.reach_of_handle_eq_none hp, herror] at h
        simp only [Prod.mk.injEq] at h
        obtain ⟨-, -, h⟩ := h
        split at h <;> cases h
      · exact ⟨hnul, u, v, n, hmakes, hopen⟩

/-- **A message that is delivered comes last in the file.** -/
theorem Serves.send (h : p.Serves t cwd held)
    (hsend : p.send t.disk cwd m = (q, d, .ok .delivered)) :
    q.path = p.path ∧ q.Serves d.files cwd (held ++ encode m.line) ∧
      d.files.read cwd p.path = .ok (held ++ encode m.line) := by
  obtain ⟨hclosed, ⟨h', hp, hh⟩ | ⟨hp, hnul, u, v, n, hmakes, hopen⟩⟩ := reached_of_delivered hsend
  · rw [Serves, hp] at h
    obtain ⟨hnil, place, hopen⟩ := h
    obtain ⟨d', hsend', hopen', -⟩ :=
      exists_send_of_isOpenAt (d := t.disk) hp hclosed hnil hh rfl hopen m
    cases hsend'.symm.trans hsend
    refine ⟨rfl, ?_, hopen'.read_eq⟩
    rw [Serves, hp]
    exact ⟨hnil, place, hopen'⟩
  · obtain ⟨place, hplace, -⟩ := FileTree.exists_locate_of_openToAppend hopen
    have hopens : t.Opens cwd p.path u place held :=
      ⟨hmakes, hplace, h.isHolding u place hmakes hplace⟩
    obtain ⟨n', d', hsend', hopen', -⟩ := exists_send_of_opens hp hclosed hnul hopens m
    cases hsend'.symm.trans hsend
    exact ⟨rfl, ⟨rfl, place, hopen'⟩, hopen'.read_eq⟩

/-- A file for which nothing waits is closed, and the next to open it finds what it holds. -/
theorem Serves.close (h : p.Serves t cwd held) : ∃ q,
    p.close t.disk = (q, t.disk, none) ∧ q.path = p.path ∧ q.Serves t cwd held := by
  have hholds := h.isHolding
  refine ⟨{ p with handle? := none, closed := true }, ?_, rfl, serves_of_isHolding rfl hholds⟩
  rw [FilePublisher.close]
  rw [Serves] at h
  cases hp : p.handle? with
  | none => rfl
  | some h' =>
    rw [hp] at h
    obtain ⟨h'', hclose⟩ := Handle.close_of_pending_eq_nil h.1 t.disk
    simp only [hclose]

/-! ## Whole runs -/

/-- How the file of a publisher is used: a message is sent, the publisher is closed, or another one
takes its place. -/
inductive Use where
  | send (m : Message)
  | close
  | reopen

/-- The message that is sent. -/
def Use.message? : Use → Option Message
  | .send m => some m
  | .close => none
  | .reopen => none

/-- Goes through the uses of a file, and says how the messages fared. -/
def run (cwd : Place) : FilePublisher → FileTree → List Use → FileTree × List (Result Delivery)
  | _, t, [] => (t, [])
  | p, t, .close :: rest =>
    let (p, d, _) := p.close t.disk
    run cwd p d.files rest
  | p, t, .reopen :: rest => run cwd { path := p.path, room := p.room } t rest
  | p, t, .send m :: rest =>
    let (p, d, result) := p.send t.disk cwd m
    let (t, results) := run cwd p d.files rest
    (t, result :: results)

/-- **The file grows by the lines of the messages**, whichever publishers they are sent to.  Without
a message nothing is done to it. -/
theorem run_appends {uses : List Use} (h : p.Serves t cwd held)
    (hdelivered : ∀ result ∈ (run cwd p t uses).2, result = .ok .delivered) :
    (uses.filterMap Use.message? = [] → (run cwd p t uses).1 = t) ∧
    (uses.filterMap Use.message? ≠ [] → (run cwd p t uses).1.read cwd p.path =
      .ok (held ++ (uses.filterMap Use.message?).flatMap fun m ↦ encode m.line)) := by
  induction uses generalizing p t held with
  | nil => exact ⟨fun _ ↦ rfl, fun hne ↦ absurd rfl hne⟩
  | cons use rest ih =>
    cases use with
    | close =>
      obtain ⟨q, hclose, hpath, hserves⟩ := h.close
      rw [run, hclose] at hdelivered ⊢
      rw [← hpath]
      exact ih hserves hdelivered
    | reopen =>
      exact ih (p := { path := p.path, room := p.room }) (serves_of_isHolding rfl h.isHolding)
        hdelivered
    | send m =>
      obtain ⟨q, d, result, hsend⟩ : ∃ q d result, p.send t.disk cwd m = (q, d, result) :=
        ⟨_, _, _, rfl⟩
      rw [run, hsend] at hdelivered ⊢
      rw [List.forall_mem_cons] at hdelivered
      obtain ⟨rfl, hrest⟩ := hdelivered
      obtain ⟨hpath, hserves, hread⟩ := h.send hsend
      obtain ⟨hnone, hsome⟩ := ih hserves hrest
      rw [hpath] at hsome
      rw [List.filterMap_cons_some (show (Use.send m).message? = some m from rfl)]
      refine ⟨fun hnil ↦ absurd hnil (List.cons_ne_nil _ _), fun _ ↦ ?_⟩
      rw [List.flatMap_cons, ← List.append_assoc]
      by_cases hmore : rest.filterMap Use.message? = []
      · rw [hnone hmore, hread, hmore, List.flatMap_nil, List.append_nil]
      · exact hsome hmore

/-- **Every message is read back.**  Where a file held nothing, and messages were sent to one
publisher after the other and all delivered, the file is a text that has a line for each message, in
the order in which they were sent, and each line is that of its message. -/
theorem run_readable {uses : List Use} (hfresh : p.handle? = none)
    (h : t.IsHolding cwd p.path [])
    (hdelivered : ∀ result ∈ (run cwd p t uses).2, result = .ok .delivered) :
    (uses.filterMap Use.message? = [] → (run cwd p t uses).1 = t) ∧
    (uses.filterMap Use.message? ≠ [] → ∃ bytes text,
      (run cwd p t uses).1.read cwd p.path = .ok bytes ∧ Text.decodeFile bytes = .ok text ∧
        List.Forall₂ Message.IsLine (uses.filterMap Use.message?) (Text.lines text)) := by
  obtain ⟨hnone, hsome⟩ := run_appends (serves_of_isHolding hfresh h) hdelivered
  refine ⟨hnone, fun hne ↦ ⟨_, String.ofList ((uses.filterMap Use.message?).flatMap
    (·.line.toList)), hsome hne, ?_, ?_⟩⟩
  · rw [List.nil_append, ← Text.decodeFile_encode, encode, String.toList_ofList, List.flatMap_assoc]
    rfl
  · rw [Message.lines_flatMap_line, List.forall₂_map_right_iff, List.forall₂_same]
    exact fun m _ ↦ m.isLine_line

/-- A message full of line ends, quotes and control characters. -/
def sampleMessage : Message := ⟨"a\r\nb", "\u0085\u2028\x0b\x1e", "\"\\n\n\x00\"\uffff"⟩

/-- A publisher that makes a directory for its file. -/
def samplePublisher : FilePublisher := { path := ⟨.relative, ["out", "log"]⟩ }

/-- Messages to two publishers, one after the other. -/
def sampleUses : List Use :=
  [.send sampleMessage, .close, .reopen, .send ⟨"", "", ""⟩, .send sampleMessage, .close]

theorem run_readable_sample : ∃ bytes text,
    (run [] samplePublisher .empty sampleUses).1.read [] samplePublisher.path = .ok bytes ∧
      Text.decodeFile bytes = .ok text ∧
      List.Forall₂ Message.IsLine [sampleMessage, ⟨"", "", ""⟩, sampleMessage]
        (Text.lines text) := by
  have hholds : FileTree.empty.IsHolding [] samplePublisher.path [] := by
    intro u place hmakes hplace
    obtain rfl : (FileTree.empty.makeDirectories [] samplePublisher.path.parent).1 = u :=
      congrArg Prod.fst hmakes
    have hlog : (FileTree.empty.makeDirectories [] samplePublisher.path.parent).1.locate []
        samplePublisher.path = .ok ["out", "log"] := by
      decide +kernel
    obtain rfl : ["out", "log"] = place := Except.ok.inj (hlog.symm.trans hplace)
    exact .inr ⟨by decide +kernel, rfl⟩
  have hdelivered : ∀ result ∈ (run [] samplePublisher .empty sampleUses).2,
      result = .ok .delivered := by
    decide +kernel
  exact (run_readable rfl hholds hdelivered).2 (List.cons_ne_nil _ _)

end FilePublisher

end RevisionGraph
