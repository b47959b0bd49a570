import RevisionGraph.Proofs.Publisher.Sink
import RevisionGraph.Publisher.Listener

/-!
# What listeners hear is what is stored

A listener that was told of a delivery may forget the message.  So it should be told once, and what
it is told should be true: a message is stored exactly if its listener hears that it was delivered,
nothing takes it away again, and a publisher that was closed takes no more.

A file keeps this protocol only as long as nothing comes of the bytes that wait for it.  Its
listener was told that they failed, and then a later message or the end of the publisher writes them
after all, or the publisher does not let itself be closed.

* **Archives.**  An `Archive` is what a publisher has stored, in memory or in the file at a place.
  Adding a message changes it, `Archive.add_ne`, so that it can be told whether one was added.
* **Stores.**  `Store.waiting` is what waits to be written, and `Store.Stores` says what a use
  added.
* **One use.**  `exists_delivery` takes the ways out of a `send` together: there is one delivery,
  and any listener is told of just that.  By `perform_stores` a use adds what is heard to be
  delivered unless it disturbs what waits, and by `not_obeys_of_disturbs` it does not if it does.
* **Whole runs.**  `exists_abides_iff`: a history abides by the protocol exactly if none of its uses
  disturbs what waits.
-/

set_option autoImplicit false

namespace RevisionGraph

open Text.Utf8 (encode)

variable {t v : FileTree} {d : Disk} {cwd place : Place} {m : Message} {weather : Weather}

/-! ## Archives -/

/-- What a publisher has stored. -/
inductive Archive where
  | messages (ms : List Message)
  | bytes (held : Text.Bytes)
  deriving DecidableEq

namespace Archive

/-- A message comes last, in a file as its line. -/
def add : Archive → Message → Archive
  | .messages ms, m => .messages (ms ++ [m])
  | .bytes held, m => .bytes (held ++ encode m.line)

/-- Messages are written one after the other. -/
def addAll (a : Archive) (ms : List Message) : Archive := ms.foldl add a

theorem addAll_append (a : Archive) (ms ns : List Message) :
    a.addAll (ms ++ ns) = (a.addAll ms).addAll ns :=
  List.foldl_append

end Archive

theorem Message.encode_line_ne (m : Message) : encode m.line ≠ [] := by
  rw [encode, m.toList_line, List.flatMap_append]
  exact List.append_ne_nil_of_right_ne_nil _ (by decide +kernel)

theorem Archive.add_ne (a : Archive) (m : Message) : a.add m ≠ a := by
  cases a with
  | messages ms => simp [add]
  | bytes held => simpa [add] using m.encode_line_ne

/-! ## Stores -/

/-- A refusal leaves the bytes of every file. -/
def Weather.IsHarmless (weather : Weather) : Prop :=
  ∀ refusal ∈ weather.refusal?, ∀ t : FileTree, t.Keeps (refusal.leaving t)

/-- A publisher and the files that there are. -/
structure Store where
  publisher : Publisher
  files : FileTree

namespace Store

/-- What is stored, a file being the one at the given place. -/
def archive (w : Store) (place : Place) : Archive :=
  match w.publisher with
  | .memory p => .messages p.messages
  | .file _ => .bytes (w.files.bytesAt place)

/-- The bytes that wait to be written. -/
def waiting (w : Store) : Text.Bytes :=
  match w.publisher with
  | .memory _ => []
  | .file p => (p.handle?.map Handle.pending).getD []

/-- The file system takes the path of the publisher, and what is written there is kept.  If the file
is open it is the one that the path leads to. -/
def IsReady (w : Store) (cwd : Place) : Prop :=
  match w.publisher with
  | .memory _ => True
  | .file p => p.path.hasNul = false ∧ w.files.LeadsToFiles cwd p.path ∧
    ∀ h ∈ p.handle?, p.closed = false ∧ h.closed = false ∧
      ∃ place, w.files.IsOpenAt cwd p.path place h.number (w.files.bytesAt place)

/-- The path of the publisher leads to the file at the place; memory is at no place. -/
def LeadsTo (w : Store) (cwd place : Place) : Prop :=
  match w.publisher with
  | .memory _ => place = []
  | .file p => w.files.LeadsTo cwd p.path place

theorem LeadsTo.unique {w : Store} {q : Place} (h : w.LeadsTo cwd place) (h' : w.LeadsTo cwd q) :
    place = q := by
  obtain ⟨publisher, files⟩ := w
  cases publisher with
  | memory p => exact Eq.trans h (Eq.symm h')
  | file p => exact FileTree.LeadsTo.unique h h'

/-- What is stored in a file is what is read by the path. -/
theorem LeadsTo.read_eq {w : Store} {p : FilePublisher} (h : w.LeadsTo cwd place)
    (hp : w.publisher = .file p) :
    ∃ held, w.archive place = .bytes held ∧ w.files.read cwd p.path = .ok held := by
  rw [LeadsTo, hp] at h
  exact ⟨w.files.bytesAt place, by rw [archive, hp], FileTree.LeadsTo.read_eq h⟩

/-- One store comes from another by what added some messages to it.  Where the path of the publisher
led to no file, there may be one to which it leads from then on. -/
structure Stores (w : Store) (cwd : Place) (messages : List Message) (w' : Store) : Prop where
  isReady : w'.IsReady cwd
  leadsTo : ∀ place, w.LeadsTo cwd place → w'.LeadsTo cwd place
  archive_eq : ∀ place, w'.LeadsTo cwd place →
    w'.archive place = (w.archive place).addAll messages
  exists_place : messages ≠ [] → ∃ place, w'.LeadsTo cwd place
  archive_of_nil : messages = [] → ∀ place, w'.archive place = w.archive place

theorem Stores.of_archive_eq {w w' : Store} (hready : w'.IsReady cwd)
    (hleads : ∀ place, w.LeadsTo cwd place → w'.LeadsTo cwd place)
    (harchive : ∀ place, w'.archive place = w.archive place) : w.Stores cwd [] w' :=
  ⟨hready, hleads, fun place _ ↦ harchive place, fun hne ↦ absurd rfl hne, fun _ ↦ harchive⟩

theorem Stores.trans {w w' w'' : Store} {messages : List Message} (h : w.Stores cwd [] w')
    (h' : w'.Stores cwd messages w'') : w.Stores cwd messages w'' where
  isReady := h'.isReady
  leadsTo place hplace := h'.leadsTo place (h.leadsTo place hplace)
  archive_eq place hplace := by rw [h'.archive_eq place hplace, h.archive_of_nil rfl]
  exists_place := h'.exists_place
  archive_of_nil hnil place := by rw [h'.archive_of_nil hnil, h.archive_of_nil rfl]

variable {p q : FilePublisher} {h : Handle}

/-- What changes no file stores nothing there. -/
theorem stores_of_keeps (hready : Store.IsReady ⟨.file p, t⟩ cwd) (hp : p.handle? = none)
    (h : t.Keeps v) : Store.Stores ⟨.file p, t⟩ cwd [] ⟨.file p, v⟩ := by
  obtain ⟨hnul, hfiles, -⟩ := hready
  refine .of_archive_eq ⟨hnul, hfiles.of_growsTo h.growsTo, by simp [hp]⟩ (fun place hplace ↦ ?_)
    (fun place ↦ congrArg Archive.bytes (h.bytesAt_eq place))
  exact FileTree.LeadsTo.of_growsTo hplace h.growsTo

/-- A file that was opened stores what it did. -/
theorem stores_of_open (hready : Store.IsReady ⟨.file p, t⟩ cwd) (hclosed : p.closed = false)
    (hh : h.closed = false) (hkeeps : t.Keeps v)
    (hopen : v.IsOpenAt cwd p.path place h.number (t.bytesAt place)) :
    Store.Stores ⟨.file p, t⟩ cwd [] ⟨.file { p with handle? := some h }, v⟩ := by
  obtain ⟨hnul, hfiles, -⟩ := hready
  refine .of_archive_eq ⟨hnul, hfiles.of_growsTo hkeeps.growsTo, ?_⟩ (fun place hplace ↦ ?_)
    (fun place ↦ congrArg Archive.bytes (hkeeps.bytesAt_eq place))
  · rintro h' ⟨⟩
    exact ⟨hclosed, hh, place, (hkeeps.bytesAt_eq place).symm ▸ hopen⟩
  · exact FileTree.LeadsTo.of_growsTo hplace hkeeps.growsTo

/-- What is written to a file that is open is stored there. -/
theorem stores_of_written {messages : List Message} {written : Text.Bytes} {k : Handle}
    (hready : Store.IsReady ⟨.file p, t⟩ cwd) (hclosed : p.closed = false) (hh : k.closed = false)
    (hopen : v.IsOpenAt cwd p.path place k.number (t.bytesAt place ++ written))
    (hdiffers : t.DiffersAt v place) (hnil : messages = [] → v = t)
    (hwritten : Archive.bytes (t.bytesAt place ++ written) =
      (Archive.bytes (t.bytesAt place)).addAll messages) :
    Store.Stores ⟨.file p, t⟩ cwd messages ⟨.file { p with handle? := some k }, v⟩ := by
  obtain ⟨hnul, hfiles, -⟩ := hready
  have hbytes : v.bytesAt place = t.bytesAt place ++ written := FileTree.bytesAt_of_file hopen.holds
  refine ⟨⟨hnul, hfiles.of_growsTo hdiffers.growsTo, ?_⟩, fun q hq ↦ ?_, fun q hq ↦ ?_,
    fun _ ↦ ⟨place, hopen.leadsTo⟩, fun hmessages q ↦ by rw [hnil hmessages]; rfl⟩
  · rintro h ⟨⟩
    exact ⟨hclosed, hh, place, hbytes.symm ▸ hopen⟩
  · exact FileTree.LeadsTo.of_growsTo hq hdiffers.growsTo
  · obtain rfl : place = q := FileTree.LeadsTo.unique hopen.leadsTo hq
    exact (congrArg Archive.bytes hbytes).trans hwritten

end Store

/-! ## One use -/

/-- What is written to a file that is open, and how the message fares. -/
theorem FilePublisher.exists_send {p : FilePublisher} {h : Handle} {held : Text.Bytes}
    (hp : p.handle? = some h) (hclosed : p.closed = false) (hh : h.closed = false)
    (hopen : d.files.IsOpenAt cwd p.path place h.number held) (m : Message) :
    ∃ pending written delivery d',
      p.send d cwd m = ({ p with handle? := some { h with pending } }, d', .ok delivery) ∧
      d'.files.IsOpenAt cwd p.path place h.number (held ++ written) ∧
      d.files.DiffersAt d'.files place ∧ (written = [] → d'.files = d.files) ∧
      (delivery = .delivered → written = h.pending ++ encode m.line) ∧
      (delivery ≠ .delivered → written = [] ∨ written = h.pending) ∧
      (h.pending ≠ [] → (written = [] ↔ d.next? ≠ none)) := by
  obtain ⟨written, hwrites, hheldUp⟩ := Handle.write_spec hopen (encode m.line)
  rw [send_of_closed_eq_false hclosed, append_of_handle hp hh]
  refine ⟨(h.write d (encode m.line)).1.pending, written, ?_, (h.write d (encode m.line)).2.1, ?_,
    hwrites.isOpenAt, hwrites.differsAt, hwrites.files_eq, ?_, ?_, hheldUp⟩
  · exact ((h.write d (encode m.line)).2.2.map fun c ↦ Delivery.failed (.writing c)).getD .delivered
  · rw [← hwrites.handle_eq]
    cases (h.write d (encode m.line)).2.2 <;> rfl
  · intro hdelivered
    cases hcause : (h.write d (encode m.line)).2.2 with
    | none => exact (hwrites.of_none hcause).1
    | some cause =>
      rw [hcause] at hdelivered
      cases hdelivered
  · intro hfailed
    refine (hwrites.of_some fun hcause ↦ hfailed ?_).1
    rw [hcause]
    rfl

/-- The publisher was closed, and says so.  It changes nothing, and there is no delivery. -/
theorem Publisher.send_of_isClosed {p : Publisher} (h : p.isClosed = true) (d : Disk) (cwd : Place)
    (m : Message) : ∃ path?, p.send d cwd m = (p, d, .error (.publisherClosed path?)) := by
  cases p with
  | memory p =>
    have hclosed : p.closed = true := h
    exact ⟨none, by rw [send, MemoryPublisher.send, hclosed]; rfl⟩
  | file p =>
    have hclosed : p.closed = true := h
    exact ⟨some p.path.toText, by rw [send, FilePublisher.send, hclosed]; rfl⟩

/-- The store once a message was handed over. -/
def Store.afterSend (w : Store) (cwd : Place) (weather : Weather) (m : Message) : Store :=
  let (publisher, d, _) := w.publisher.send { weather with files := w.files } cwd m
  ⟨publisher, d.files⟩

/-- What is said of a message that was handed over is true of a place: it was added there exactly if
it was delivered. -/
structure Store.Tells (w : Store) (place : Place) (m : Message) (delivery : Delivery)
    (w' : Store) : Prop where
  delivered_iff : delivery = .delivered ↔ w'.archive place = (w.archive place).add m
  archive_of_failed : delivery ≠ .delivered → w'.archive place = w.archive place

/-- A message for a file that is open. -/
theorem FilePublisher.exists_delivery_of_handle {p : FilePublisher} {h : Handle}
    (hp : p.handle? = some h) (hclosed : p.closed = false)
    (hready : Store.IsReady ⟨.file p, d.files⟩ cwd) (m : Message) :
    ∃ delivery q d', p.send d cwd m = (q, d', .ok delivery) ∧
      (h.pending = [] ∨ d.next? ≠ none → Store.Stores ⟨.file p, d.files⟩ cwd
        (if delivery = .delivered then [m] else []) ⟨.file q, d'.files⟩) ∧
      (h.pending ≠ [] → d.next? = none → ∃ place, d.files.LeadsTo cwd p.path place ∧
        ¬ Store.Tells ⟨.file p, d.files⟩ place m delivery ⟨.file q, d'.files⟩) := by
  obtain ⟨-, hh, place, hopen⟩ := hready.2.2 h hp
  obtain ⟨pending, written, delivery, d', hsend, hopen', hdiffers, hfiles, hdelivered, hfailed,
    hheldUp⟩ := exists_send hp hclosed hh hopen m
  refine ⟨delivery, _, d', hsend, fun hspared ↦ ?_, fun hwaits hnext ↦ ⟨place, hopen.leadsTo, ?_⟩⟩
  · have hpending : written ≠ [] → h.pending = [] := fun hne ↦ by
      by_contra hwaits
      exact hne ((hheldUp hwaits).mpr (hspared.resolve_left hwaits))
    by_cases hd : delivery = .delivered
    · have hwritten := hdelivered hd
      have hnil : h.pending = [] := hpending (by simp [hwritten, m.encode_line_ne])
      rw [if_pos hd]
      refine Store.stores_of_written (k := { h with pending }) hready hclosed hh hopen' hdiffers
        nofun ?_
      rw [hwritten, hnil, List.nil_append]
      rfl
    · have hwritten : written = [] := by
        by_contra hne
        exact hne ((hfailed hd).elim id fun h ↦ h.trans (hpending hne))
      rw [if_neg hd]
      refine Store.stores_of_written (k := { h with pending }) hready hclosed hh hopen' hdiffers
        (fun _ ↦ hfiles hwritten) ?_
      rw [hwritten, List.append_nil]
      rfl
  · -- what waited is there now, so that it is neither the message alone nor nothing
    have hne : written ≠ [] := fun hnil ↦ (hheldUp hwaits).mp hnil hnext
    have hbytes :
        Store.archive ⟨.file { p with handle? := some { h with pending } }, d'.files⟩ place =
          .bytes (d.files.bytesAt place ++ written) :=
      congrArg Archive.bytes (FileTree.bytesAt_of_file hopen'.holds)
    rintro ⟨hadds, hsame⟩
    by_cases hd : delivery = .delivered
    · have hadd := Archive.bytes.inj (hbytes.symm.trans (hadds.mp hd))
      rw [hdelivered hd] at hadd
      exact hwaits (List.append_left_eq_self.mp (List.append_cancel_left hadd))
    · have hkept := Archive.bytes.inj (hbytes.symm.trans (hsame hd))
      exact hne (List.append_right_eq_self.mp hkept)

/-- A message for a file that is not open yet. -/
theorem FilePublisher.exists_delivery_of_unopened {p : FilePublisher} (hp : p.handle? = none)
    (hclosed : p.closed = false) (hready : Store.IsReady ⟨.file p, t⟩ cwd)
    (hharmless : weather.IsHarmless) (m : Message) :
    ∃ delivery q d', p.send { weather with files := t } cwd m = (q, d', .ok delivery) ∧
      Store.Stores ⟨.file p, t⟩ cwd (if delivery = .delivered then [m] else [])
        ⟨.file q, d'.files⟩ := by
  have hnul := hready.1
  have hrefuses : ∀ {v : FileTree} {e : Fault}, e.isFromSystem = true → t.Keeps v →
      p.reach { weather with files := t } cwd = ({ weather with files := v }, .error e) →
      ∃ delivery q d', p.send { weather with files := t } cwd m = (q, d', .ok delivery) ∧
        Store.Stores ⟨.file p, t⟩ cwd (if delivery = .delivered then [m] else [])
          ⟨.file q, d'.files⟩ := by
    intro v e he hkeeps hreach
    refine ⟨.failed e, p, { weather with files := v }, ?_, Store.stores_of_keeps hready hp hkeeps⟩
    rw [send_of_closed_eq_false hclosed, append, hreach]
    simp only [he, if_true]
  cases hrefusal : weather.refusal? with
  | some refusal =>
    refine hrefuses rfl (hharmless refusal hrefusal t) (e := .file refusal.fault) ?_
    rw [reach, hp]
    simp only [hrefusal]
  | none =>
    have hreach : p.reach { weather with files := t } cwd =
        ({ weather with files := (p.openFile t cwd).1 }, (p.openFile t cwd).2) := by
      rw [reach, hp]
      simp only [hrefusal]
    rcases p.openFile_cases t cwd with ⟨e, herror, hkeeps, he⟩ | ⟨-, u, v, n, hmakes, hopen, hfile⟩
    · rw [herror] at hreach
      exact hrefuses (he hnul) hkeeps hreach
    · rw [hfile] at hreach
      obtain ⟨hkeeps, place, hisOpen⟩ := hready.2.1.open_spec hmakes hopen
      have hopened := Store.stores_of_open (h := { number := n, room := p.room }) hready hclosed rfl
        hkeeps hisOpen
      obtain ⟨delivery, q, d', hsend, hstores, -⟩ := exists_delivery_of_handle
        (p := { p with handle? := some { number := n, room := p.room } })
        (d := { weather with files := v }) rfl hclosed hopened.isReady m
      refine ⟨delivery, q, d', ?_, hopened.trans (hstores (.inl rfl))⟩
      rw [send_of_closed_eq_false hclosed, append_of_reach hreach rfl,
        ← send_of_closed_eq_false (by exact hclosed)]
      exact hsend

namespace Publisher

/-- **There is one delivery.**  Unless something waits, and an attempt to write it gets through, the
message is stored exactly if it was delivered. -/
theorem exists_delivery {w : Store} (hopen : w.publisher.isClosed = false) (hready : w.IsReady cwd)
    (hharmless : weather.IsHarmless) (m : Message) :
    ∃ delivery, (w.publisher.send { weather with files := w.files } cwd m).2.2 = .ok delivery ∧
      (w.waiting = [] ∨ weather.next? ≠ none →
        w.Stores cwd (if delivery = .delivered then [m] else []) (w.afterSend cwd weather m)) ∧
      (w.waiting ≠ [] → weather.next? = none →
        ∃ place, w.LeadsTo cwd place ∧ ¬ w.Tells place m delivery (w.afterSend cwd weather m)) := by
  obtain ⟨publisher, files⟩ := w
  cases publisher with
  | memory p =>
    have hclosed : p.closed = false := hopen
    cases hobstacle : p.obstacle with
    | some cause =>
      refine ⟨.failed cause, ?_, fun _ ↦ ?_, fun hne ↦ absurd rfl hne⟩
      · rw [send, MemoryPublisher.send, hclosed, hobstacle]
        rfl
      · rw [Store.afterSend, send, MemoryPublisher.send, hclosed, hobstacle]
        exact .of_archive_eq trivial (fun _ h ↦ h) (fun _ ↦ rfl)
    | none =>
      refine ⟨.delivered, ?_, fun _ ↦ ?_, fun hne ↦ absurd rfl hne⟩
      · rw [send, MemoryPublisher.send, hclosed, hobstacle]
        rfl
      · rw [Store.afterSend, send, MemoryPublisher.send, hclosed, hobstacle]
        exact ⟨trivial, fun _ h ↦ h, fun _ _ ↦ rfl, fun _ ↦ ⟨[], rfl⟩,
          fun hnil ↦ absurd hnil (List.cons_ne_nil m [])⟩
  | file p =>
    have hclosed : p.closed = false := hopen
    cases hp : p.handle? with
    | none =>
      obtain ⟨delivery, q, d', hsend, hstores⟩ :=
        FilePublisher.exists_delivery_of_unopened hp hclosed hready hharmless m
      refine ⟨delivery, ?_, fun _ ↦ ?_, fun hne ↦ absurd ?_ hne⟩
      · rw [send, hsend]
      · rwa [Store.afterSend, send, hsend]
      · rw [Store.waiting]
        simp [hp]
    | some h =>
      obtain ⟨delivery, q, d', hsend, hstores, htells⟩ := FilePublisher.exists_delivery_of_handle
        (d := { weather with files := files }) hp hclosed hready m
      have hwaiting : Store.waiting ⟨.file p, files⟩ = h.pending := by
        rw [Store.waiting]
        simp [hp]
      rw [hwaiting, Store.afterSend, send, hsend]
      exact ⟨delivery, rfl, hstores, htells⟩

theorem isClosed_send (p : Publisher) (d : Disk) (cwd : Place) (m : Message) :
    (p.send d cwd m).1.isClosed = p.isClosed := by
  cases p with
  | memory p =>
    obtain ⟨messages, closed, obstacle⟩ := p
    cases closed with
    | true => rfl
    | false => cases obstacle <;> rfl
  | file p =>
    have happend : (p.append d cwd m).1.closed = p.closed := by
      rw [FilePublisher.append]
      rcases p.reach d cwd with ⟨d', e | h⟩
      · rfl
      · cases hh : h.closed <;> simp [hh]
    rw [send, FilePublisher.send]
    cases hclosed : p.closed with
    | true => rfl
    | false =>
      simp only [Bool.false_eq_true, if_false]
      rcases happended : p.append d cwd m with ⟨q, d', _ | e⟩
      all_goals
        rw [happended] at happend
        exact happend

end Publisher

/-- A publisher for which nothing waits is closed, which does nothing to what is stored. -/
theorem Publisher.exists_close {w : Store} (hready : w.IsReady cwd) (hwaiting : w.waiting = [])
    (weather : Weather) : ∃ q d,
      w.publisher.close { weather with files := w.files } = (q, d, none) ∧ q.isClosed = true ∧
        w.Stores cwd [] ⟨q, d.files⟩ := by
  obtain ⟨publisher, files⟩ := w
  cases publisher with
  | memory p => exact ⟨_, _, rfl, rfl, .of_archive_eq trivial (fun _ h ↦ h) (fun _ ↦ rfl)⟩
  | file p =>
    obtain ⟨hnul, hfiles, -⟩ := hready
    refine ⟨.file { p with handle? := none, closed := true }, { weather with files := files }, ?_,
      rfl, .of_archive_eq ⟨hnul, hfiles, nofun⟩ (fun _ h ↦ h) (fun _ ↦ rfl)⟩
    cases hp : p.handle? with
    | none => rw [close, FilePublisher.close, hp]
    | some h =>
      have hnil : h.pending = [] := by
        rw [Store.waiting] at hwaiting
        simpa [hp] using hwaiting
      obtain ⟨h', hclose⟩ := Handle.close_of_pending_eq_nil hnil { weather with files := files }
      rw [close, FilePublisher.close, hp]
      simp only [hclose]

/-- If something waits, closing fails or changes what is stored. -/
theorem Publisher.close_of_waiting {w : Store} (hready : w.IsReady cwd) (hwaiting : w.waiting ≠ [])
    (weather : Weather) : ∃ place, w.LeadsTo cwd place ∧ ∀ q d,
      w.publisher.close { weather with files := w.files } = (q, d, none) →
        Store.archive ⟨q, d.files⟩ place ≠ w.archive place := by
  obtain ⟨publisher, files⟩ := w
  cases publisher with
  | memory p => exact absurd rfl hwaiting
  | file p =>
    cases hp : p.handle? with
    | none =>
      rw [Store.waiting] at hwaiting
      simp [hp] at hwaiting
    | some h =>
      have hne : h.pending ≠ [] := by
        rw [Store.waiting] at hwaiting
        simpa [hp] using hwaiting
      obtain ⟨-, hh, place, hopen⟩ := hready.2.2 h hp
      obtain ⟨hwrites, hfails⟩ :=
        Handle.close_of_pending_ne_nil (d := { weather with files := files }) hne hh hopen
      refine ⟨place, hopen.leadsTo, fun q d hclose ↦ ?_⟩
      rw [close, FilePublisher.close, hp] at hclose
      cases hnext : weather.next? with
      | none =>
        obtain ⟨h', d', hclosed, hwritten⟩ := hwrites hnext
        simp only [hclosed] at hclose
        cases hclose
        intro hsame
        have hbytes := FileTree.bytesAt_of_file hwritten.holds
        have hkept := hbytes.symm.trans (Archive.bytes.inj hsame)
        exact hne (List.append_right_eq_self.mp hkept)
      | some cause =>
        have hfailed := hfails (by simp [hnext])
        rcases hresult : h.close { weather with files := files } with ⟨h', d', _ | cause'⟩
        · rw [hresult] at hfailed
          exact absurd rfl hfailed
        · simp [hresult] at hclose

/-- A store, and the state of whoever uses the publisher. -/
structure Outlet (σ : Type) extends Store where
  caller : σ

namespace Outlet

/-- How a publisher is used: a message is sent, maybe with a listener; the publisher is closed; or
messages in memory are made to fail, or no longer.  Whenever it goes to the file system there is
some weather. -/
inductive Use (σ : Type) where
  | send (m : Message) (listener : Listener σ) (weather : Weather)
  | close (weather : Weather)
  | obstruct (obstacle : Option Fault)

variable {σ : Type}

namespace Use

/-- What is refused leaves the bytes of every file. -/
def IsHarmless : Use σ → Prop
  | .send _ _ weather => weather.IsHarmless
  | .close _ => True
  | .obstruct _ => True

/-- The publisher is closed. -/
def isClose : Use σ → Bool
  | .close _ => true
  | .send _ _ _ => false
  | .obstruct _ => false

/-- What waits goes on waiting: an attempt to write it would be the first, and fails. -/
def Spares : Use σ → Prop
  | .send _ _ weather => weather.next? ≠ none
  | .close _ => False
  | .obstruct _ => True

end Use

variable {x : Outlet σ} {use : Use σ} {uses before after : List (Use σ)}

/-- The outlet after a use, and what the use returned. -/
def perform (cwd : Place) (x : Outlet σ) : Use σ → Outlet σ × Result Unit
  | .send m listener weather =>
    let (publisher, d, caller, result) :=
      x.publisher.sendTelling { weather with files := x.files } cwd m listener x.caller
    (⟨⟨publisher, d.files⟩, caller⟩, result)
  | .close weather =>
    let (publisher, d, fault?) := x.publisher.close { weather with files := x.files }
    (⟨⟨publisher, d.files⟩, x.caller⟩, fault?.elim (.ok ()) .error)
  | .obstruct obstacle => (⟨⟨x.publisher.obstruct obstacle, x.files⟩, x.caller⟩, .ok ())

/-- What is heard of a message, one delivery for every time that its listener is told. -/
def heard (x : Outlet σ) (cwd : Place) (m : Message) (weather : Weather) : List Delivery :=
  (x.publisher.sendTelling { weather with files := x.files } cwd m
    (some fun delivery log ↦ log ++ [delivery]) []).2.2.1

/-- The message of a use if it is heard that it was delivered. -/
def deliveredBy (cwd : Place) (x : Outlet σ) : Use σ → List Message
  | .send m _ weather => if .delivered ∈ x.heard cwd m weather then [m] else []
  | .close _ => []
  | .obstruct _ => []

/-- Where there is a delivery, the listener is told of it. -/
theorem perform_send {delivery : Delivery}
    (h : (x.publisher.send { weather with files := x.files } cwd m).2.2 = .ok delivery)
    (listener : Listener σ) :
    x.perform cwd (.send m listener weather) =
        (⟨x.afterSend cwd weather m, listener.tell delivery x.caller⟩, .ok ()) ∧
      x.heard cwd m weather = [delivery] := by
  rw [perform, heard, Publisher.sendTelling_eq, Publisher.sendTelling_eq, Store.afterSend]
  rcases hsend : x.publisher.send { weather with files := x.files } cwd m with ⟨q, d, result⟩
  rw [hsend] at h
  obtain rfl : result = .ok delivery := h
  exact ⟨rfl, rfl⟩

/-- A closed publisher tells nobody and changes nothing. -/
theorem perform_send_of_isClosed (h : x.publisher.isClosed = true) (cwd : Place) (m : Message)
    (listener : Listener σ) (weather : Weather) :
    (∃ path?, x.perform cwd (.send m listener weather) = (x, .error (.publisherClosed path?))) ∧
      x.heard cwd m weather = [] := by
  obtain ⟨path?, hsend⟩ :=
    Publisher.send_of_isClosed h { weather with files := x.files } cwd m
  rw [heard, perform, Publisher.sendTelling_eq, Publisher.sendTelling_eq, hsend]
  exact ⟨⟨path?, rfl⟩, rfl⟩

/-- **A use adds what is heard to be delivered**, and nothing else, unless it disturbs what waits.
Only closing closes. -/
theorem perform_stores (hready : x.IsReady cwd) (hharmless : use.IsHarmless)
    (hspares : x.waiting ≠ [] → use.Spares) :
    x.Stores cwd (x.deliveredBy cwd use) (x.perform cwd use).1.toStore ∧
      (x.perform cwd use).1.publisher.isClosed = (x.publisher.isClosed || use.isClose) := by
  cases use with
  | send m listener weather =>
    rw [Use.isClose, Bool.or_false, deliveredBy]
    cases hclosed : x.publisher.isClosed with
    | true =>
      obtain ⟨⟨path?, hperform⟩, hheard⟩ := perform_send_of_isClosed hclosed cwd m listener weather
      rw [hperform, hheard, if_neg (by simp)]
      exact ⟨.of_archive_eq hready (fun _ h ↦ h) (fun _ ↦ rfl), hclosed⟩
    | false =>
      obtain ⟨delivery, hsend, hstores, -⟩ := Publisher.exists_delivery hclosed hready hharmless m
      obtain ⟨hperform, hheard⟩ := perform_send hsend listener
      have hspared : x.waiting = [] ∨ weather.next? ≠ none :=
        or_iff_not_imp_left.mpr hspares
      rw [hperform, hheard]
      simp only [List.mem_singleton, eq_comm (a := Delivery.delivered)]
      refine ⟨hstores hspared, ?_⟩
      exact (x.publisher.isClosed_send _ cwd m).trans hclosed
  | close weather =>
    have hwaiting : x.waiting = [] := by
      by_contra hne
      exact hspares hne
    obtain ⟨q, d, hclose, hclosed, hstores⟩ := Publisher.exists_close hready hwaiting weather
    rw [perform, hclose, Use.isClose, Bool.or_true]
    exact ⟨hstores, hclosed⟩
  | obstruct obstacle =>
    obtain ⟨⟨publisher, files⟩, caller⟩ := x
    rw [Use.isClose, Bool.or_false]
    cases publisher with
    | memory p => exact ⟨.of_archive_eq trivial (fun _ h ↦ h) (fun _ ↦ rfl), rfl⟩
    | file p => exact ⟨.of_archive_eq hready (fun _ h ↦ h) (fun _ ↦ rfl), rfl⟩

/-! ## Whole runs -/

/-- The outlet after some uses. -/
def run (cwd : Place) (x : Outlet σ) (uses : List (Use σ)) : Outlet σ :=
  uses.foldl (fun x use ↦ (x.perform cwd use).1) x

/-- The messages that are heard to be delivered. -/
def delivered (cwd : Place) : Outlet σ → List (Use σ) → List Message
  | _, [] => []
  | x, use :: rest => x.deliveredBy cwd use ++ delivered cwd (x.perform cwd use).1 rest

theorem run_append (x : Outlet σ) (before after : List (Use σ)) :
    x.run cwd (before ++ after) = (x.run cwd before).run cwd after :=
  List.foldl_append

theorem delivered_append (x : Outlet σ) (before after : List (Use σ)) :
    x.delivered cwd (before ++ after) =
      x.delivered cwd before ++ (x.run cwd before).delivered cwd after := by
  induction before generalizing x with
  | nil => rfl
  | cons use rest ih =>
    rw [List.cons_append, delivered, delivered, ih, List.append_assoc]
    rfl

/-- No use disturbs what waits by then. -/
def IsUndisturbed (cwd : Place) (x : Outlet σ) (uses : List (Use σ)) : Prop :=
  ∀ before use after, uses = before ++ use :: after →
    (x.run cwd before).waiting ≠ [] → use.Spares

theorem isUndisturbed_cons_iff {rest : List (Use σ)} : x.IsUndisturbed cwd (use :: rest) ↔
    (x.waiting ≠ [] → use.Spares) ∧ (x.perform cwd use).1.IsUndisturbed cwd rest := by
  constructor
  · exact fun h ↦ ⟨h [] use rest rfl, fun before use' after heq ↦
      h (use :: before) use' after (by rw [heq]; rfl)⟩
  · rintro ⟨hhere, hrest⟩ before use' after heq
    rcases List.append_eq_cons_iff.mp heq.symm with ⟨rfl, hcons⟩ | ⟨before, rfl, heq⟩
    · cases hcons
      exact hhere
    · exact hrest before use' after (List.cons.inj heq).2

theorem isUndisturbed_append_iff : x.IsUndisturbed cwd (before ++ after) ↔
    x.IsUndisturbed cwd before ∧ (x.run cwd before).IsUndisturbed cwd after := by
  induction before generalizing x with
  | nil => exact ⟨fun h ↦ ⟨by simp [IsUndisturbed], h⟩, And.right⟩
  | cons use rest ih =>
    rw [List.cons_append, isUndisturbed_cons_iff, isUndisturbed_cons_iff, ih, and_assoc]
    rfl

/-- **Where nothing is disturbed**, the store is ready for the next use and the path goes on leading
where it led; the publisher is closed exactly by the first use that closes it. -/
theorem run_isReady (hready : x.IsReady cwd) (hharmless : ∀ use ∈ uses, use.IsHarmless)
    (hundisturbed : x.IsUndisturbed cwd uses) :
    (x.run cwd uses).IsReady cwd ∧
      (∀ place, x.LeadsTo cwd place → (x.run cwd uses).LeadsTo cwd place) ∧
      (x.run cwd uses).publisher.isClosed = (x.publisher.isClosed || uses.any Use.isClose) := by
  induction uses generalizing x with
  | nil => exact ⟨hready, fun _ h ↦ h, (Bool.or_false _).symm⟩
  | cons use rest ih =>
    obtain ⟨huse, hrest⟩ := List.forall_mem_cons.mp hharmless
    obtain ⟨hspares, hundisturbed⟩ := isUndisturbed_cons_iff.mp hundisturbed
    obtain ⟨hstores, hclosed⟩ := perform_stores hready huse hspares
    obtain ⟨hready', hleads, hclosed'⟩ := ih hstores.isReady hrest hundisturbed
    refine ⟨hready', fun place hplace ↦ hleads place (hstores.leadsTo place hplace), ?_⟩
    rw [List.any_cons, ← Bool.or_assoc, ← hclosed]
    exact hclosed'

/-- The messages that were delivered are stored in one file, which is where the path leads as soon
as one is there. -/
theorem archive_run (hready : x.IsReady cwd) (hharmless : ∀ use ∈ uses, use.IsHarmless)
    (hundisturbed : x.IsUndisturbed cwd uses)
    (hplace : ∀ q, (x.run cwd uses).LeadsTo cwd q → q = place) :
    (x.run cwd uses).archive place = (x.archive place).addAll (x.delivered cwd uses) := by
  induction uses generalizing x with
  | nil => rfl
  | cons use rest ih =>
    obtain ⟨huse, hrest⟩ := List.forall_mem_cons.mp hharmless
    obtain ⟨hspares, hundisturbed⟩ := isUndisturbed_cons_iff.mp hundisturbed
    obtain ⟨hstores, -⟩ := perform_stores hready huse hspares
    obtain ⟨-, hleads, -⟩ := run_isReady hstores.isReady hrest hundisturbed
    have hhere : (x.perform cwd use).1.archive place =
        (x.archive place).addAll (x.deliveredBy cwd use) := by
      by_cases hmessages : x.deliveredBy cwd use = []
      · rw [hmessages]
        exact hstores.archive_of_nil hmessages place
      · obtain ⟨q, hq⟩ := hstores.exists_place hmessages
        obtain rfl : q = place := hplace q (hleads q hq)
        exact hstores.archive_eq q hq
    rw [delivered, Archive.addAll_append, ← hhere]
    exact ih hstores.isReady hrest hundisturbed hplace

/-- An open publisher takes the message: it tells the listener once, and that the message was
delivered exactly if that is the last one stored now.  Otherwise the archive is as it was. -/
def Takes (x : Outlet σ) (cwd place : Place) (m : Message) (listener : Listener σ)
    (weather : Weather) : Prop :=
  ∃ y delivery, x.perform cwd (.send m listener weather) = (y, .ok ()) ∧
    x.heard cwd m weather = [delivery] ∧ y.caller = listener.tell delivery x.caller ∧
    x.Tells place m delivery y.toStore

/-- A closed publisher refuses the message: it changes nothing, and the listener hears nothing. -/
def Refuses (x : Outlet σ) (cwd : Place) (m : Message) (listener : Listener σ)
    (weather : Weather) : Prop :=
  (∃ path?, x.perform cwd (.send m listener weather) = (x, .error (.publisherClosed path?))) ∧
    x.heard cwd m weather = []

/-- A use that sends no message returns; it leaves the archive and calls nobody. -/
def Passes (x : Outlet σ) (cwd place : Place) (use : Use σ) : Prop :=
  ∃ y, x.perform cwd use = (y, .ok ()) ∧ y.archive place = x.archive place ∧ y.caller = x.caller

/-- A use is handled as it should be, `closed` telling whether the publisher should be closed. -/
def Obeys (x : Outlet σ) (cwd place : Place) (closed : Bool) : Use σ → Prop
  | .send m listener weather =>
    if closed then x.Refuses cwd m listener weather else x.Takes cwd place m listener weather
  | .close weather => x.Passes cwd place (.close weather)
  | .obstruct obstacle => x.Passes cwd place (.obstruct obstacle)

/-- The protocol, for a history of uses.  At every moment the messages that were heard to be
delivered are what was stored since the start, in their order, at the place where the path leads if
it leads to a file; and the next use is handled as it should be, where the publisher should be
closed as soon as a use was to close it. -/
structure Abides (x : Outlet σ) (cwd place : Place) (uses : List (Use σ)) : Prop where
  leadsTo : ∀ before after, uses = before ++ after →
    ∀ q, (x.run cwd before).LeadsTo cwd q → q = place
  archive_eq : ∀ before after, uses = before ++ after →
    (x.run cwd before).archive place = (x.archive place).addAll (x.delivered cwd before)
  obeys : ∀ before use after, uses = before ++ use :: after →
    (x.run cwd before).Obeys cwd place (x.publisher.isClosed || before.any Use.isClose) use

/-- A use that disturbs nothing is handled as it should be. -/
theorem obeys_of_spares (hready : x.IsReady cwd) (hharmless : use.IsHarmless)
    (hspares : x.waiting ≠ [] → use.Spares)
    (harchive : (x.perform cwd use).1.archive place =
      (x.archive place).addAll (x.deliveredBy cwd use)) :
    x.Obeys cwd place x.publisher.isClosed use := by
  cases use with
  | send m listener weather =>
    rw [Obeys]
    cases hclosed : x.publisher.isClosed with
    | true => exact perform_send_of_isClosed hclosed cwd m listener weather
    | false =>
      obtain ⟨delivery, hsend, -⟩ := Publisher.exists_delivery hclosed hready hharmless m
      obtain ⟨hperform, hheard⟩ := perform_send hsend listener
      rw [deliveredBy, hheard, hperform] at harchive
      simp only [List.mem_singleton] at harchive
      refine ⟨_, delivery, hperform, hheard, rfl, ⟨fun hd ↦ ?_, fun hadd ↦ ?_⟩, fun hne ↦ ?_⟩
      · rwa [if_pos hd.symm] at harchive
      · by_contra hne
        rw [if_neg (Ne.symm hne)] at harchive
        exact Archive.add_ne _ m (hadd.symm.trans harchive)
      · rwa [if_neg (Ne.symm hne)] at harchive
  | close weather =>
    have hwaiting : x.waiting = [] := by
      by_contra hne
      exact hspares hne
    obtain ⟨q, d, hclose, -, hstores⟩ := Publisher.exists_close hready hwaiting weather
    rw [Obeys, Passes, perform, hclose]
    exact ⟨_, rfl, hstores.archive_of_nil rfl place, rfl⟩
  | obstruct obstacle =>
    obtain ⟨⟨publisher, files⟩, caller⟩ := x
    cases publisher <;> exact ⟨_, rfl, rfl, rfl⟩

/-- **A use that disturbs what waits** is not handled as it should be. -/
theorem not_obeys_of_disturbs (hready : x.IsReady cwd) (hharmless : use.IsHarmless)
    (hwaiting : x.waiting ≠ []) (hdisturbs : ¬ use.Spares)
    (hplace : ∀ q, x.LeadsTo cwd q → q = place) :
    ¬ x.Obeys cwd place x.publisher.isClosed use := by
  have hopen : x.publisher.isClosed = false := by
    obtain ⟨⟨publisher, files⟩, caller⟩ := x
    cases publisher with
    | memory p => exact absurd rfl hwaiting
    | file p =>
      cases hp : p.handle? with
      | none => exact absurd (by rw [Store.waiting]; simp [hp]) hwaiting
      | some h => exact (hready.2.2 h hp).1
  cases use with
  | send m listener weather =>
    have hnext : weather.next? = none := by
      by_contra hne
      exact hdisturbs hne
    obtain ⟨delivery, hsend, -, htells⟩ := Publisher.exists_delivery hopen hready hharmless m
    obtain ⟨q, hq, hfalse⟩ := htells hwaiting hnext
    obtain rfl := hplace q hq
    rw [Obeys, hopen]
    rintro ⟨y, delivery', hperform, hheard, -, htrue⟩
    obtain ⟨hperform', hheard'⟩ := perform_send hsend listener
    cases hperform'.symm.trans hperform
    cases hheard'.symm.trans hheard
    exact hfalse htrue
  | close weather =>
    obtain ⟨q, hq, hchanges⟩ := Publisher.close_of_waiting hready hwaiting weather
    obtain rfl := hplace q hq
    rw [Obeys, Passes, perform]
    rintro ⟨y, hperform, hsame, -⟩
    rcases hclose : x.publisher.close { weather with files := x.files } with ⟨p, d, _ | e⟩
    · rw [hclose] at hperform
      cases hperform
      exact hchanges p d hclose hsame
    · rw [hclose] at hperform
      cases congrArg Prod.snd hperform
  | obstruct obstacle => exact absurd trivial hdisturbs

/-- A history that abides by the protocol disturbs nothing: up to its first use that did, nothing
would have been disturbed. -/
theorem Abides.isUndisturbed (h : x.Abides cwd place uses) (hready : x.IsReady cwd)
    (hharmless : ∀ use ∈ uses, use.IsHarmless) : x.IsUndisturbed cwd uses := by
  intro before
  induction hn : before.length using Nat.strong_induction_on generalizing before with
  | _ n ih =>
    subst hn
    intro use after heq hwaiting
    by_contra hdisturbs
    have hundisturbed : x.IsUndisturbed cwd before := by
      intro before' use' rest heq' hwaiting'
      refine ih before'.length ?_ before' rfl use' (rest ++ use :: after) ?_ hwaiting'
      · rw [heq', List.length_append, List.length_cons]
        omega
      · rw [heq, heq', List.append_assoc, List.cons_append]
    have hleads := h.leadsTo before (use :: after) heq
    have hobeys := h.obeys before use after heq
    rw [heq, List.forall_mem_append, List.forall_mem_cons] at hharmless
    obtain ⟨hbefore, huse, -⟩ := hharmless
    obtain ⟨hready', -, hclosed⟩ := run_isReady hready hbefore hundisturbed
    rw [← hclosed] at hobeys
    exact not_obeys_of_disturbs hready' huse hwaiting hdisturbs hleads hobeys

/-- A history that disturbs nothing abides by the protocol at the place where the path leads in the
end. -/
theorem IsUndisturbed.abides (h : x.IsUndisturbed cwd uses) (hready : x.IsReady cwd)
    (hharmless : ∀ use ∈ uses, use.IsHarmless)
    (hplace : ∀ q, (x.run cwd uses).LeadsTo cwd q → q = place) : x.Abides cwd place uses := by
  have hleads : ∀ before after, uses = before ++ after →
      ∀ q, (x.run cwd before).LeadsTo cwd q → q = place := by
    rintro before after rfl q hq
    rw [List.forall_mem_append] at hharmless
    rw [isUndisturbed_append_iff] at h
    obtain ⟨hready', -, -⟩ := run_isReady hready hharmless.1 h.1
    obtain ⟨-, hleads, -⟩ := run_isReady hready' hharmless.2 h.2
    rw [run_append] at hplace
    exact hplace q (hleads q hq)
  have harchive : ∀ before after, uses = before ++ after →
      (x.run cwd before).archive place = (x.archive place).addAll (x.delivered cwd before) := by
    intro before after heq
    refine archive_run hready ?_ ?_ (hleads before after heq)
    · exact fun use huse ↦ hharmless use (heq ▸ List.mem_append_left after huse)
    · exact (isUndisturbed_append_iff.mp (heq ▸ h)).1
  refine ⟨hleads, harchive, fun before use after heq ↦ ?_⟩
  have hspares := h before use after heq
  have hhere := harchive before (use :: after) heq
  have hnext := harchive (before ++ [use]) after (by rw [heq, List.append_assoc]; rfl)
  rw [heq, List.forall_mem_append, List.forall_mem_cons] at hharmless
  obtain ⟨hbefore, huse, -⟩ := hharmless
  obtain ⟨hundisturbed, -⟩ := isUndisturbed_append_iff.mp (heq ▸ h)
  obtain ⟨hready', -, hclosed⟩ := run_isReady hready hbefore hundisturbed
  rw [← hclosed]
  refine obeys_of_spares hready' huse hspares ?_
  -- what the use adds is what is stored after it beyond what was stored before it
  rw [delivered_append, Archive.addAll_append, ← hhere, run_append] at hnext
  simpa [run, delivered] using hnext

/-- A path leads to one file at most. -/
theorem exists_forall_leadsTo (w : Store) (cwd : Place) :
    ∃ place, ∀ q, w.LeadsTo cwd q → q = place := by
  by_cases hsome : ∃ place, w.LeadsTo cwd place
  · obtain ⟨place, hplace⟩ := hsome
    exact ⟨place, fun q hq ↦ hq.unique hplace⟩
  · exact ⟨[], fun q hq ↦ absurd ⟨q, hq⟩ hsome⟩

/-- **The protocol is kept exactly by the histories that leave what waits alone**, whatever the file
system refuses without changing a file.  Once a line waits, a message or an end of the publisher
that gets it written breaks the protocol, and so does an end that is refused. -/
theorem exists_abides_iff (hready : x.IsReady cwd) (hharmless : ∀ use ∈ uses, use.IsHarmless) :
    (∃ place, x.Abides cwd place uses) ↔ x.IsUndisturbed cwd uses := by
  constructor
  · rintro ⟨place, habides⟩
    exact habides.isUndisturbed hready hharmless
  · intro hundisturbed
    obtain ⟨place, hplace⟩ := exists_forall_leadsTo (x.run cwd uses).toStore cwd
    exact ⟨place, hundisturbed.abides hready hharmless hplace⟩

/-- Keeps what it is told. -/
def sampleListener : Listener (List Delivery) := some fun delivery log ↦ log ++ [delivery]

/-- The disk is full when a line is to be written. -/
def sampleWeather : Weather := { obstacles := [some .noSpace] }

/-- The file cannot be opened, but its directory was made before. -/
def sampleRefusal : Refusal :=
  ⟨⟨.tooManyFiles, "out/log"⟩, fun t ↦ (t.makeDirectories [] ⟨.relative, ["out"]⟩).1⟩

/-- An outlet that nobody has used. -/
def sampleOutlet : Outlet (List Delivery) := ⟨⟨.file FilePublisher.samplePublisher, .empty⟩, []⟩

/-- A message is refused, one is delivered, and the disk is full for two more. -/
def sampleUses : List (Use (List Delivery)) :=
  [.send ⟨"", "", ""⟩ sampleListener { refusal? := some sampleRefusal },
    .send FilePublisher.sampleMessage sampleListener {},
    .send ⟨"", "", ""⟩ sampleListener sampleWeather,
    .send FilePublisher.sampleMessage none sampleWeather]

/-- Once there is room on the disk again, what failed is written as well. -/
def lateUses : List (Use (List Delivery)) :=
  [.send ⟨"", "", ""⟩ sampleListener sampleWeather,
    .send FilePublisher.sampleMessage sampleListener {}]

theorem isReady_sampleOutlet : sampleOutlet.IsReady [] :=
  ⟨by decide, FileTree.leadsToFiles_empty _ _, nofun⟩

theorem isHarmless_sampleUses : ∀ use ∈ sampleUses, use.IsHarmless := by
  have hrefusal : ∀ t : FileTree, t.Keeps (sampleRefusal.leaving t) := fun t ↦
    t.keeps_makeDirectories _ _
  simp [sampleUses, Use.IsHarmless, Weather.IsHarmless, sampleWeather, hrefusal]

theorem isUndisturbed_sampleUses : sampleOutlet.IsUndisturbed [] sampleUses := by
  refine isUndisturbed_cons_iff.mpr ⟨fun h ↦ absurd (by decide +kernel) h, ?_⟩
  refine isUndisturbed_cons_iff.mpr ⟨fun h ↦ absurd (by decide +kernel) h, ?_⟩
  refine isUndisturbed_cons_iff.mpr ⟨fun h ↦ absurd (by decide +kernel) h, ?_⟩
  refine isUndisturbed_cons_iff.mpr ⟨fun _ ↦ by simp [Use.Spares, Weather.next?, sampleWeather], ?_⟩
  simp [IsUndisturbed]

theorem exists_abides_iff_sample : (∃ place, sampleOutlet.Abides [] place sampleUses) ∧
    ¬ ∃ place, sampleOutlet.Abides [] place lateUses := by
  have hharmless : ∀ use ∈ lateUses, use.IsHarmless := by
    simp [lateUses, Use.IsHarmless, Weather.IsHarmless, sampleWeather]
  refine ⟨(exists_abides_iff isReady_sampleOutlet isHarmless_sampleUses).mpr
    isUndisturbed_sampleUses, fun habides ↦ ?_⟩
  have hundisturbed := (exists_abides_iff isReady_sampleOutlet hharmless).mp habides
  exact hundisturbed [_] _ [] rfl (by decide +kernel) rfl

/-- A device that takes nothing. -/
def fullOutlet : Outlet (List Delivery) :=
  ⟨⟨.file { path := ⟨.root, ["dev", "full"]⟩ },
    FileTree.empty.plant ["dev", "full"] (.device .full) FileTree.fileRights⟩, []⟩

/-- The publisher does not let itself be closed: closing fails, and what comes later is not told
that it was closed. -/
theorem not_abides_fullOutlet : ¬ ∃ place, fullOutlet.Abides [] place
    [.send FilePublisher.sampleMessage sampleListener {}, .close {},
      .send FilePublisher.sampleMessage sampleListener {}] := by
  rintro ⟨place, habides⟩
  obtain ⟨y, hperform, -⟩ := habides.obeys [_] (.close {}) [_] rfl
  have hfails :
      ((fullOutlet.run [] [.send FilePublisher.sampleMessage sampleListener {}]).perform []
        (.close {})).2 = .error (.writing .noSpace) := by decide +kernel
  rw [hperform] at hfails
  cases hfails

end Outlet

end RevisionGraph
