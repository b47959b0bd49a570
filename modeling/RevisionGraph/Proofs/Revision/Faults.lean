import RevisionGraph.Proofs.Json.Limits
import RevisionGraph.Proofs.Revision.Classification
import RevisionGraph.Proofs.Revision.Methods

/-!
# How reading a revision fails

A document that holds no revision is refused for its shape, or because its parts do not fit
together.  Besides, two things can go wrong that have nothing to do with either: a number may have
too many digits to be read, and bytes may be no text.  `Revision.decode_outcomes` says that there is
no third one, and where to look for the cause of the two.

* `Fault.Refuses`: a fault of shape, or a number of too many digits that can be pointed out.
* `Json.HasLongId`: where in a document such a number stands, which is a text there; the integers of
  a document are read before, from its text.
* `Revision.Settles`: what reading is expected to end in.
-/

set_option autoImplicit false

namespace RevisionGraph

open Result OrderedMap

/-! ## Numbers that are too long -/

/-- The fault is one of shape, or blames a number whose length `long` accounts for. -/
def Fault.Refuses (long : Nat → Prop) (e : Fault) : Prop :=
  (∃ cause, e = .format cause) ∨
    ∃ n, Text.digitLimit < n ∧ long n ∧ e = .conversion (.tooManyDigitsToRead n)

theorem Fault.Refuses.imp {long long' : Nat → Prop} (h : ∀ n, long n → long' n) (e : Fault) :
    e.Refuses long → e.Refuses long' := by
  rintro (hformat | ⟨n, hlimit, hlong, rfl⟩)
  · exact .inl hformat
  · exact .inr ⟨n, hlimit, h n hlong, rfl⟩

/-- What decides a shape refuses nothing else. -/
theorem Result.Decides.refuses {α : Type} {r : Result α} {p : Prop} (h : Decides r p)
    (long : Nat → Prop) : FailsWith r (Fault.Refuses long) :=
  h.failsWith.mono fun _ he ↦ .inl he

namespace Json

/-- The text is a run of `n` digits. -/
def IsDigitsOf (n : Nat) (s : String) : Prop := IsDigits s ∧ s.length = n

/-- A method of the document has a key of `n` digits, or an external call has a source of `n`
digits. -/
def HasLongId (v : Json) (n : Nat) : Prop :=
  (∃ type ∈ v.typeMembers, ∃ method ∈ type.2.methodMembers, IsDigitsOf n method.1) ∨
    ∃ graph items source rest, v.member? "graph" = some graph ∧
      graph.member? "externalCalls" = some (.array items) ∧
        .array (.text source :: rest) ∈ items ∧ IsDigitsOf n source

end Json

/-! ## The layers of a document -/

theorem MethodId.ofText_refuses (s : String) :
    FailsWith (ofText s) (Fault.Refuses fun n ↦ Json.IsDigitsOf n s) := by
  rw [ofText]
  split
  · next hdigits =>
    split
    · next hlong => exact .error (.inr ⟨s.length, hlong, ⟨hdigits, rfl⟩, rfl⟩)
    · exact .ok _
  · exact .error (.inl ⟨_, rfl⟩)

theorem MethodId.ofJson_refuses (v : Json) :
    FailsWith (ofJson v) (Fault.Refuses fun n ↦ ∃ s, v = .text s ∧ Json.IsDigitsOf n s) := by
  cases v with
  | int i => exact (ofJson_int_decides i).refuses _
  | text s => exact (ofText_refuses s).mono (Fault.Refuses.imp fun _ hn ↦ ⟨s, rfl, hn⟩)
  | _ => exact .error (.inl ⟨_, rfl⟩)

theorem TypeInfo.methodOfMember_refuses (m : String × Json) :
    FailsWith (methodOfMember m) (Fault.Refuses fun n ↦ Json.IsDigitsOf n m.1) :=
  ((Identifier.ofJson_decides m.2).refuses _).bind fun _ _ ↦
    (MethodId.ofText_refuses m.1).bind fun _ _ ↦ .ok _

theorem TypeInfo.ofJson_refuses (v : Json) : FailsWith (ofJson v)
    (Fault.Refuses fun n ↦ ∃ method ∈ v.methodMembers, Json.IsDigitsOf n method.1) := by
  have hnames : ∀ items : List Json, FailsWith (items.mapM Identifier.ofJson)
      (Fault.Refuses fun n ↦ ∃ method ∈ v.methodMembers, Json.IsDigitsOf n method.1) :=
    fun items ↦ .mapM fun item _ ↦ (Identifier.ofJson_decides item).refuses _
  refine (Json.textField_decides.refuses _).bind fun _ _ ↦ ?_
  refine (Json.objectField_decides.refuses _).bind fun members hmembers ↦ ?_
  have hmethods : v.methodMembers = members :=
    Json.membersUnder_eq (Json.objectField_eq_ok_iff.mp hmembers)
  refine FailsWith.bind (.mapM fun m hm ↦ ?_) fun _ _ ↦ ?_
  · exact (methodOfMember_refuses m).mono (Fault.Refuses.imp fun _ hn ↦ ⟨m, hmethods ▸ hm, hn⟩)
  refine (Json.arrayField_decides.refuses _).bind fun classes _ ↦ (hnames classes).bind fun _ _ ↦ ?_
  refine (Json.arrayField_decides.refuses _).bind fun interfaces _ ↦ ?_
  exact (hnames interfaces).bind fun _ _ ↦ .ok _

theorem Hierarchy.ofMembers_refuses (members : List (String × Json)) : FailsWith (ofMembers members)
    (Fault.Refuses fun n ↦ ∃ type ∈ members, ∃ method ∈ type.2.methodMembers,
      Json.IsDigitsOf n method.1) := by
  refine FailsWith.bind (.mapM fun m hm ↦ ?_) fun _ _ ↦ .ok _
  refine FailsWith.bind ((TypeInfo.ofJson_refuses m.2).mono ?_) fun _ _ ↦ ?_
  · exact Fault.Refuses.imp fun _ hn ↦ ⟨m, hm, hn⟩
  · exact ((Identifier.ofText_decides m.1).refuses _).bind fun _ _ ↦ .ok _

theorem externalOfJson_refuses (v : Json) : FailsWith (externalOfJson v)
    (Fault.Refuses fun n ↦ ∃ source rest, v = .array (.text source :: rest) ∧
      Json.IsDigitsOf n source) := by
  rw [externalOfJson.eq_def]
  split
  · next number name counts =>
    refine ((Count.mapM_ofMember_decides counts).refuses _).bind fun _ _ ↦ ?_
    refine FailsWith.bind ((MethodId.ofJson_refuses number).mono ?_) fun _ _ ↦ ?_
    · refine Fault.Refuses.imp ?_
      rintro n ⟨s, rfl, hn⟩
      exact ⟨s, _, rfl, hn⟩
    · exact ((Identifier.ofJson_decides name).refuses _).bind fun _ _ ↦ .ok _
  · exact .error (.inl ⟨_, rfl⟩)
  · exact .error (.inl ⟨_, rfl⟩)

theorem CallGraph.ofJson_refuses (v : Json) : FailsWith (ofJson v)
    (Fault.Refuses fun n ↦ ∃ items source rest, v.member? "externalCalls" = some (.array items) ∧
      .array (.text source :: rest) ∈ items ∧ Json.IsDigitsOf n source) := by
  refine (Json.arrayField_decides.refuses _).bind fun internal _ ↦ ?_
  refine (Json.arrayField_decides.refuses _).bind fun external hexternal ↦ ?_
  refine FailsWith.bind (.mapM fun item _ ↦ ?_) fun _ _ ↦ ?_
  · exact (InternalCall.ofJson_decides item).refuses _
  refine FailsWith.bind (.foldlM (fun m item hitem ↦ ?_) _) fun _ _ ↦ .ok _
  refine FailsWith.bind ((externalOfJson_refuses item).mono ?_) fun e _ ↦ ?_
  · refine Fault.Refuses.imp ?_
    rintro n ⟨source, rest, rfl, hn⟩
    exact ⟨external, source, rest, Json.arrayField_eq_ok_iff.mp hexternal, hitem, hn⟩
  · obtain ⟨key, tally⟩ := e
    simp only
    split
    · exact .error (.inl ⟨_, rfl⟩)
    · exact .ok _

namespace Revision

/-- The parts of a document are refused for its shape, or for a number that is too long. -/
theorem partsOfJson_refuses (v : Json) :
    FailsWith (partsOfJson v) (Fault.Refuses v.HasLongId) := by
  refine ((headerOfJson_decides v).refuses _).bind fun _ _ ↦ ?_
  refine ((timeOfJson_decides v).refuses _).bind fun _ _ ↦ ?_
  refine (Json.arrayField_decides.refuses _).bind fun groups _ ↦ ?_
  refine ((Dependencies.ofItems_decides groups).refuses _).bind fun _ _ ↦ ?_
  refine (Json.objectField_decides.refuses _).bind fun members hmembers ↦ ?_
  have htypes : v.typeMembers = members :=
    Json.membersUnder_eq (Json.objectField_eq_ok_iff.mp hmembers)
  refine FailsWith.bind ((Hierarchy.ofMembers_refuses members).mono ?_) fun _ _ ↦ ?_
  · exact Fault.Refuses.imp fun _ hn ↦ .inl (htypes ▸ hn)
  refine ((Json.field_decides .object).refuses _).bind fun graph hgraph ↦ ?_
  refine FailsWith.bind ((CallGraph.ofJson_refuses graph).mono ?_) fun _ _ ↦ .ok _
  refine Fault.Refuses.imp ?_
  rintro n ⟨items, source, rest, hitems, hmem, hn⟩
  exact .inr ⟨graph, items, source, rest, (Json.field_eq_ok_iff.mp hgraph).1, hitems, hmem, hn⟩

/-! ## Outcomes -/

/-- Reading gave a valid revision, or refused the shape of the document, or its parts. -/
def Settles (x : Result Revision) : Prop :=
  (∃ r, x = .ok r ∧ r.validate = .ok ()) ∨ (∃ cause, x = .error (.format cause)) ∨
    ∃ cause, x = .error (.invariant cause)

/-- The reading failed at a number whose length `long` accounts for, and which is too long. -/
def Exceeds (long : Nat → Prop) (x : Result Revision) : Prop :=
  ∃ n, Text.digitLimit < n ∧ long n ∧ x = .error (.conversion (.tooManyDigitsToRead n))

theorem Settles.not_exceeds {x : Result Revision} {long : Nat → Prop} (h : Settles x) :
    ¬ Exceeds long x := by
  rintro ⟨n, -, -, rfl⟩
  obtain ⟨r, ⟨⟩, -⟩ | ⟨cause, ⟨⟩⟩ | ⟨cause, ⟨⟩⟩ := h

/-- Where every number is short, nothing is met that is too long. -/
theorem not_exceeds_of_short {x : Result Revision} {long : Nat → Prop}
    (h : ∀ n, long n → n ≤ Text.digitLimit) : ¬ Exceeds long x := by
  rintro ⟨n, hlimit, hlong, -⟩
  exact Nat.not_lt.mpr (h n hlong) hlimit

theorem settles_iff_not_exceeds {x : Result Revision} {long : Nat → Prop}
    (h : Settles x ∨ Exceeds long x) : Settles x ↔ ¬ Exceeds long x :=
  ⟨Settles.not_exceeds, h.resolve_right⟩

theorem ofJson_outcomes (v : Json) : Settles (ofJson v) ∨ Exceeds v.HasLongId (ofJson v) := by
  cases hparts : partsOfJson v with
  | error e =>
    have hread : ofJson v = .error e := by
      rw [ofJson, hparts]
      rfl
    rw [hread]
    rcases partsOfJson_refuses v e hparts with ⟨cause, rfl⟩ | ⟨n, hlimit, hlong, rfl⟩
    · exact .inl (.inr (.inl ⟨cause, rfl⟩))
    · exact .inr ⟨n, hlimit, hlong, rfl⟩
  | ok p =>
    have hread : ofJson v = p.revision := by
      rw [ofJson, hparts]
      rfl
    rw [hread]
    rcases p.revision_cases with ⟨hvalid, hok⟩ | ⟨-, cause, herror⟩
    · exact .inl (.inl ⟨_, hok, validate_eq_ok_iff.mpr hvalid⟩)
    · exact .inl (.inr (.inr ⟨cause, herror⟩))

/-- A number of `n` digits is in the text: an integer, or an id in the document that it holds. -/
def HoldsNumber (text : String) (n : Nat) : Prop :=
  Json.HasDigits n text.toList ∨ ∃ v, Json.readUnmarked text = .ok v ∧ v.HasLongId n

/-- Why a text is not JSON is a fault of shape, or a number that is too long. -/
theorem refuses_of_misread {wrap : String → FormatFault} {m : Json.Misread} {text : String}
    (h : ∀ n, m = .tooManyDigits n → Text.digitLimit < n ∧ Json.HasDigits n text.toList) :
    (m.fault wrap).Refuses fun n ↦ Json.HasDigits n text.toList := by
  cases m with
  | malformed defect line column position => exact .inl ⟨_, rfl⟩
  | tooManyDigits n => exact .inr ⟨n, (h n rfl).1, (h n rfl).2, rfl⟩

/-- What a text that was read as JSON, or was not, leads to. -/
theorem outcomes_of_readUnmarked {text : String} {data : Result Json}
    (hok : ∀ v, data = .ok v → Json.readUnmarked text = .ok v)
    (hfail : ∀ e, data = .error e → e.Refuses fun n ↦ Json.HasDigits n text.toList) :
    Settles (data >>= ofJson) ∨ Exceeds (HoldsNumber text) (data >>= ofJson) := by
  cases data with
  | ok v =>
    rcases ofJson_outcomes v with hsettles | ⟨n, hlimit, hlong, heq⟩
    · exact .inl hsettles
    · exact .inr ⟨n, hlimit, .inr ⟨v, hok v rfl, hlong⟩, heq⟩
  | error e =>
    rcases hfail e rfl with ⟨cause, rfl⟩ | ⟨n, hlimit, hdigits, rfl⟩
    · exact .inl (.inr (.inl ⟨cause, rfl⟩))
    · exact .inr ⟨n, hlimit, .inl hdigits, rfl⟩

theorem decode_cases (text : String) :
    Settles (decode text) ∨ Exceeds (HoldsNumber text) (decode text) := by
  refine outcomes_of_readUnmarked (fun v hv ↦ ?_) fun e he ↦ ?_
  · rw [readJson] at hv
    split at hv <;> cases hv
    next hread => exact Json.readUnmarked_of_read hread
  · rw [readJson] at he
    split at he <;> cases he
    next hread => exact refuses_of_misread fun n hn ↦ Json.tooManyDigits_of_read (hn ▸ hread)

theorem decodeBytes_cases {bytes : Text.Bytes} {text : String}
    (htext : Text.decodeDetected bytes = .ok text) :
    Settles (decodeBytes bytes) ∨ Exceeds (HoldsNumber text) (decodeBytes bytes) := by
  refine outcomes_of_readUnmarked (fun v hv ↦ ?_) fun e he ↦ ?_
  · rw [readBytes, htext] at hv
    simp only at hv
    split at hv <;> cases hv
    next hread => exact hread
  · rw [readBytes, htext] at he
    simp only at he
    split at he <;> cases he
    next hread =>
      exact refuses_of_misread fun n hn ↦ Json.tooManyDigits_of_readUnmarked (hn ▸ hread)

/-- **How reading a text or bytes ends.**  A text in which every number is short gives a valid
revision, or is refused for its shape or because its parts do not fit together; any other does so
unless a number is met that is too long to be read.  Bytes that are text in their charset fare like
a text, and others are reported for what they are. -/
theorem decode_outcomes (text : String) (bytes : Text.Bytes) :
    ((∀ n, HoldsNumber text n → n ≤ Text.digitLimit) → Settles (decode text)) ∧
    (Settles (decode text) ↔ ¬ Exceeds (HoldsNumber text) (decode text)) ∧
    (∀ e, Text.decodeDetected bytes = .error e →
      decodeBytes bytes = .error (.conversion (.undecodable e))) ∧
    ∀ content, Text.decodeDetected bytes = .ok content →
      ((∀ n, HoldsNumber content n → n ≤ Text.digitLimit) → Settles (decodeBytes bytes)) ∧
      (Settles (decodeBytes bytes) ↔ ¬ Exceeds (HoldsNumber content) (decodeBytes bytes)) := by
  have htext := settles_iff_not_exceeds (decode_cases text)
  refine ⟨fun hshort ↦ htext.mpr (not_exceeds_of_short hshort), htext, fun e he ↦ ?_,
    fun content hcontent ↦ ?_⟩
  · rw [decodeBytes, readBytes, he]
    rfl
  · have hbytes := settles_iff_not_exceeds (decodeBytes_cases hcontent)
    exact ⟨fun hshort ↦ hbytes.mpr (not_exceeds_of_short hshort), hbytes⟩

/-- A text of one digit holds no number that is longer. -/
theorem le_one_of_holdsNumber {n : Nat} (h : HoldsNumber "1" n) : n ≤ 1 := by
  rcases h with ⟨digits, hinfix, rfl, -⟩ | ⟨v, hread, hlong⟩
  · exact hinfix.length_le
  · have hone : Json.readUnmarked "1" = .ok (.int 1) := by decide +kernel
    cases hone.symm.trans hread
    rcases hlong with ⟨type, htype, -⟩ | ⟨graph, items, source, rest, hgraph, -⟩
    · cases htype
    · cases hgraph

theorem decode_outcomes_sample : Settles (decode "1") ∧ Settles (decodeBytes [0x31]) ∧
    decodeBytes [0xff] =
      .error (.conversion (.undecodable ⟨.utf8, 0xff, 0, 1, .invalidStart⟩)) := by
  have hshort : ∀ n, HoldsNumber "1" n → n ≤ Text.digitLimit := fun n hn ↦
    (le_one_of_holdsNumber hn).trans (by decide)
  have hcontent : Text.decodeDetected [0x31] = .ok "1" := by decide +kernel
  have hbytes : Text.decodeDetected [0xff] = .error ⟨.utf8, 0xff, 0, 1, .invalidStart⟩ := by
    decide +kernel
  obtain ⟨htext, -, hundecodable, -⟩ := decode_outcomes "1" [0xff]
  obtain ⟨-, -, -, hdecodable⟩ := decode_outcomes "1" [0x31]
  exact ⟨htext hshort, (hdecodable "1" hcontent).1 hshort, hundecodable _ hbytes⟩

/-- A text of one integer that has one digit too many. -/
def longText : String := String.ofList (List.replicate (Text.digitLimit + 1) '1')

/-- **Reading need not settle**: bytes may be no text, and integers too long. -/
theorem exists_unsettled : ¬ Settles (decodeBytes [0xff]) ∧ ¬ Settles (decode longText) := by
  have hbytes : decodeBytes [0xff] =
      .error (.conversion (.undecodable ⟨.utf8, 0xff, 0, 1, .invalidStart⟩)) := by decide +kernel
  have htext : decode longText =
      .error (.conversion (.tooManyDigitsToRead (Text.digitLimit + 1))) := by
    have hread : Json.read longText = .error (.tooManyDigits (Text.digitLimit + 1)) := by
      have hlength : (List.replicate Text.digitLimit '1').length = Text.digitLimit := by simp
      rw [longText, List.replicate_succ, Json.read_of_tooManyDigits ?_ (by decide) ?_, hlength]
      · rw [← List.replicate_succ]
        intro c hc
        rw [List.eq_of_mem_replicate hc]
        decide
      · rw [hlength]
        exact Nat.lt_succ_self _
    rw [decode, readJson, hread]
    rfl
  rw [hbytes, htext]
  constructor
  · rintro (⟨r, ⟨⟩, -⟩ | ⟨cause, ⟨⟩⟩ | ⟨cause, ⟨⟩⟩)
  · rintro (⟨r, ⟨⟩, -⟩ | ⟨cause, ⟨⟩⟩ | ⟨cause, ⟨⟩⟩)

end Revision

end RevisionGraph
