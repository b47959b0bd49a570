import RevisionGraph.Proofs.Assembly.Renaming

/-!
# Facts in any order

The facts of an engine come in no particular order.  Whether they can be applied and a revision be
built does not depend on the order, and neither does the revision, up to the ids of its methods:
`Assembly.buildFrom_perm`.  The ids follow the order of the method facts alone.

A type that is named by two facts is left out of this: the later of the two says what is known of
it.
-/

set_option autoImplicit false

namespace RevisionGraph

open Result

namespace Facts

/-- The facts on lines, in the order of the lines. -/
def factsOn (lines : List String) : List Json := lines.filterMap onLine?

/-- The text under `uri`. -/
def uri? (fact : Json) : Option String :=
  match fact.member? "uri" with
  | some (.text s) => some s
  | _ => none

/-- What a type fact names. -/
def typeName? (fact : Json) : Option String := if isOfKind .type fact then uri? fact else none

variable {r : Reports} {facts facts' : List Json}

theorem uri?_of_readType {fact : Json} {e : Identifier × TypeInfo} (h : readType fact = .ok e) :
    uri? fact = some e.1.text := by
  rw [readType, bind_eq_ok_iff] at h
  obtain ⟨name, hname, h⟩ := h
  rw [bind_eq_ok_iff] at h
  obtain ⟨_, -, h⟩ := h
  rw [bind_eq_ok_iff] at h
  obtain ⟨_, -, h⟩ := h
  rw [bind_eq_ok_iff] at h
  obtain ⟨_, -, h⟩ := h
  cases h
  rw [identifierField, bind_eq_ok_iff] at hname
  obtain ⟨s, hs, hname⟩ := hname
  rw [Json.textField_eq_ok_iff] at hs
  rw [uri?, hs, Identifier.ofText_eq_ok_iff.mp hname]

/-- The types that facts report are the types that type facts name. -/
theorem Reports.AreOf.typeNames (h : r.AreOf facts) :
    facts.filterMap typeName? = (r.types.map Prod.fst).map Identifier.text := by
  have hnames := filterMap_eq_of_forall₂ (g := Identifier.text ∘ Prod.fst) h.types
    fun _ _ ↦ uri?_of_readType
  rw [List.map_map, ← hnames, List.filterMap_filter]
  rfl

/-- Facts in another order report the same in another order. -/
theorem Reports.AreOf.perm (h : r.AreOf facts) (hperm : facts.Perm facts') :
    ∃ r' : Reports, r'.AreOf facts' ∧ r.Perm r' ∧
      (facts.filter (isOfKind .method) = facts'.filter (isOfKind .method) →
        r.methods = r'.methods) := by
  obtain ⟨types, htypes, hptypes⟩ :=
    List.perm_comp_forall₂ (hperm.filter (isOfKind .type)).symm h.types
  obtain ⟨methods, hmethods, hpmethods⟩ :=
    List.perm_comp_forall₂ (hperm.filter (isOfKind .method)).symm h.methods
  obtain ⟨calls, hcalls, hpcalls⟩ :=
    List.perm_comp_forall₂ (hperm.filter (isOfKind .call)).symm h.calls
  refine ⟨⟨types, methods, calls⟩, ⟨htypes, hmethods, hcalls⟩,
    ⟨hptypes.symm, hpmethods.symm, hpcalls.symm⟩, fun hsame ↦ ?_⟩
  rw [← hsame, ← mapM_eq_ok_iff] at hmethods
  have hread := mapM_eq_ok_iff.mpr h.methods
  rw [hmethods] at hread
  cases hread
  rfl

end Facts

namespace Assembly

/-- The revision of a release, made from the facts on lines and nothing else. -/
def buildFrom (lines : List String) (release : Release) : Result Revision :=
  match empty.applyFacts lines with
  | (a, .ok _) => (a.build release).2
  | (_, .error e) => .error e

theorem buildFrom_eq_ok_iff {lines : List String} {release : Release} {x : Revision} :
    buildFrom lines release = .ok x ↔
      ∃ a, (∃ n, empty.applyFacts lines = (a, .ok n)) ∧ (a.build release).2 = .ok x := by
  rw [buildFrom]
  constructor
  · intro h
    split at h
    · next a n happly => exact ⟨a, ⟨n, happly⟩, h⟩
    · cases h
  · rintro ⟨a, ⟨n, happly⟩, hx⟩
    rw [happly]
    exact hx

/-- What is applied in one order is applied in another, and agrees. -/
theorem exists_applyFacts_perm {lines lines' : List String} (hperm : lines.Perm lines')
    (hnames : ((Facts.factsOn lines).filterMap Facts.typeName?).Nodup) {a : Assembly}
    (ha : ∃ n, empty.applyFacts lines = (a, .ok n)) :
    ∃ b, (∃ n, empty.applyFacts lines' = (b, .ok n)) ∧ a.Agrees b ∧ a.IsWellFormed ∧
      b.IsWellFormed ∧ ((Facts.factsOn lines).filter (Facts.isOfKind .method) =
        (Facts.factsOn lines').filter (Facts.isOfKind .method) → a.methodIds = b.methodIds) := by
  obtain ⟨hlines, r, hr, htake⟩ := applyFacts_eq_ok_iff.mp ha
  obtain ⟨r', hr', hrr', hmethods⟩ := hr.perm (hperm.filterMap Facts.onLine?)
  have htypes : (r.types.map Prod.fst).Nodup := by
    rw [Facts.factsOn, hr.typeNames] at hnames
    exact hnames.of_map _
  obtain ⟨b, htake', hagrees⟩ := take_perm hrr' htypes htake
  have hlines' : ∀ line ∈ lines', Text.trim line = "" ∨ (Facts.onLine? line).isSome :=
    fun line hline ↦ hlines line (hperm.mem_iff.mpr hline)
  exact ⟨b, applyFacts_eq_ok_iff.mpr ⟨hlines', r', hr', htake'⟩, hagrees, (take_spec htake).2.1,
    (take_spec htake').2.1, fun hsame ↦ methodIds_eq_of_take (hmethods hsame) htake htake'⟩

/-- What is built in one order is built in another. -/
theorem exists_buildFrom_perm {lines lines' : List String} (hperm : lines.Perm lines')
    (hnames : ((Facts.factsOn lines).filterMap Facts.typeName?).Nodup) {release : Release}
    {x : Revision} (hx : buildFrom lines release = .ok x) :
    ∃ y, buildFrom lines' release = .ok y ∧ ∃ r, Revision.IsRenaming r x y ∧
      ((Facts.factsOn lines).filter (Facts.isOfKind .method) =
          (Facts.factsOn lines').filter (Facts.isOfKind .method) →
        r = id ∧ x.sortInternal.encode = y.sortInternal.encode) := by
  obtain ⟨a, happly, hx⟩ := buildFrom_eq_ok_iff.mp hx
  obtain ⟨b, happly', hagrees, ha, hb, hids⟩ := exists_applyFacts_perm hperm hnames happly
  obtain ⟨y, hy, hrenaming⟩ := hagrees.exists_build ha hb hx
  exact ⟨y, buildFrom_eq_ok_iff.mpr ⟨b, happly', hy⟩, renameId a b, hrenaming, fun hsame ↦
    ⟨renameId_eq_self ha (hids hsame),
      hagrees.encode_sortInternal ha hb (hids hsame) hx hy⟩⟩

/-- **Facts may come in any order.**  Either no order of the lines makes a revision, or all orders
make the same one up to the ids of its methods; and if the method facts keep their order the ids are
the same too, and so is the sorted text. -/
theorem buildFrom_perm {lines lines' : List String} (hperm : lines.Perm lines')
    (hnames : ((Facts.factsOn lines).filterMap Facts.typeName?).Nodup) (release : Release) :
    (∃ e e', buildFrom lines release = .error e ∧ buildFrom lines' release = .error e') ∨
    ∃ x y, buildFrom lines release = .ok x ∧ buildFrom lines' release = .ok y ∧
      ∃ r, Revision.IsRenaming r x y ∧
        ((Facts.factsOn lines).filter (Facts.isOfKind .method) =
            (Facts.factsOn lines').filter (Facts.isOfKind .method) →
          r = id ∧ x.sortInternal.encode = y.sortInternal.encode) := by
  cases hx : buildFrom lines release with
  | ok x =>
    obtain ⟨y, hy, hrenaming⟩ := exists_buildFrom_perm hperm hnames hx
    exact .inr ⟨x, y, rfl, hy, hrenaming⟩
  | error e =>
    cases hy : buildFrom lines' release with
    | error e' => exact .inl ⟨e, e', rfl, rfl⟩
    | ok y =>
      -- a revision that the other order made would be made by this one too
      have hpnames := (hperm.filterMap Facts.onLine?).filterMap Facts.typeName?
      obtain ⟨x, hx', -⟩ := exists_buildFrom_perm hperm.symm (hpnames.nodup_iff.mp hnames) hy
      rw [hx] at hx'
      cases hx'

/-- A line on a type. -/
def sampleType : String := "\x7b\"kind\":\"type\",\"uri\":\"A\",\"sourceFile\":\"\"\x7d"

/-- A line on a method of the type. -/
def sampleMethod (name : String) : String :=
  "\x7b\"kind\":\"method\",\"type\":\"A\",\"uri\":\"" ++ name ++ "\"\x7d"

/-- A line on a call that leaves the type. -/
def sampleCall : String :=
  "\x7b\"kind\":\"call\",\"source\":\"m\",\"target\":\"k\",\"callType\":\"\"\x7d"

/-- A type, two methods and a call from one of them to a method elsewhere. -/
def sampleLines : List String := [sampleType, sampleMethod "m", sampleMethod "n", sampleCall]

/-- The same lines, the methods among them in the same order. -/
def sampleLines' : List String := [sampleCall, sampleMethod "m", sampleType, sampleMethod "n"]

/-- A release with all names. -/
def sampleRelease : Release := ⟨"mvn", "g:a", "1.0", "OPAL", -1, []⟩

theorem buildFrom_perm_sample : ∃ x y, buildFrom sampleLines sampleRelease = .ok x ∧
    buildFrom sampleLines' sampleRelease = .ok y ∧ Revision.IsRenaming id x y ∧
      x.sortInternal.encode = y.sortInternal.encode := by
  have hperm : sampleLines.Perm sampleLines' := by decide +kernel
  have hnames : ((Facts.factsOn sampleLines).filterMap Facts.typeName?).Nodup := by decide +kernel
  have hbuilt : (buildFrom sampleLines sampleRelease).isOk = true := by decide +kernel
  have horder : (Facts.factsOn sampleLines).filter (Facts.isOfKind .method) =
      (Facts.factsOn sampleLines').filter (Facts.isOfKind .method) := by decide +kernel
  rcases buildFrom_perm hperm hnames sampleRelease with
    ⟨e, -, he, -⟩ | ⟨x, y, hx, hy, r, hrenaming, hsame⟩
  · rw [he] at hbuilt
    cases hbuilt
  · obtain ⟨rfl, htext⟩ := hsame horder
    exact ⟨x, y, hx, hy, hrenaming, htext⟩

end Assembly

end RevisionGraph
