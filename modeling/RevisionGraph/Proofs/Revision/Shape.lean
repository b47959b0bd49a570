import RevisionGraph.Proofs.Revision.Reading

/-!
# The shape of documents

What a document must look like to be read, layer by layer, without a word on how it is read:
`Json.IsIdentifier`, `Json.IsType`, `Json.IsInternalCall`, `Json.IsExternalCall`, `Json.IsGraph` and
at last `Json.IsRevision`.  Beside each stands what its reader decides, which ends in
`Revision.partsOfJson_decides`.

Texts of digits have to be short enough to be read as numbers, `Json.HasShortNumbers`; a longer one
is refused for its length and not for its shape.
-/

set_option autoImplicit false

namespace RevisionGraph

open Result OrderedMap

/-! ## Identifiers and numbers -/

namespace Json

/-- A text that names something. -/
def IsName (s : String) : Prop := s ≠ "" ∧ s.toList.any Text.isBlank = false

/-- The value is the text of an identifier. -/
def IsIdentifier (v : Json) : Prop := ∃ s, v = .text s ∧ IsName s

/-- A text of ASCII digits. -/
def IsDigits (s : String) : Prop := Text.isDecimal s.toList = true

/-- The number that an integer or a text of digits denotes, if it is not negative. -/
def IsNumber (v : Json) (n : Int) : Prop :=
  v = .int n ∧ 0 ≤ n ∨ ∃ s, v = .text s ∧ IsDigits s ∧ n = Text.readDecimal s.toList

/-- Texts of digits are short enough to be read. -/
def isShortText (s : String) : Bool := !Text.isDecimal s.toList || s.length ≤ Text.digitLimit

/-- The value itself, leaving out what is in it, holds no number that is too long. -/
def isShortNumber : Json → Bool
  | .int i => Text.isWritable i
  | .text s => isShortText s
  | .object members => members.all fun m ↦ isShortText m.1
  | _ => true

/-- No integer, text of digits or key of digits in the value has more than `Text.digitLimit`
digits. -/
def HasShortNumbers (v : Json) : Prop := everywhere isShortNumber v = true

instance (v : Json) : Decidable v.HasShortNumbers := inferInstanceAs (Decidable (_ = true))

theorem isShortText_iff {s : String} :
    isShortText s = true ↔ (IsDigits s → s.length ≤ Text.digitLimit) := by
  rw [isShortText, IsDigits, Bool.or_eq_true, decide_eq_true_eq, Bool.not_eq_true', imp_iff_not_or,
    Bool.not_eq_true]

theorem hasShortNumbers_array_iff {items : List Json} :
    (array items).HasShortNumbers ↔ ∀ v ∈ items, v.HasShortNumbers := by
  simp only [HasShortNumbers, everywhere_array_iff, isShortNumber, true_and]

theorem hasShortNumbers_object_iff {members : List (String × Json)} :
    (object members).HasShortNumbers ↔
      ∀ m ∈ members, isShortText m.1 = true ∧ m.2.HasShortNumbers := by
  rw [HasShortNumbers, everywhere_object_iff, isShortNumber, List.all_eq_true]
  exact ⟨fun h m hm ↦ ⟨h.1 m hm, h.2 m hm⟩, fun h ↦ ⟨fun m hm ↦ (h m hm).1, fun m hm ↦ (h m hm).2⟩⟩

theorem IsNumber.unique {v : Json} {n n' : Int} (h : v.IsNumber n) (h' : v.IsNumber n') :
    n = n' := by
  rcases h with ⟨rfl, -⟩ | ⟨s, rfl, -, rfl⟩ <;> rcases h' with ⟨heq, -⟩ | ⟨s', heq, -, rfl⟩
  · exact Json.int.inj heq
  · cases heq
  · cases heq
  · rw [Json.text.inj heq]

end Json

theorem Identifier.ofText_decides (s : String) : Decides (ofText s) (Json.IsName s) := by
  rw [ofText]
  split_ifs with hempty hblank
  · exact .wrongShape _ fun h ↦ h.1 hempty
  · exact .wrongShape _ fun h ↦ Bool.false_ne_true (h.2.symm.trans hblank)
  · exact .ok _ ⟨hempty, Bool.not_eq_true _ ▸ hblank⟩

theorem Identifier.ofJson_decides (v : Json) : Decides (ofJson v) v.IsIdentifier := by
  cases v with
  | text s => exact (ofText_decides s).congr (by simp [Json.IsIdentifier])
  | _ => exact .wrongShape _ (by rintro ⟨_, ⟨⟩, _⟩)

theorem MethodId.ofText_decides {s : String} (hshort : Json.isShortText s = true) :
    Decides (ofText s) (Json.IsDigits s) := by
  rw [ofText]
  split
  · next hdigits =>
    rw [if_neg (Nat.not_lt.mpr (Json.isShortText_iff.mp hshort hdigits))]
    exact .ok _ hdigits
  · next hdigits => exact .wrongShape _ hdigits

theorem MethodId.ofJson_int_decides (i : Int) : Decides (ofJson (.int i)) (0 ≤ i) := by
  rw [ofJson]
  split
  · next hneg => exact .wrongShape _ (Int.not_le.mpr hneg)
  · next hpos => exact .ok i (Int.not_lt.mp hpos)

theorem MethodId.ofJson_decides {v : Json} (hshort : v.HasShortNumbers) :
    Decides (ofJson v) (∃ n, v.IsNumber n) := by
  cases v with
  | int i =>
    refine (ofJson_int_decides i).congr ?_
    constructor
    · exact fun hpos ↦ ⟨i, .inl ⟨rfl, hpos⟩⟩
    · rintro ⟨_, ⟨heq, hpos⟩ | ⟨_, heq, -⟩⟩ <;> cases heq
      exact hpos
  | text s =>
    refine (ofText_decides (Json.of_everywhere hshort)).congr ?_
    constructor
    · exact fun hdigits ↦ ⟨_, .inr ⟨s, rfl, hdigits, rfl⟩⟩
    · rintro ⟨_, ⟨heq, -⟩ | ⟨_, heq, hdigits, -⟩⟩ <;> cases heq
      exact hdigits
  | _ =>
    refine .wrongShape _ ?_
    rintro ⟨_, ⟨heq, -⟩ | ⟨_, heq, -⟩⟩ <;> cases heq

/-- The id that a value denotes is the number it denotes. -/
theorem MethodId.isNumber_of_ofJson {v : Json} {id : MethodId} (h : ofJson v = .ok id) :
    v.IsNumber id := by
  cases v with
  | int i =>
    have hpos := nonneg_of_ofJson h
    rw [ofJson] at h
    split at h <;> cases h
    exact .inl ⟨rfl, hpos⟩
  | text s =>
    obtain ⟨hdigits, -, hid⟩ := ofText_eq_ok_iff.mp h
    exact .inr ⟨s, rfl, hdigits, hid⟩
  | _ => cases h

/-! ## Types -/

namespace Json

/-- The member under `key` is an array of identifiers. -/
def HasIdentifiers (key : String) (v : Json) : Prop :=
  ∃ items, v.member? key = some (.array items) ∧ ∀ item ∈ items, item.IsIdentifier

/-- A type: its file, its methods under texts of digits, and its ancestors. -/
structure IsType (v : Json) : Prop where
  sourceFile : ∃ s, v.member? "sourceFile" = some (.text s)
  methods : ∃ members, v.member? "methods" = some (.object members) ∧
    ∀ m ∈ members, IsDigits m.1 ∧ m.2.IsIdentifier
  superClasses : v.HasIdentifiers "superClasses"
  superInterfaces : v.HasIdentifiers "superInterfaces"

end Json

theorem TypeInfo.methodOfMember_decides {m : String × Json} (hshort : Json.isShortText m.1 = true) :
    Decides (methodOfMember m) (Json.IsDigits m.1 ∧ m.2.IsIdentifier) := by
  have hname := Identifier.ofJson_decides m.2
  have hid := MethodId.ofText_decides hshort
  refine hname.bind And.right fun name hnameok ↦ hid.bind And.left fun id hidok ↦ ?_
  exact .ok (id, name) ⟨hid.iff_ok.mpr ⟨id, hidok⟩, hname.iff_ok.mpr ⟨name, hnameok⟩⟩

/-- The identifiers under a key are read once the array is there. -/
theorem Json.HasIdentifiers.decides {v : Json} {key : String} {items : List Json}
    (hitems : v.member? key = some (.array items)) :
    Decides (items.mapM Identifier.ofJson) (v.HasIdentifiers key) := by
  refine (Decides.mapM fun item _ ↦ Identifier.ofJson_decides item).congr ?_
  simp [HasIdentifiers, hitems]

theorem TypeInfo.ofJson_decides {v : Json} (hshort : v.HasShortNumbers) :
    Decides (ofJson v) v.IsType := by
  refine Json.textField_decides.bind Json.IsType.sourceFile fun file hfile ↦ ?_
  rw [Json.textField_eq_ok_iff] at hfile
  refine Json.objectField_decides.bind (fun h ↦ ?_) fun members hmembers ↦ ?_
  · obtain ⟨members, hmembers, -⟩ := h.methods
    exact ⟨members, hmembers⟩
  rw [Json.objectField_eq_ok_iff] at hmembers
  have hmethods : Decides (members.mapM methodOfMember)
      (∀ m ∈ members, Json.IsDigits m.1 ∧ m.2.IsIdentifier) := by
    have hkeys := Json.hasShortNumbers_object_iff.mp (Json.everywhere_of_member? hshort hmembers)
    exact .mapM fun m hm ↦ methodOfMember_decides (hkeys m hm).1
  refine hmethods.bind (fun h ↦ (Json.exists_object_iff hmembers).mp h.methods) fun l hl ↦ ?_
  refine Json.arrayField_decides.bind (fun h ↦ ?_) fun classes hclasses ↦ ?_
  · obtain ⟨items, hitems, -⟩ := h.superClasses
    exact ⟨items, hitems⟩
  have hsuper := Json.HasIdentifiers.decides (Json.arrayField_eq_ok_iff.mp hclasses)
  refine hsuper.bind Json.IsType.superClasses fun names hnames ↦ ?_
  refine Json.arrayField_decides.bind (fun h ↦ ?_) fun interfaces hinterfaces ↦ ?_
  · obtain ⟨items, hitems, -⟩ := h.superInterfaces
    exact ⟨items, hitems⟩
  have hsuper' := Json.HasIdentifiers.decides (Json.arrayField_eq_ok_iff.mp hinterfaces)
  refine hsuper'.bind Json.IsType.superInterfaces fun names' hnames' ↦ ?_
  exact .ok _ {
    sourceFile := ⟨file, hfile⟩
    methods := ⟨members, hmembers, hmethods.iff_ok.mpr ⟨l, hl⟩⟩
    superClasses := hsuper.iff_ok.mpr ⟨names, hnames⟩
    superInterfaces := hsuper'.iff_ok.mpr ⟨names', hnames'⟩ }

/-! ## Hierarchies -/

/-- The types of a document, under the identifiers that name them. -/
def Json.AreTypes (members : List (String × Json)) : Prop :=
  ∀ m ∈ members, IsName m.1 ∧ m.2.IsType

theorem Hierarchy.ofMembers_decides {members : List (String × Json)}
    (hshort : ∀ m ∈ members, m.2.HasShortNumbers) :
    Decides (ofMembers members) (Json.AreTypes members) := by
  have htypes : Decides (members.mapM typeOfMember) (Json.AreTypes members) := by
    refine .mapM fun m hm ↦ ?_
    have hinfo := TypeInfo.ofJson_decides (hshort m hm)
    have hname := Identifier.ofText_decides m.1
    refine hinfo.bind And.right fun info hinfook ↦ hname.bind And.left fun name hnameok ↦ ?_
    exact .ok _ ⟨hname.iff_ok.mpr ⟨name, hnameok⟩, hinfo.iff_ok.mpr ⟨info, hinfook⟩⟩
  exact htypes.bind id fun l hl ↦ .ok _ (htypes.iff_ok.mpr ⟨l, hl⟩)

/-! ## Calls -/

namespace Json

/-- A pair of ids. -/
def IsInternalCall (v : Json) (source target : Int) : Prop :=
  v = .array [.int source, .int target] ∧ 0 ≤ source ∧ 0 ≤ target

/-- A source, a target and the counts of calls, each a text of digits. -/
def IsExternalCall (v : Json) (source : Int) (target : String) : Prop :=
  ∃ number counts, v = .array [number, .text target, .object counts] ∧ number.IsNumber source ∧
    IsName target ∧ ∀ m ∈ counts, ∃ s, m.2 = .text s ∧ IsDigits s

/-- A graph: its internal calls, and its external calls, no two of one source and target. -/
structure IsGraph (v : Json) : Prop where
  internalCalls : ∃ items, v.member? "internalCalls" = some (.array items) ∧
    ∀ item ∈ items, ∃ source target, item.IsInternalCall source target
  externalCalls : ∃ items, v.member? "externalCalls" = some (.array items) ∧
    (∀ item ∈ items, ∃ source target, item.IsExternalCall source target) ∧
    items.Pairwise fun item item' ↦ ∀ source target, item.IsExternalCall source target →
      ¬ item'.IsExternalCall source target

theorem IsExternalCall.unique {v : Json} {source source' : Int} {target target' : String}
    (h : v.IsExternalCall source target) (h' : v.IsExternalCall source' target') :
    source = source' ∧ target = target' := by
  obtain ⟨number, counts, rfl, hnumber, -⟩ := h
  obtain ⟨number', counts', heq, hnumber', -⟩ := h'
  cases heq
  exact ⟨hnumber.unique hnumber', rfl⟩

end Json

theorem InternalCall.ofJson_decides (v : Json) :
    Decides (ofJson v) (∃ source target, v.IsInternalCall source target) := by
  rw [ofJson.eq_def]
  split
  · next source target =>
    have hs := MethodId.ofJson_int_decides source
    have ht := MethodId.ofJson_int_decides target
    refine hs.bind ?_ fun a ha ↦ ht.bind ?_ fun b hb ↦ ?_
    · rintro ⟨_, _, heq, hpos, -⟩
      cases heq
      exact hpos
    · rintro ⟨_, _, heq, -, hpos⟩
      cases heq
      exact hpos
    · exact .ok _ ⟨source, target, rfl, hs.iff_ok.mpr ⟨a, ha⟩, ht.iff_ok.mpr ⟨b, hb⟩⟩
  · next hno =>
    refine .wrongShape _ ?_
    rintro ⟨source, target, heq, -⟩
    cases heq
    exact hno source target rfl rfl
  · next hno =>
    refine .wrongShape _ ?_
    rintro ⟨_, _, heq, -⟩
    exact hno _ _ heq

/-- An internal call that was read has its source and its target. -/
theorem InternalCall.isInternalCall_of_ofJson {v : Json} {c : InternalCall}
    (h : ofJson v = .ok c) : v.IsInternalCall c.source c.target := by
  rw [ofJson.eq_def] at h
  split at h
  · rw [bind_eq_ok_iff] at h
    obtain ⟨source, hsource, h⟩ := h
    rw [bind_eq_ok_iff] at h
    obtain ⟨target, htarget, h⟩ := h
    cases h
    rcases MethodId.isNumber_of_ofJson hsource with ⟨heq, hs⟩ | ⟨_, heq, -⟩ <;> cases heq
    rcases MethodId.isNumber_of_ofJson htarget with ⟨heq, ht⟩ | ⟨_, heq, -⟩ <;> cases heq
    exact ⟨rfl, hs, ht⟩
  · cases h
  · cases h

theorem Count.ofMember_decides (m : String × Json) :
    Decides (ofMember m) (∃ s, m.2 = .text s ∧ Json.IsDigits s) := by
  rw [ofMember]
  split
  · next s heq =>
    split
    · next hdigits => exact .ok _ ⟨s, heq, hdigits⟩
    · next hdigits =>
      refine .wrongShape _ ?_
      rintro ⟨s', heq', hdigits'⟩
      rw [heq] at heq'
      cases heq'
      exact hdigits hdigits'
  · next hno =>
    refine .wrongShape _ ?_
    rintro ⟨s, heq, -⟩
    exact hno s heq

theorem Count.mapM_ofMember_decides (counts : List (String × Json)) :
    Decides (counts.mapM ofMember) (∀ m ∈ counts, ∃ s, m.2 = .text s ∧ Json.IsDigits s) :=
  .mapM fun m _ ↦ ofMember_decides m

theorem externalOfJson_decides {v : Json} (hshort : v.HasShortNumbers) :
    Decides (externalOfJson v) (∃ source target, v.IsExternalCall source target) := by
  rw [externalOfJson.eq_def]
  split
  · next number name counts =>
    have hcounts := Count.mapM_ofMember_decides counts
    have hnumber := MethodId.ofJson_decides
      (Json.hasShortNumbers_array_iff.mp hshort number (by simp))
    have hname := Identifier.ofJson_decides name
    refine hcounts.bind ?_ fun l hl ↦ hnumber.bind ?_ fun a ha ↦ hname.bind ?_ fun b hb ↦ ?_
    · rintro ⟨_, _, _, _, heq, -, -, hall⟩
      cases heq
      exact hall
    · rintro ⟨source, _, _, _, heq, hsource, -⟩
      cases heq
      exact ⟨source, hsource⟩
    · rintro ⟨_, target, _, _, heq, -, htarget, -⟩
      cases heq
      exact ⟨target, rfl, htarget⟩
    · obtain ⟨source, hsource⟩ := hnumber.iff_ok.mpr ⟨a, ha⟩
      obtain ⟨target, rfl, htarget⟩ := hname.iff_ok.mpr ⟨b, hb⟩
      exact .ok _ ⟨source, target, number, counts, rfl, hsource, htarget,
        hcounts.iff_ok.mpr ⟨l, hl⟩⟩
  · next hno =>
    refine .wrongShape _ ?_
    rintro ⟨_, _, _, counts, heq, -⟩
    cases heq
    exact hno counts rfl
  · next hno =>
    refine .wrongShape _ ?_
    rintro ⟨_, _, _, _, heq, -⟩
    exact hno _ _ _ heq

/-- An external call that was read has its source and target as key. -/
theorem isExternalCall_of_externalOfJson {v : Json} {e : ExternalKey × Tally}
    (h : externalOfJson v = .ok e) : v.IsExternalCall e.1.source e.1.target.text := by
  rw [externalOfJson.eq_def] at h
  split at h
  · next number name counts =>
    rw [bind_eq_ok_iff] at h
    obtain ⟨tally, htally, h⟩ := h
    rw [bind_eq_ok_iff] at h
    obtain ⟨source, hsource, h⟩ := h
    rw [bind_eq_ok_iff] at h
    obtain ⟨target, htarget, h⟩ := h
    cases h
    rw [Identifier.ofJson_eq_ok_iff] at htarget
    subst htarget
    exact ⟨number, counts, rfl, MethodId.isNumber_of_ofJson hsource,
      ⟨target.nonempty, target.unblank⟩,
      (Count.mapM_ofMember_decides counts).iff_ok.mpr ⟨tally, htally⟩⟩
  · cases h
  · cases h

/-- One more external call is read when its source and target are new. -/
theorem addExternalEntry_decides {v : Json} (hshort : v.HasShortNumbers)
    (m : OrderedMap ExternalKey Tally) : Decides (addExternalEntry m v)
      ((∃ source target, v.IsExternalCall source target) ∧
        ∀ k ∈ m.keys, ¬ v.IsExternalCall k.source k.target.text) := by
  have hentry := externalOfJson_decides hshort
  refine hentry.bind And.left fun e he ↦ ?_
  have hcall := isExternalCall_of_externalOfJson he
  obtain ⟨key, tally⟩ := e
  simp only
  split
  · next hold =>
    rw [contains_iff] at hold
    exact .wrongShape _ fun h ↦ h.2 key hold hcall
  · next hnew =>
    rw [contains_iff] at hnew
    refine .ok _ ⟨⟨_, _, hcall⟩, fun k hk hk' ↦ hnew ?_⟩
    obtain ⟨hsource, htarget⟩ := hcall.unique hk'
    have hkey : key = k := by
      obtain ⟨source, target⟩ := key
      obtain ⟨source', target'⟩ := k
      cases hsource
      cases Identifier.ext htarget
      rfl
    exact hkey ▸ hk

/-- External calls are read on top of others when their sources and targets are new. -/
theorem foldlM_addExternalEntry_decides {entries : List Json}
    (hshort : ∀ v ∈ entries, v.HasShortNumbers) (m : OrderedMap ExternalKey Tally) :
    Decides (entries.foldlM addExternalEntry m)
      ((∀ v ∈ entries, ∃ source target, v.IsExternalCall source target) ∧
        (∀ v ∈ entries, ∀ k ∈ m.keys, ¬ v.IsExternalCall k.source k.target.text) ∧
        entries.Pairwise fun v v' ↦ ∀ source target, v.IsExternalCall source target →
          ¬ v'.IsExternalCall source target) := by
  induction entries generalizing m with
  | nil => exact .ok m (by simp)
  | cons v rest ih =>
    simp only [List.forall_mem_cons, List.pairwise_cons] at hshort ⊢
    have hv := addExternalEntry_decides hshort.1 m
    refine hv.bind (fun h ↦ ⟨h.1.1, h.2.1.1⟩) fun m' hm' ↦ (ih hshort.2 m').congr ?_
    obtain ⟨hcall, hnew⟩ := hv.iff_ok.mpr ⟨m', hm'⟩
    obtain ⟨e, he, -, rfl⟩ := addExternalEntry_eq_ok_iff.mp hm'
    have hkey := isExternalCall_of_externalOfJson he
    simp only [mem_keys_insert, forall_eq_or_imp]
    -- the call has one source and one target, so the others have to avoid just these
    have hunique : (∀ v' ∈ rest, ∀ source target, v.IsExternalCall source target →
        ¬ v'.IsExternalCall source target) ↔
          ∀ v' ∈ rest, ¬ v'.IsExternalCall e.1.source e.1.target.text := by
      refine forall₂_congr fun v' _ ↦ ⟨fun h ↦ h _ _ hkey, fun h source target hsource ↦ ?_⟩
      obtain ⟨rfl, rfl⟩ := hkey.unique hsource
      exact h
    rw [hunique]
    simp only [forall_and]
    tauto

theorem CallGraph.ofJson_decides {v : Json} (hshort : v.HasShortNumbers) :
    Decides (ofJson v) v.IsGraph := by
  refine Json.arrayField_decides.bind ?_ fun internal hinternal ↦ ?_
  · rintro ⟨⟨items, hitems, -⟩, -⟩
    exact ⟨items, hitems⟩
  refine Json.arrayField_decides.bind ?_ fun external hexternal ↦ ?_
  · rintro ⟨-, items, hitems, -⟩
    exact ⟨items, hitems⟩
  rw [Json.arrayField_eq_ok_iff] at hinternal hexternal
  have hpairs : Decides (internal.mapM InternalCall.ofJson)
      (∀ item ∈ internal, ∃ source target, item.IsInternalCall source target) :=
    .mapM fun item _ ↦ InternalCall.ofJson_decides item
  have htriples := foldlM_addExternalEntry_decides
    (Json.hasShortNumbers_array_iff.mp (Json.everywhere_of_member? hshort hexternal)) .empty
  refine hpairs.bind ?_ fun calls hcalls ↦ htriples.bind ?_ fun m hm ↦ ?_
  · exact fun h ↦ (Json.exists_array_iff hinternal).mp h.internalCalls
  · intro h
    obtain ⟨hall, hpairwise⟩ := (Json.exists_array_iff hexternal).mp h.externalCalls
    exact ⟨hall, by simp, hpairwise⟩
  · obtain ⟨hall, -, hpairwise⟩ := htriples.iff_ok.mpr ⟨m, hm⟩
    exact .ok _ ⟨⟨internal, hinternal, hpairs.iff_ok.mpr ⟨calls, hcalls⟩⟩,
      external, hexternal, hall, hpairwise⟩

/-! ## Revisions -/

/-- A revision: what names it, its time if that is known, its dependencies, its types and its
calls. -/
structure Json.IsRevision (v : Json) : Prop where
  forge : ∃ s, v.member? "forge" = some (.text s)
  product : ∃ s, v.member? "product" = some (.text s)
  version : ∃ s, v.member? "version" = some (.text s)
  generator : ∃ s, v.member? "generator" = some (.text s)
  timestamp : v.member? "timestamp" = none ∨ ∃ i, v.member? "timestamp" = some (.int i)
  dependencies : ∃ groups, v.member? "depset" = some (.array groups) ∧
    ∀ group ∈ groups, Dependencies.IsGroup group
  types : ∃ members, v.member? "cha" = some (.object members) ∧ AreTypes members
  calls : ∃ members, v.member? "graph" = some (.object members) ∧ (object members).IsGraph

namespace Revision

theorem headerOfJson_decides (v : Json) : Decides (headerOfJson v)
    ((∃ s, v.member? "forge" = some (.text s)) ∧ (∃ s, v.member? "product" = some (.text s)) ∧
      (∃ s, v.member? "version" = some (.text s)) ∧
      ∃ s, v.member? "generator" = some (.text s)) := by
  refine Json.textField_decides.bind (fun h ↦ h.1) fun forge hforge ↦ ?_
  refine Json.textField_decides.bind (fun h ↦ h.2.1) fun product hproduct ↦ ?_
  refine Json.textField_decides.bind (fun h ↦ h.2.2.1) fun version hversion ↦ ?_
  refine Json.textField_decides.bind (fun h ↦ h.2.2.2) fun generator hgenerator ↦ ?_
  rw [Json.textField_eq_ok_iff] at hforge hproduct hversion hgenerator
  exact .ok _ ⟨⟨forge, hforge⟩, ⟨product, hproduct⟩, ⟨version, hversion⟩, generator, hgenerator⟩

theorem timeOfJson_decides (v : Json) : Decides (timeOfJson v)
    (v.member? "timestamp" = none ∨ ∃ i, v.member? "timestamp" = some (.int i)) := by
  rw [timeOfJson]
  split
  · next hnone => exact .ok _ (.inl hnone)
  · next t hsome =>
    refine Json.integerField_decides.congr ?_
    rw [hsome]
    simp

/-- **Parts are read from the documents that have the shape.** -/
theorem partsOfJson_decides {v : Json} (hshort : v.HasShortNumbers) :
    Decides (partsOfJson v) v.IsRevision := by
  have hheader := headerOfJson_decides v
  refine hheader.bind (fun h ↦ ⟨h.forge, h.product, h.version, h.generator⟩) fun names hnames ↦ ?_
  have htime := timeOfJson_decides v
  refine htime.bind Json.IsRevision.timestamp fun time htimeok ↦ ?_
  refine Json.arrayField_decides.bind ?_ fun groups hgroups ↦ ?_
  · rintro ⟨-, -, -, -, -, ⟨groups, hgroups, -⟩, -, -⟩
    exact ⟨groups, hgroups⟩
  rw [Json.arrayField_eq_ok_iff] at hgroups
  have hdeps := Dependencies.ofItems_decides groups
  refine hdeps.bind ?_ fun deps hdepsok ↦ ?_
  · exact fun h ↦ (Json.exists_array_iff hgroups).mp h.dependencies
  refine Json.objectField_decides.bind ?_ fun members hmembers ↦ ?_
  · rintro ⟨-, -, -, -, -, -, ⟨members, hmembers, -⟩, -⟩
    exact ⟨members, hmembers⟩
  rw [Json.objectField_eq_ok_iff] at hmembers
  have htypes := Hierarchy.ofMembers_decides fun m hm ↦
    (Json.hasShortNumbers_object_iff.mp (Json.everywhere_of_member? hshort hmembers) m hm).2
  refine htypes.bind ?_ fun hierarchy hhierarchy ↦ ?_
  · exact fun h ↦ (Json.exists_object_iff hmembers).mp h.types
  refine (Json.field_decides .object).bind ?_ fun graph hgraph ↦ ?_
  · rintro ⟨-, -, -, -, -, -, -, calls, hcalls, -⟩
    exact ⟨_, hcalls, rfl⟩
  obtain ⟨hgraph, hobject⟩ := Json.field_eq_ok_iff.mp hgraph
  obtain ⟨calls, rfl⟩ := Json.admits_object_iff.mp hobject
  have hcalls := CallGraph.ofJson_decides (Json.everywhere_of_member? hshort hgraph)
  refine hcalls.bind ?_ fun g hg ↦ ?_
  · exact fun h ↦ (Json.exists_object_iff hgraph).mp h.calls
  obtain ⟨hforge, hproduct, hversion, hgenerator⟩ := hheader.iff_ok.mpr ⟨names, hnames⟩
  exact .ok _ {
    forge := hforge
    product := hproduct
    version := hversion
    generator := hgenerator
    timestamp := htime.iff_ok.mpr ⟨time, htimeok⟩
    dependencies := ⟨groups, hgroups, hdeps.iff_ok.mpr ⟨deps, hdepsok⟩⟩
    types := ⟨members, hmembers, htypes.iff_ok.mpr ⟨hierarchy, hhierarchy⟩⟩
    calls := ⟨calls, hgraph, hcalls.iff_ok.mpr ⟨g, hg⟩⟩ }

end Revision

end RevisionGraph
