import RevisionGraph.Proofs.Assembly.Faults
import RevisionGraph.Proofs.Assembly.Phases

/-!
# What stands in the way of a revision

Making a revision from lines takes four steps, each of which can fail: the lines are read, the facts
on them are applied, their calls are resolved, and the release has to be named.  What it fails with
can be told from the lines and the release alone, and `Facts.Obstructs` says how.

* **Facts.**  A fact is refused for itself or for the facts ahead of it: `Facts.Rejects`.  What an
  assembly knows once facts are applied is in `Facts.LeadTo`.
* **Calls.**  A call is refused if its source is not defined, or if too many calls ahead of it are
  the same: `Facts.Strays`.
* **Everything.**  The first refusal counts: `Assembly.buildFrom_eq_error_iff`.
-/

set_option autoImplicit false

namespace RevisionGraph

open Result OrderedMap

variable {a b c : Assembly} {facts facts' : List Json} {fact : Json} {e : Fault}

namespace Facts

/-! ## Facts -/

/-- A fact names the type. -/
def Names (facts : List Json) (type : Identifier) : Prop :=
  ∃ fact ∈ facts, isOfKind .type fact = true ∧ ∃ info, readType fact = .ok (type, info)

/-- A fact gives the method to the type. -/
def Gives (facts : List Json) (type method : Identifier) : Prop :=
  ∃ fact ∈ facts, isOfKind .method fact = true ∧ readMethod fact = .ok (type, method)

/-- The call that a fact reports. -/
def callSite? (fact : Json) : Option CallSite :=
  if isOfKind .call fact then (readCall fact).toOption else none

/-- The calls that facts report, in the order of the facts. -/
def callSites (facts : List Json) : List CallSite := facts.filterMap callSite?

/-- Why a fact is refused behind others.  It cannot be read; or it gives a method to a type that
nobody knows, or to another type than others do. -/
inductive Rejects (a : Assembly) (ahead : List Json) (fact : Json) : Fault → Prop
  | type {e : Fault} (hkind : isOfKind .type fact = true) (hread : readType fact = .error e) :
      Rejects a ahead fact e
  | method {e : Fault} (hkind : isOfKind .method fact = true) (hread : readMethod fact = .error e) :
      Rejects a ahead fact e
  | call {e : Fault} (hkind : isOfKind .call fact = true) (hread : readCall fact = .error e) :
      Rejects a ahead fact e
  | unknownType {type method : Identifier} (hkind : isOfKind .method fact = true)
      (hread : readMethod fact = .ok (type, method))
      (hunknown : ¬ ((a.types.find? type).isSome ∨ Names ahead type)) :
      Rejects a ahead fact (.invariant (.methodOfUnknownType type.text method.text))
  | twoTypes {type method owner : Identifier} (hkind : isOfKind .method fact = true)
      (hread : readMethod fact = .ok (type, method))
      (hknown : (a.types.find? type).isSome ∨ Names ahead type) (hother : owner ≠ type)
      (howner : a.Owns owner method ∨ Gives ahead owner method) :
      Rejects a ahead fact (.invariant (.methodOfTwoTypes type.text method.text))

/-- The second assembly is the first with the facts applied: what it knows of types and methods, and
the calls that it recorded. -/
structure LeadTo (a : Assembly) (facts : List Json) (b : Assembly) : Prop where
  isWellFormed : b.IsWellFormed
  isSome_find?_iff : ∀ type, (b.types.find? type).isSome ↔
    (a.types.find? type).isSome ∨ Names facts type
  owns_iff : ∀ type method, b.Owns type method ↔ a.Owns type method ∨ Gives facts type method
  calls : b.calls = a.calls ++ callSites facts

theorem leadTo_nil (h : a.IsWellFormed) : LeadTo a [] a where
  isWellFormed := h
  isSome_find?_iff _ := by simp [Names]
  owns_iff _ _ := by simp [Gives]
  calls := (List.append_nil _).symm

theorem LeadTo.trans (h : LeadTo a facts b) (h' : LeadTo b facts' c) :
    LeadTo a (facts ++ facts') c where
  isWellFormed := h'.isWellFormed
  isSome_find?_iff type := by
    rw [h'.isSome_find?_iff, h.isSome_find?_iff, or_assoc]
    simp only [Names, List.mem_append, or_and_right, exists_or]
  owns_iff type method := by
    rw [h'.owns_iff, h.owns_iff, or_assoc]
    simp only [Gives, List.mem_append, or_and_right, exists_or]
  calls := by rw [h'.calls, h.calls, callSites, callSites, callSites, List.filterMap_append,
    List.append_assoc]

theorem names_singleton_iff {type : Identifier} : Names [fact] type ↔
    isOfKind .type fact = true ∧ ∃ info, readType fact = .ok (type, info) := by
  simp [Names]

theorem gives_singleton_iff {type method : Identifier} : Gives [fact] type method ↔
    isOfKind .method fact = true ∧ readMethod fact = .ok (type, method) := by
  simp [Gives]

theorem callSites_singleton_of_not (h : ¬ isOfKind .call fact = true) : callSites [fact] = [] := by
  rw [callSites, List.filterMap_cons_none (by rw [callSite?, if_neg h]), List.filterMap_nil]

theorem leadTo_of_type (h : a.IsWellFormed) (hkind : isOfKind .type fact = true)
    {t : Identifier × TypeInfo} (hread : readType fact = .ok t) :
    LeadTo a [fact] (a.takeType t) where
  isWellFormed := h.addType ..
  isSome_find?_iff type := by
    rw [names_singleton_iff, hread, Assembly.takeType, Assembly.find?_addType]
    split
    · next heq => exact iff_of_true rfl (.inr ⟨hkind, t.2, by rw [heq]⟩)
    · next hne =>
      refine (or_iff_left ?_).symm
      rintro ⟨-, info, heq⟩
      cases heq
      exact hne rfl
  owns_iff type method := by
    rw [gives_singleton_iff, or_iff_left fun hgives ↦ not_isOfKind hkind (by decide) hgives.1]
    simp only [Assembly.Owns, Assembly.takeType, Assembly.defines_addType]
  calls := by
    rw [callSites_singleton_of_not (not_isOfKind hkind (by decide)), List.append_nil]
    rfl

theorem leadTo_of_method (h : a.IsWellFormed) (hkind : isOfKind .method fact = true)
    {m : Identifier × Identifier} (hread : readMethod fact = .ok m) (hb : a.takeMethod m = .ok b) :
    LeadTo a [fact] b := by
  have hone := Assembly.registers_of_takeMethod h hb
  refine ⟨hone.isWellFormed, fun type ↦ ?_, fun type method ↦ ?_, ?_⟩
  · rw [names_singleton_iff, or_iff_left fun hnames ↦ not_isOfKind hkind (by decide) hnames.1,
      ← Option.isSome_map (f := TypeInfo.bare), hone.bare, Option.isSome_map]
  · rw [gives_singleton_iff, hone.owns_iff, hread, List.mem_singleton, Except.ok.injEq,
      and_iff_right hkind, eq_comm]
  · rw [callSites_singleton_of_not (not_isOfKind hkind (by decide)), List.append_nil, hone.calls]

theorem leadTo_of_call (h : a.IsWellFormed) (hkind : isOfKind .call fact = true) {c : CallSite}
    (hread : readCall fact = .ok c) : LeadTo a [fact] (a.takeCall c) where
  isWellFormed := h.of_eq rfl rfl
  isSome_find?_iff type := by
    rw [names_singleton_iff, or_iff_left fun hnames ↦ not_isOfKind hkind (by decide) hnames.1]
    rfl
  owns_iff type method := by
    rw [gives_singleton_iff, or_iff_left fun hgives ↦ not_isOfKind hkind (by decide) hgives.1]
    rfl
  calls := by
    have hcall : callSite? fact = some c := by rw [callSite?, if_pos hkind, hread]; rfl
    rw [callSites, List.filterMap_cons_some hcall]
    rfl

/-- Facts of other kinds are skipped. -/
theorem applied_of_not_isKnown (h : isKnown fact = false) (a : Assembly) :
    applied a fact = .ok a := by
  simp only [isKnown, Bool.or_eq_false_iff] at h
  rw [applied, apply, h.1.1, h.1.2, h.2]
  rfl

theorem leadTo_of_not_isKnown (h : a.IsWellFormed) (hkind : isKnown fact = false) :
    LeadTo a [fact] a := by
  simp only [isKnown, Bool.or_eq_false_iff] at hkind
  refine ⟨h, fun type ↦ ?_, fun type method ↦ ?_, ?_⟩
  · rw [names_singleton_iff, hkind.1.1]
    simp
  · rw [gives_singleton_iff, hkind.1.2]
    simp
  · rw [callSites_singleton_of_not (by rw [hkind.2]; decide), List.append_nil]

theorem isKnown_cases (fact : Json) : isOfKind .type fact = true ∨ isOfKind .method fact = true ∨
    isOfKind .call fact = true ∨ isKnown fact = false := by
  rw [isKnown]
  cases isOfKind .type fact <;> cases isOfKind .method fact <;> cases isOfKind .call fact <;> simp

/-- One fact. -/
theorem leadTo_of_applied (h : a.IsWellFormed) (hb : applied a fact = .ok b) :
    LeadTo a [fact] b := by
  rcases isKnown_cases fact with hkind | hkind | hkind | hkind
  · rw [applied_type hkind, bind_eq_ok_iff] at hb
    obtain ⟨t, hread, hb⟩ := hb
    cases hb
    exact leadTo_of_type h hkind hread
  · rw [applied_method hkind, bind_eq_ok_iff] at hb
    obtain ⟨m, hread, hb⟩ := hb
    exact leadTo_of_method h hkind hread hb
  · rw [applied_call hkind, bind_eq_ok_iff] at hb
    obtain ⟨c, hread, hb⟩ := hb
    cases hb
    exact leadTo_of_call h hkind hread
  · rw [applied_of_not_isKnown hkind] at hb
    cases hb
    exact leadTo_of_not_isKnown h hkind

theorem leadTo_of_foldlM (h : a.IsWellFormed) (hb : facts.foldlM applied a = .ok b) :
    LeadTo a facts b := by
  induction facts generalizing a with
  | nil =>
    obtain rfl : a = b := by injection hb
    exact leadTo_nil h
  | cons fact rest ih =>
    rw [List.foldlM_cons, bind_eq_ok_iff] at hb
    obtain ⟨c, hc, hb⟩ := hb
    have hone := leadTo_of_applied h hc
    exact hone.trans (ih hone.isWellFormed hb)

end Facts

namespace Assembly

/-- How a method is refused. -/
theorem IsWellFormed.takeMethod_eq_error_iff (h : a.IsWellFormed) {m : Identifier × Identifier}
    {e : Fault} : a.takeMethod m = .error e ↔
      a.types.find? m.1 = none ∧ e = .invariant (.methodOfUnknownType m.1.text m.2.text) ∨
        ((a.types.find? m.1).isSome ∧ ∃ owner, owner ≠ m.1 ∧ a.Owns owner m.2) ∧
          e = .invariant (.methodOfTwoTypes m.1.text m.2.text) := by
  obtain ⟨type, method⟩ := m
  rw [takeMethod, Assembly.addMethod]
  cases hinfo : a.types.find? type with
  | none => simp [Except.map, eq_comm]
  | some info =>
    cases hid : a.methodId? method with
    | none =>
      have hno : ¬ ∃ owner, owner ≠ type ∧ a.Owns owner method := by
        rintro ⟨owner, -, howns⟩
        exact methodId?_eq_none_iff.mp hid (h.mem_methods_iff.mpr ⟨owner, howns⟩)
      simp [Except.map, hno]
    | some id =>
      simp only
      split
      · next hmethod =>
        have hno : ¬ ∃ owner, owner ≠ type ∧ a.Owns owner method := by
          rintro ⟨owner, hother, howns⟩
          exact hother (h.owner_unique howns ⟨id, info, hinfo, hmethod⟩)
        simp [Except.map, hno]
      · next hmethod =>
        obtain ⟨owner, howns⟩ := h.exists_owner (mem_methods_of_methodId? hid)
        have hother : owner ≠ type := by
          rintro rfl
          obtain ⟨id', info', hinfo', hmethod'⟩ := howns
          have hid' := h.methodId?_of_defines ⟨info', hinfo', hmethod'⟩
          cases hid.symm.trans hid'
          cases hinfo.symm.trans hinfo'
          exact hmethod hmethod'
        have hsome : (some info).isSome ∧ ∃ owner, owner ≠ type ∧ a.Owns owner method :=
          ⟨rfl, owner, hother, howns⟩
        rw [and_iff_right hsome]
        simp [Except.map, eq_comm]

end Assembly

namespace Facts

theorem rejects_of_type_iff (hkind : isOfKind .type fact = true) :
    Rejects a facts fact e ↔ readType fact = .error e := by
  refine ⟨fun h ↦ ?_, .type hkind⟩
  cases h with
  | type _ hread => exact hread
  | method hkind' _ => cases isOfKind_unique hkind hkind'
  | call hkind' _ => cases isOfKind_unique hkind hkind'
  | unknownType hkind' _ _ => cases isOfKind_unique hkind hkind'
  | twoTypes hkind' _ _ _ _ => cases isOfKind_unique hkind hkind'

theorem rejects_of_method_iff (hkind : isOfKind .method fact = true) : Rejects a facts fact e ↔
    readMethod fact = .error e ∨ ∃ m, readMethod fact = .ok m ∧
      (¬ ((a.types.find? m.1).isSome ∨ Names facts m.1) ∧
          e = .invariant (.methodOfUnknownType m.1.text m.2.text) ∨
        (((a.types.find? m.1).isSome ∨ Names facts m.1) ∧
          ∃ owner, owner ≠ m.1 ∧ (a.Owns owner m.2 ∨ Gives facts owner m.2)) ∧
            e = .invariant (.methodOfTwoTypes m.1.text m.2.text)) := by
  constructor
  · intro h
    cases h with
    | type hkind' _ => cases isOfKind_unique hkind hkind'
    | call hkind' _ => cases isOfKind_unique hkind hkind'
    | method _ hread => exact .inl hread
    | unknownType _ hread hunknown => exact .inr ⟨_, hread, .inl ⟨hunknown, rfl⟩⟩
    | twoTypes _ hread hknown hother howner =>
      exact .inr ⟨_, hread, .inr ⟨⟨hknown, _, hother, howner⟩, rfl⟩⟩
  · rintro (hread | ⟨m, hread, ⟨hunknown, rfl⟩ | ⟨⟨hknown, owner, hother, howner⟩, rfl⟩⟩)
    · exact .method hkind hread
    · exact .unknownType hkind hread hunknown
    · exact .twoTypes hkind hread hknown hother howner

theorem rejects_of_call_iff (hkind : isOfKind .call fact = true) :
    Rejects a facts fact e ↔ readCall fact = .error e := by
  refine ⟨fun h ↦ ?_, .call hkind⟩
  cases h with
  | type hkind' _ => cases isOfKind_unique hkind hkind'
  | method hkind' _ => cases isOfKind_unique hkind hkind'
  | call _ hread => exact hread
  | unknownType hkind' _ _ => cases isOfKind_unique hkind hkind'
  | twoTypes hkind' _ _ _ _ => cases isOfKind_unique hkind hkind'

theorem not_rejects_of_not_isKnown (hkind : isKnown fact = false) : ¬ Rejects a facts fact e := by
  have hno (k : Kind) : ¬ isOfKind k fact = true := by
    intro hk
    cases k <;> simp [isKnown, hk] at hkind
  intro h
  cases h with
  | type hkind' _ => exact hno _ hkind'
  | method hkind' _ => exact hno _ hkind'
  | call hkind' _ => exact hno _ hkind'
  | unknownType hkind' _ _ => exact hno _ hkind'
  | twoTypes hkind' _ _ _ _ => exact hno _ hkind'

/-- **Behind others a fact is refused for what they say**, whatever became of them. -/
theorem LeadTo.applied_eq_error_iff (h : LeadTo a facts b) :
    applied b fact = .error e ↔ Rejects a facts fact e := by
  rcases isKnown_cases fact with hkind | hkind | hkind | hkind
  · rw [applied_type hkind, rejects_of_type_iff hkind, bind_eq_error_iff]
    simp
  · rw [applied_method hkind, rejects_of_method_iff hkind, bind_eq_error_iff]
    simp only [h.isWellFormed.takeMethod_eq_error_iff, ← h.isSome_find?_iff, ← h.owns_iff,
      Bool.not_eq_true, Option.isSome_eq_false_iff, Option.isNone_iff_eq_none]
  · rw [applied_call hkind, rejects_of_call_iff hkind, bind_eq_error_iff]
    simp
  · rw [applied_of_not_isKnown hkind]
    exact iff_of_false (by rintro ⟨⟩) (not_rejects_of_not_isKnown hkind)

/-- **Facts are applied up to the first that is refused.** -/
theorem foldlM_applied_cases (h : a.IsWellFormed) (facts : List Json) :
    ((∃ b, facts.foldlM applied a = .ok b) ↔ NoneFails (Rejects a) facts) ∧
      ∀ e, facts.foldlM applied a = .error e ↔ FirstFails (Rejects a) facts e :=
  foldlM_cases fun _ _ _ _ hb _ ↦ (leadTo_of_foldlM h hb).applied_eq_error_iff

/-! ## Calls -/

/-- The facts define the method. -/
def Define (facts : List Json) (method : Identifier) : Prop := ∃ type, Gives facts type method

/-- Why a call is refused behind others: nobody defines its source; or it leads elsewhere, and one
call more like those ahead of it cannot be counted. -/
inductive Strays (facts : List Json) (ahead : List CallSite) (call : CallSite) : Fault → Prop
  | unknown (hsource : ¬ Define facts call.source) :
      Strays facts ahead call
        (.invariant (.callFromUnknownMethod call.source.text call.target.text))
  | tooMany (hsource : Define facts call.source) (htarget : ¬ Define facts call.target)
      (hcount : Text.isWritable (ahead.count call + 1 : Nat) = false) :
      Strays facts ahead call (.conversion .tooManyDigitsToWrite)

theorem LeadTo.mem_methods_iff (h : LeadTo .empty facts b) (method : Identifier) :
    method ∈ b.methods ↔ Define facts method := by
  rw [h.isWellFormed.mem_methods_iff]
  refine exists_congr fun type ↦ ?_
  rw [h.owns_iff, or_iff_right]
  rintro ⟨_, _, ⟨⟩, _⟩

end Facts

namespace Assembly

/-- One more call in the graph. -/
def resolveOne (a : Assembly) (g : CallGraph) (c : CallSite) : Result CallGraph :=
  (a.resolve g 0 [c]).2

section

variable {g : CallGraph} {call : CallSite} {source target : MethodId}

theorem resolveOne_unknown (hsource : a.methodId? call.source = none) : a.resolveOne g call =
    .error (.invariant (.callFromUnknownMethod call.source.text call.target.text)) := by
  rw [resolveOne, resolve_unknown 0 hsource]

theorem resolveOne_internal (hsource : a.methodId? call.source = some source)
    (htarget : a.methodId? call.target = some target) :
    a.resolveOne g call = .ok (g.addInternal source target) := by
  rw [resolveOne, resolve_internal 0 hsource htarget]
  rfl

theorem resolveOne_external (hsource : a.methodId? call.source = some source)
    (htarget : a.methodId? call.target = none) :
    a.resolveOne g call = g.addExternal source call.target call.callType := by
  rw [resolveOne]
  cases hadd : g.addExternal source call.target call.callType with
  | error e => rw [resolve_overflow 0 hsource htarget hadd]
  | ok g' =>
    rw [resolve_external 0 hsource htarget hadd]
    rfl

end

theorem snd_resolve (a : Assembly) (g : CallGraph) (n : Nat) (calls : List CallSite) :
    (a.resolve g n calls).2 = calls.foldlM a.resolveOne g := by
  induction calls generalizing g n with
  | nil => rfl
  | cons call rest ih =>
    rw [List.foldlM_cons]
    cases hsource : a.methodId? call.source with
    | none =>
      rw [resolve_unknown n hsource, resolveOne_unknown hsource]
      rfl
    | some source =>
      cases htarget : a.methodId? call.target with
      | some target =>
        rw [resolve_internal n hsource htarget, resolveOne_internal hsource htarget, ih]
        rfl
      | none =>
        rw [resolveOne_external hsource htarget]
        cases hadd : g.addExternal source call.target call.callType with
        | error e =>
          rw [resolve_overflow n hsource htarget hadd]
          rfl
        | ok g' =>
          rw [resolve_external n hsource htarget hadd, ih]
          rfl

/-- Calls to other methods are the same call site when they are the same call. -/
theorem IsWellFormed.count_filterMap_externalSite? (h : a.IsWellFormed) {c : CallSite}
    {source : MethodId} (hsource : a.methodId? c.source = some source)
    (htarget : c.target ∉ a.methods) (calls : List CallSite) :
    (calls.filterMap a.externalSite?).count (⟨source, c.target⟩, c.callType) = calls.count c := by
  rw [List.count_eq_countP, List.countP_filterMap, List.count_eq_countP]
  refine List.countP_congr fun d _ ↦ ?_
  have hsite : ((a.externalSite? d).map (· == (⟨source, c.target⟩, c.callType))).getD false = true ↔
      a.externalSite? d = some (⟨source, c.target⟩, c.callType) := by
    cases a.externalSite? d <;> simp
  rw [hsite, externalSite?_eq_some_iff, beq_iff_eq]
  constructor
  · rintro ⟨hsource', -, htarget', hcallType⟩
    obtain ⟨source', target', callType'⟩ := d
    cases h.methodId?_inj hsource' hsource
    cases htarget'
    cases hcallType
    rfl
  · rintro rfl
    exact ⟨hsource, htarget, rfl, rfl⟩

/-- A call that leads elsewhere is refused when one call more like those ahead of it cannot be
counted. -/
theorem IsWellFormed.addExternal_eq_error_iff (h : a.IsWellFormed) {ahead : List CallSite}
    {g : CallGraph} (hg : ahead.foldlM a.resolveOne .empty = .ok g) {call : CallSite}
    {source : MethodId} (hsource : a.methodId? call.source = some source)
    (htarget : call.target ∉ a.methods) {e : Fault} :
    g.addExternal source call.target call.callType = .error e ↔
      Text.isWritable (ahead.count call + 1 : Nat) = false ∧
        e = .conversion .tooManyDigitsToWrite := by
  rw [← a.snd_resolve .empty 0] at hg
  obtain ⟨-, hcounts⟩ := resolve_spec CallGraph.counts_empty hg
  obtain ⟨-, hwritable⟩ := (exists_resolve_iff CallGraph.counts_empty 0).mp ⟨g, hg⟩
  rw [List.nil_append] at hcounts hwritable
  -- what was counted so far could be written, so only the next number may be too long
  have hsofar : Text.isWritable ((ahead.filterMap a.externalSite?).count
      (⟨source, call.target⟩, call.callType) : Nat) = true := by
    by_cases hmem : (⟨source, call.target⟩, call.callType) ∈ ahead.filterMap a.externalSite?
    · exact hwritable _ hmem
    · rw [List.count_eq_zero.mpr hmem]
      decide +kernel
  have hadd := hcounts.addExternal_eq_error_iff (k := ⟨source, call.target⟩) (e := e) hsofar
  rwa [h.count_filterMap_externalSite? hsource htarget ahead] at hadd

/-- **Behind others a call is refused for what they are**, whatever graph they made. -/
theorem IsWellFormed.resolveOne_eq_error_iff (h : a.IsWellFormed) {facts : List Json}
    (hdefine : ∀ method, method ∈ a.methods ↔ Facts.Define facts method) {ahead : List CallSite}
    {g : CallGraph} (hg : ahead.foldlM a.resolveOne .empty = .ok g) {call : CallSite} {e : Fault} :
    a.resolveOne g call = .error e ↔ Facts.Strays facts ahead call e := by
  cases hsource : a.methodId? call.source with
  | none =>
    have hno : ¬ Facts.Define facts call.source := fun hdef ↦
      methodId?_eq_none_iff.mp hsource ((hdefine _).mpr hdef)
    rw [resolveOne_unknown hsource]
    constructor
    · rintro ⟨⟩
      exact .unknown hno
    · rintro (_ | ⟨hdef, _, _⟩)
      · rfl
      · exact absurd hdef hno
  | some source =>
    have hdef : Facts.Define facts call.source := (hdefine _).mp (mem_methods_of_methodId? hsource)
    cases htarget : a.methodId? call.target with
    | some target =>
      have hdef' : Facts.Define facts call.target :=
        (hdefine _).mp (mem_methods_of_methodId? htarget)
      rw [resolveOne_internal hsource htarget]
      refine iff_of_false (by rintro ⟨⟩) ?_
      rintro (hno | ⟨_, hno, _⟩)
      · exact hno hdef
      · exact hno hdef'
    | none =>
      have htarget' : call.target ∉ a.methods := methodId?_eq_none_iff.mp htarget
      have hno : ¬ Facts.Define facts call.target := fun hdef ↦ htarget' ((hdefine _).mpr hdef)
      rw [resolveOne_external hsource htarget, h.addExternal_eq_error_iff hg hsource htarget']
      constructor
      · rintro ⟨hlong, rfl⟩
        exact .tooMany hdef hno hlong
      · rintro (hunknown | ⟨_, _, hlong⟩)
        · exact absurd hdef hunknown
        · exact ⟨hlong, rfl⟩

end Assembly

/-- **Calls are resolved up to the first that is refused.** -/
theorem Facts.LeadTo.buildGraph_cases (h : LeadTo .empty facts b) :
    ((∃ g, b.buildGraph.2 = .ok g) ↔ NoneFails (Strays facts) (callSites facts)) ∧
      ∀ e, b.buildGraph.2 = .error e ↔ FirstFails (Strays facts) (callSites facts) e := by
  rw [Assembly.snd_buildGraph, Assembly.snd_resolve, h.calls]
  exact foldlM_cases fun _ _ _ _ hg _ ↦
    h.isWellFormed.resolveOne_eq_error_iff h.mem_methods_iff hg

/-! ## Everything -/

/-- The names of the fields of a release that are not filled in. -/
def Release.emptyNames (r : Release) : List String := (Assembly.empty.parts r .empty).emptyNames

namespace Facts

/-- The facts on lines, in the order in which they are applied. -/
def inOrderOn (lines : List String) : List Json := inOrder (factsOn lines)

/-- What no revision can be made of, and the fault that says so: a line that is not readable, a fact
that is rejected, a call that strays, or a release without a name. -/
inductive Obstructs (lines : List String) (release : Release) : Fault → Prop
  | line {e : Fault} (hline : StopsWith 1 lines e) : Obstructs lines release e
  | fact {e : Fault} (hlines : ∀ line ∈ lines, IsReadable line)
      (hfact : FirstFails (Rejects .empty) (inOrderOn lines) e) : Obstructs lines release e
  | call {e : Fault} (hlines : ∀ line ∈ lines, IsReadable line)
      (hfacts : NoneFails (Rejects .empty) (inOrderOn lines))
      (hcall : FirstFails (Strays (inOrderOn lines)) (callSites (inOrderOn lines)) e) :
      Obstructs lines release e
  | release (hlines : ∀ line ∈ lines, IsReadable line)
      (hfacts : NoneFails (Rejects .empty) (inOrderOn lines))
      (hcalls : NoneFails (Strays (inOrderOn lines)) (callSites (inOrderOn lines)))
      (hnamed : ¬ release.IsNamed) :
      Obstructs lines release (.format (.revisionIncomplete release.emptyNames))

end Facts

namespace Assembly

theorem foldlM_applied (a : Assembly) (facts : List Json) : facts.foldlM Facts.applied a =
    (Facts.applyAll a facts).2.map fun _ ↦ (Facts.applyAll a facts).1 := by
  induction facts generalizing a with
  | nil => rfl
  | cons fact rest ih =>
    rw [List.foldlM_cons, Facts.applyAll]
    rcases Facts.apply_cases a fact with ⟨b, h⟩ | ⟨e, h⟩
    · rw [bind_of_eq_ok (Facts.applied_eq_ok_iff.mpr h), h, ih]
    · rw [Facts.applied_eq_error_iff.mpr h, h]
      rfl

theorem buildFrom_of_readable {lines : List String} (h : ∀ line ∈ lines, Facts.IsReadable line)
    (release : Release) : buildFrom lines release =
      (Facts.inOrderOn lines).foldlM Facts.applied empty >>= fun a ↦ (a.build release).2 := by
  obtain ⟨hstate, hresult⟩ := applyFacts_of_readable (a := empty) h
  rw [buildFrom, foldlM_applied, Facts.inOrderOn, Facts.factsOn]
  cases hall : Facts.applyAll empty (Facts.inOrder (lines.filterMap Facts.onLine?)) with
  | mk b result =>
    rw [hall] at hstate hresult
    cases happly : empty.applyFacts lines with
    | mk c outcome =>
      rw [happly] at hstate hresult
      cases hstate
      cases hresult
      cases result <;> rfl

theorem build_draft_eq_error_iff (h : a.IsWellFormed) {g : CallGraph} (hg : a.buildGraph.2 = .ok g)
    {release : Release} {e : Fault} : (a.draft release g).build = .error e ↔
      ¬ release.IsNamed ∧ e = .format (.revisionIncomplete release.emptyNames) := by
  by_cases hnamed : release.IsNamed
  · rw [build_draft_eq_ok_iff.mpr ⟨hnamed, rfl, h.isValid_revision hg release⟩]
    exact iff_of_false (by rintro ⟨⟩) fun hno ↦ hno.1 hnamed
  · have hmissing : (a.draft release g).missing = release.emptyNames :=
      (a.parts release g).missing_draft
    rw [build_draft_of_not_isNamed hnamed, hmissing, and_iff_right hnamed, Except.error.injEq,
      eq_comm]

/-- A build behind facts fails at the first call that strays, or else for the lack of a name. -/
theorem snd_build_eq_error_iff (h : Facts.LeadTo .empty facts b) {release : Release} :
    (b.build release).2 = .error e ↔
      FirstFails (Facts.Strays facts) (Facts.callSites facts) e ∨
        NoneFails (Facts.Strays facts) (Facts.callSites facts) ∧
          ¬ release.IsNamed ∧ e = .format (.revisionIncomplete release.emptyNames) := by
  obtain ⟨hcalls, hcall⟩ := h.buildGraph_cases
  rw [snd_build, bind_eq_error_iff, hcall, ← hcalls]
  refine or_congr_right ⟨?_, ?_⟩
  · rintro ⟨g, hg, hdraft⟩
    exact ⟨⟨g, hg⟩, (build_draft_eq_error_iff h.isWellFormed hg).mp hdraft⟩
  · rintro ⟨⟨g, hg⟩, hname⟩
    exact ⟨g, hg, (build_draft_eq_error_iff h.isWellFormed hg).mpr hname⟩

/-- Readable lines make a revision up to the first fact that is rejected, or else as far as a build
behind their facts goes. -/
theorem buildFrom_eq_error_iff_of_readable {lines : List String}
    (hlines : ∀ line ∈ lines, Facts.IsReadable line) {release : Release} :
    buildFrom lines release = .error e ↔
      FirstFails (Facts.Rejects empty) (Facts.inOrderOn lines) e ∨
        NoneFails (Facts.Rejects empty) (Facts.inOrderOn lines) ∧
          (FirstFails (Facts.Strays (Facts.inOrderOn lines))
              (Facts.callSites (Facts.inOrderOn lines)) e ∨
            NoneFails (Facts.Strays (Facts.inOrderOn lines))
                (Facts.callSites (Facts.inOrderOn lines)) ∧
              ¬ release.IsNamed ∧ e = .format (.revisionIncomplete release.emptyNames)) := by
  obtain ⟨hfacts, hfact⟩ := Facts.foldlM_applied_cases isWellFormed_empty (Facts.inOrderOn lines)
  rw [buildFrom_of_readable hlines, bind_eq_error_iff, hfact, ← hfacts]
  have hbuild {b : Assembly} (hb : (Facts.inOrderOn lines).foldlM Facts.applied empty = .ok b) :
      (b.build release).2 = .error e ↔ _ :=
    snd_build_eq_error_iff (Facts.leadTo_of_foldlM isWellFormed_empty hb)
  refine or_congr_right ⟨?_, ?_⟩
  · rintro ⟨b, hb, herror⟩
    exact ⟨⟨b, hb⟩, (hbuild hb).mp herror⟩
  · rintro ⟨⟨b, hb⟩, herror⟩
    exact ⟨b, hb, (hbuild hb).mpr herror⟩

/-- **Lines make a revision unless something obstructs it**, and what does is what making one fails
with. -/
theorem buildFrom_eq_error_iff {lines : List String} {release : Release} :
    buildFrom lines release = .error e ↔ Facts.Obstructs lines release e := by
  rcases Facts.ofLines_cases 1 lines with ⟨e', hstops, hread⟩ | ⟨hlines, -⟩
  · have hno : ¬ ∀ line ∈ lines, Facts.IsReadable line := hstops.not_isReadable
    have hbuild : buildFrom lines release = .error e' := by rw [buildFrom, applyFacts, hread]
    rw [hbuild, Except.error.injEq]
    constructor
    · rintro rfl
      exact .line hstops
    · rintro (hline | ⟨hlines, _⟩ | ⟨hlines, _, _⟩ | ⟨hlines, _, _, _⟩)
      · exact Except.error.inj (hread.symm.trans hline.ofLines_eq)
      all_goals exact absurd hlines hno
  · rw [buildFrom_eq_error_iff_of_readable hlines]
    constructor
    · rintro (hfact | ⟨hfacts, hcall | ⟨hcalls, hnamed, rfl⟩⟩)
      · exact .fact hlines hfact
      · exact .call hlines hfacts hcall
      · exact .release hlines hfacts hcalls hnamed
    · rintro (hline | ⟨-, hfact⟩ | ⟨-, hfacts, hcall⟩ | ⟨-, hfacts, hcalls, hnamed⟩)
      · exact absurd hlines hline.not_isReadable
      · exact .inl hfact
      · exact .inr ⟨hfacts, .inl hcall⟩
      · exact .inr ⟨hfacts, .inr ⟨hcalls, hnamed, rfl⟩⟩

end Assembly

end RevisionGraph
