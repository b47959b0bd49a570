import RevisionGraph.Proofs.Assembly.Reports

/-!
# What registering reports makes of an assembly

Types, methods and calls are registered one after the other, and each of them looks at what is
there already.  What comes of a whole list can still be told from the list.

* **Methods.**  `exists_foldlM_takeMethod_iff` says when all of them are registered, and
  `Registers` what an assembly then holds.
* **Everything.**  `take_spec` says what a new assembly holds that took reports, and `take_perm`
  that the order of the reports shows in the ids only: what they make `Agrees`.
-/

set_option autoImplicit false

namespace RevisionGraph

open Result OrderedMap

namespace Assembly

variable {a b c : Assembly}

/-! ## Methods -/

theorem takeMethod_eq_ok_iff {m : Identifier × Identifier} :
    a.takeMethod m = .ok b ↔ ∃ id, a.addMethod m.1 m.2 = (b, .ok id) := by
  rw [takeMethod]
  rcases a.addMethod_cases m.1 m.2 with ⟨c, id, h⟩ | ⟨e, h⟩ <;> simp [h, Except.map]

/-- A method comes last unless it is there already. -/
def appendNew (methods : List Identifier) (m : Identifier × Identifier) : List Identifier :=
  if m.2 ∈ methods then methods else methods ++ [m.2]

/-- The second assembly is the first with the methods of the list, and nothing else has changed. -/
structure Registers (a : Assembly) (l : List (Identifier × Identifier)) (b : Assembly) : Prop where
  isWellFormed : b.IsWellFormed
  owns_iff : ∀ {type method}, b.Owns type method ↔ a.Owns type method ∨ (type, method) ∈ l
  bare : ∀ type, (b.types.find? type).map TypeInfo.bare = (a.types.find? type).map TypeInfo.bare
  methods : b.methods = l.foldl appendNew a.methods
  calls : b.calls = a.calls

/-- One method. -/
theorem registers_of_takeMethod (h : a.IsWellFormed) {m : Identifier × Identifier}
    (hb : a.takeMethod m = .ok b) : a.Registers [m] b := by
  obtain ⟨id, hb⟩ := takeMethod_eq_ok_iff.mp hb
  refine ⟨h.addMethod hb, fun {type method} ↦ ?_, find?_bare_addMethod hb, methods_addMethod hb,
    calls_addMethod hb⟩
  rw [h.owns_addMethod hb, List.mem_singleton, Prod.ext_iff]

/-- All methods of a list. -/
theorem registers_of_foldlM (h : a.IsWellFormed) {l : List (Identifier × Identifier)}
    (hb : l.foldlM takeMethod a = .ok b) : a.Registers l b := by
  induction l generalizing a with
  | nil =>
    obtain rfl : a = b := by injection hb
    exact ⟨h, by simp, fun _ ↦ rfl, rfl, rfl⟩
  | cons m rest ih =>
    rw [List.foldlM_cons, bind_eq_ok_iff] at hb
    obtain ⟨c, hc, hb⟩ := hb
    have hone := registers_of_takeMethod h hc
    have hrest := ih hone.isWellFormed hb
    refine ⟨hrest.isWellFormed, fun {type method} ↦ ?_, fun type ↦ ?_, ?_, ?_⟩
    · rw [hrest.owns_iff, hone.owns_iff, List.mem_singleton, List.mem_cons, or_assoc]
    · rw [hrest.bare, hone.bare]
    · rw [hrest.methods, hone.methods]
      rfl
    · rw [hrest.calls, hone.calls]

/-- The methods can be registered: their types are known, and each belongs to one type, here and on
the list. -/
def CanRegister (a : Assembly) (l : List (Identifier × Identifier)) : Prop :=
  ∀ m ∈ l, (a.types.find? m.1).isSome ∧ (∀ type, a.Owns type m.2 → type = m.1) ∧
    ∀ m' ∈ l, m'.2 = m.2 → m'.1 = m.1

theorem IsWellFormed.exists_takeMethod_iff (h : a.IsWellFormed) {m : Identifier × Identifier} :
    (∃ b, a.takeMethod m = .ok b) ↔
      (a.types.find? m.1).isSome ∧ ∀ type, a.Owns type m.2 → type = m.1 := by
  simp only [takeMethod_eq_ok_iff, ← h.exists_addMethod_iff]

/-- Behind the first method the others can be registered if they could with it on the list. -/
theorem canRegister_cons_iff (h : a.IsWellFormed) {m : Identifier × Identifier}
    {rest : List (Identifier × Identifier)} (hc : a.takeMethod m = .ok c) :
    a.CanRegister (m :: rest) ↔ c.CanRegister rest := by
  have hone := registers_of_takeMethod h hc
  obtain ⟨htype, howner⟩ := h.exists_takeMethod_iff.mp ⟨c, hc⟩
  have hsome : ∀ type, (c.types.find? type).isSome = (a.types.find? type).isSome := fun type ↦ by
    rw [← Option.isSome_map (f := TypeInfo.bare), hone.bare, Option.isSome_map]
  simp only [CanRegister, hone.owns_iff, List.mem_singleton, hsome, List.forall_mem_cons]
  constructor
  · rintro ⟨-, hall⟩ m' hm'
    obtain ⟨htype', howner', hsame, hothers⟩ := hall m' hm'
    refine ⟨htype', fun type hown ↦ hown.elim (howner' type) ?_, hothers⟩
    rintro rfl
    exact hsame rfl
  · intro hall
    have hsame : ∀ m' ∈ rest, m'.2 = m.2 → m'.1 = m.1 := fun m' hm' heq ↦
      ((hall m' hm').2.1 m.1 (.inr (by rw [heq]))).symm
    refine ⟨⟨htype, howner, fun _ ↦ trivial, hsame⟩, fun m' hm' ↦ ?_⟩
    obtain ⟨htype', howner', hothers⟩ := hall m' hm'
    exact ⟨htype', fun type hown ↦ howner' type (.inl hown),
      fun heq ↦ (hsame m' hm' heq.symm).symm, hothers⟩

/-- **Methods are registered in any order or not at all.** -/
theorem exists_foldlM_takeMethod_iff (h : a.IsWellFormed) {l : List (Identifier × Identifier)} :
    (∃ b, l.foldlM takeMethod a = .ok b) ↔ a.CanRegister l := by
  induction l generalizing a with
  | nil => exact iff_of_true ⟨a, rfl⟩ (by rintro _ ⟨⟩)
  | cons m rest ih =>
    simp only [List.foldlM_cons, bind_eq_ok_iff]
    constructor
    · rintro ⟨b, c, hc, hb⟩
      have hrest := (ih (registers_of_takeMethod h hc).isWellFormed).mp ⟨b, hb⟩
      exact (canRegister_cons_iff h hc).mpr hrest
    · intro hall
      have hfirst := hall m List.mem_cons_self
      obtain ⟨c, hc⟩ := h.exists_takeMethod_iff.mpr ⟨hfirst.1, hfirst.2.1⟩
      obtain ⟨b, hb⟩ := (ih (registers_of_takeMethod h hc).isWellFormed).mpr
        ((canRegister_cons_iff h hc).mp hall)
      exact ⟨b, c, hc, hb⟩

/-! ## Types -/

/-- Registering types with names of their own gives each of them what the list says, and leaves the
others. -/
theorem bare_foldl_takeType {l : List (Identifier × TypeInfo)} (hnames : (l.map Prod.fst).Nodup)
    {type : Identifier} {info : TypeInfo} :
    ((l.foldl takeType a).types.find? type).map TypeInfo.bare = some info ↔
      (∃ e ∈ l, e.1 = type ∧ e.2.bare = info) ∨
        type ∉ l.map Prod.fst ∧ (a.types.find? type).map TypeInfo.bare = some info := by
  induction l generalizing a with
  | nil => simp
  | cons e rest ih =>
    rw [List.map_cons, List.nodup_cons] at hnames
    have hone : ((a.takeType e).types.find? type).map TypeInfo.bare =
        if type = e.1 then some e.2.bare else (a.types.find? type).map TypeInfo.bare := by
      rw [takeType, find?_addType]
      split <;> rfl
    rw [List.foldl_cons, ih hnames.2, hone]
    simp only [List.map_cons, List.mem_cons, exists_eq_or_imp]
    by_cases htype : type = e.1
    · subst htype
      have hno : ¬ ∃ e' ∈ rest, e'.1 = e.1 ∧ e'.2.bare = info := by
        rintro ⟨e', he', heq, -⟩
        exact hnames.1 (heq ▸ List.mem_map_of_mem he')
      simp [hno, hnames.1]
    · simp [htype, Ne.symm htype]

theorem owns_foldl_takeType {l : List (Identifier × TypeInfo)} {type method : Identifier} :
    (l.foldl takeType a).Owns type method ↔ a.Owns type method := by
  induction l generalizing a with
  | nil => rfl
  | cons e rest ih =>
    rw [List.foldl_cons, ih]
    simp only [Owns, takeType, defines_addType]

theorem methodIds_foldl_takeType (l : List (Identifier × TypeInfo)) :
    (l.foldl takeType a).methodIds = a.methodIds := by
  induction l generalizing a with
  | nil => rfl
  | cons e rest ih => exact ih

theorem calls_foldl_takeType (l : List (Identifier × TypeInfo)) :
    (l.foldl takeType a).calls = a.calls := by
  induction l generalizing a with
  | nil => rfl
  | cons e rest ih => exact ih

theorem IsWellFormed.foldl_takeType (h : a.IsWellFormed) (l : List (Identifier × TypeInfo)) :
    (l.foldl takeType a).IsWellFormed := by
  induction l generalizing a with
  | nil => exact h
  | cons e rest ih => exact ih (h.addType ..)

/-! ## Calls -/

theorem foldl_takeCall (l : List CallSite) :
    l.foldl takeCall a = { a with calls := a.calls ++ l } := by
  induction l generalizing a with
  | nil => rw [List.foldl_nil, List.append_nil]
  | cons c rest ih =>
    rw [List.foldl_cons, ih]
    simp only [takeCall, addCall, List.append_assoc, List.singleton_append]

end Assembly

/-! ## Reports in another order -/

/-- The same reports of each kind, in some order. -/
structure Facts.Reports.Perm (r r' : Facts.Reports) : Prop where
  types : r.types.Perm r'.types
  methods : r.methods.Perm r'.methods
  calls : r.calls.Perm r'.calls

namespace Assembly

/-- The assemblies say the same of the same types, own the same methods and recorded the same calls
in some order; their methods may have other ids. -/
structure Agrees (a b : Assembly) : Prop where
  bare : ∀ type, (a.types.find? type).map TypeInfo.bare = (b.types.find? type).map TypeInfo.bare
  owns_iff : ∀ {type method}, a.Owns type method ↔ b.Owns type method
  calls : a.calls.Perm b.calls

variable {a : Assembly} {r r' : Facts.Reports}

/-- What is in a new assembly that took reports. -/
theorem take_spec (ha : empty.take r = .ok a) :
    (r.types.foldl takeType empty).CanRegister r.methods ∧ a.IsWellFormed ∧
      (∀ {type method}, a.Owns type method ↔ (type, method) ∈ r.methods) ∧
      (∀ type, (a.types.find? type).map TypeInfo.bare =
        ((r.types.foldl takeType empty).types.find? type).map TypeInfo.bare) ∧
      a.methods = r.methods.foldl appendNew [] ∧ a.calls = r.calls := by
  have hwell := isWellFormed_empty.foldl_takeType r.types
  rw [take, bind_eq_ok_iff] at ha
  obtain ⟨b, hb, ha⟩ := ha
  obtain rfl : r.calls.foldl takeCall b = a := by injection ha
  have hreg := registers_of_foldlM hwell hb
  rw [foldl_takeCall]
  refine ⟨(exists_foldlM_takeMethod_iff hwell).mp ⟨b, hb⟩, hreg.isWellFormed.of_eq rfl rfl,
    fun {type method} ↦ ?_, hreg.bare, ?_, ?_⟩
  · have howns : ¬ empty.Owns type method := by
      rintro ⟨_, _, ⟨⟩, _⟩
    exact (hreg.owns_iff.trans (or_congr_left owns_foldl_takeType)).trans (or_iff_right howns)
  · exact hreg.methods.trans (by rw [methods, methodIds_foldl_takeType]; rfl)
  · simp only [hreg.calls, calls_foldl_takeType]
    rfl

/-- **Reports are registered in any order or not at all**, and the order shows in the ids only. -/
theorem take_perm (hperm : r.Perm r') (hnames : (r.types.map Prod.fst).Nodup)
    (ha : empty.take r = .ok a) : ∃ b, empty.take r' = .ok b ∧ a.Agrees b := by
  obtain ⟨hcan, -, howns, hbare, -, hcalls⟩ := take_spec ha
  have htypes : ∀ type, ((r.types.foldl takeType empty).types.find? type).map TypeInfo.bare =
      ((r'.types.foldl takeType empty).types.find? type).map TypeInfo.bare := fun type ↦ by
    refine Option.ext fun info ↦ ?_
    have hnames' : (r'.types.map Prod.fst).Nodup := (hperm.types.map _).nodup_iff.mp hnames
    rw [bare_foldl_takeType hnames, bare_foldl_takeType hnames']
    simp only [hperm.types.mem_iff, (hperm.types.map Prod.fst).mem_iff]
  -- whether methods can be registered depends on their owners only, and these are the same
  have hcan' : (r'.types.foldl takeType empty).CanRegister r'.methods := by
    intro m hm
    obtain ⟨htype, howner, hothers⟩ := hcan m (hperm.methods.mem_iff.mpr hm)
    refine ⟨?_, fun type hown ↦ howner type ?_, fun m' hm' ↦ hothers m' ?_⟩
    · rwa [← Option.isSome_map (f := TypeInfo.bare), ← htypes, Option.isSome_map]
    · exact owns_foldl_takeType.mpr (owns_foldl_takeType.mp hown)
    · exact hperm.methods.mem_iff.mpr hm'
  obtain ⟨b₂, hb₂⟩ := (exists_foldlM_takeMethod_iff
    (isWellFormed_empty.foldl_takeType r'.types)).mpr hcan'
  have hb : empty.take r' = .ok (r'.calls.foldl takeCall b₂) := by
    rw [take, bind_eq_ok_iff]
    exact ⟨b₂, hb₂, rfl⟩
  obtain ⟨-, -, howns', hbare', -, hcalls'⟩ := take_spec hb
  refine ⟨_, hb, fun type ↦ ?_, fun {type method} ↦ ?_, ?_⟩
  · rw [hbare, htypes, hbare']
  · rw [howns, howns', hperm.methods.mem_iff]
  · rw [hcalls, hcalls']
    exact hperm.calls

/-- The order of method reports tells the ids of methods. -/
theorem methodIds_eq_of_take {b : Assembly} (hmethods : r.methods = r'.methods)
    (ha : empty.take r = .ok a) (hb : empty.take r' = .ok b) : a.methodIds = b.methodIds := by
  obtain ⟨-, hwell, -, -, ha, -⟩ := take_spec ha
  obtain ⟨-, hwell', -, -, hb, -⟩ := take_spec hb
  exact hwell.methodIds_eq hwell' (by rw [ha, hb, hmethods])

end Assembly

end RevisionGraph
