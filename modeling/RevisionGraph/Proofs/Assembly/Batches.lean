import RevisionGraph.Proofs.Assembly.Order
import RevisionGraph.Proofs.Assembly.Phases

/-!
# Facts in batches

Facts that are applied in two batches could be applied in one.  That is not plain from the code,
since one batch registers all its types before any of its methods, and so it takes the types of the
second batch ahead of the methods and calls of the first.  What has to be shown is that types can be
moved.

* **One step.**  `takeMethod_takeType`: a method that can be registered can be registered behind one
  more type, and then the type might as well come behind the method.  A type keeps its methods when
  it is registered again, so this holds of the method's own type too.
* **All steps.**  `foldlM_takeMethod_foldl_takeType` moves the types of a batch, and `take_append`
  puts the reports of two batches together.
-/

set_option autoImplicit false

namespace RevisionGraph

open Result OrderedMap

/-- The reports of two batches. -/
def Facts.Reports.append (r r' : Facts.Reports) : Facts.Reports where
  types := r.types ++ r'.types
  methods := r.methods ++ r'.methods
  calls := r.calls ++ r'.calls

theorem Facts.Reports.AreOf.append {r r' : Facts.Reports} {facts facts' : List Json}
    (h : r.AreOf facts) (h' : r'.AreOf facts') : (r.append r').AreOf (facts ++ facts') where
  types := by
    rw [List.filter_append]
    exact List.rel_append h.types h'.types
  methods := by
    rw [List.filter_append]
    exact List.rel_append h.methods h'.methods
  calls := by
    rw [List.filter_append]
    exact List.rel_append h.calls h'.calls

namespace Assembly

variable {a b c : Assembly}

/-! ## Moving a type ahead -/

/-- The type with the methods that are known of it. -/
def retyped (a : Assembly) (e : Identifier × TypeInfo) : TypeInfo :=
  { e.2 with methods := (a.types.find? e.1).elim .empty TypeInfo.methods }

theorem takeType_eq (a : Assembly) (e : Identifier × TypeInfo) :
    a.takeType e = { a with types := a.types.insert e.1 (a.retyped e) } := by
  rw [takeType, addType, retyped]
  cases a.types.find? e.1 <;> rfl

/-- A type and a new method are registered in either order. -/
theorem exists_takeType_register {m : Identifier × Identifier} {info : TypeInfo}
    (hinfo : a.types.find? m.1 = some info) (e : Identifier × TypeInfo) :
    ∃ info', (a.takeType e).types.find? m.1 = some info' ∧
      (a.register m.1 info m.2).takeType e = (a.takeType e).register m.1 info' m.2 := by
  by_cases hm : m.1 = e.1
  · rw [hm] at hinfo ⊢
    refine ⟨a.retyped e, by rw [takeType_eq, find?_insert, if_pos rfl], ?_⟩
    simp [takeType_eq, register, retyped, hinfo, find?_insert, insert_insert]
  · have hknown : m.1 ∈ a.types.keys := find?_isSome_iff.mp (by rw [hinfo]; rfl)
    refine ⟨info, by rw [takeType_eq, find?_insert, if_neg hm, hinfo], ?_⟩
    simp [takeType_eq, register, retyped, find?_insert, Ne.symm hm, insert_comm hm hknown]

/-- **A type that is registered behind a method could have been registered ahead of it.** -/
theorem takeMethod_takeType {m : Identifier × Identifier} (hb : a.takeMethod m = .ok b)
    (e : Identifier × TypeInfo) : (a.takeType e).takeMethod m = .ok (b.takeType e) := by
  rw [takeMethod_eq_ok_iff] at hb ⊢
  obtain ⟨id, hb⟩ := hb
  refine ⟨id, addMethod_eq_ok_iff.mpr ?_⟩
  rcases addMethod_eq_ok_iff.mp hb with ⟨hid, hdef, rfl⟩ | ⟨info, hinfo, hnew, hid, rfl⟩
  · exact .inl ⟨hid, (defines_addType ..).mpr hdef, rfl⟩
  · obtain ⟨info', hinfo', heq⟩ := exists_takeType_register hinfo e
    exact .inr ⟨info', hinfo', hnew, hid, heq⟩

theorem takeMethod_foldl_takeType {m : Identifier × Identifier} (hb : a.takeMethod m = .ok b)
    (types : List (Identifier × TypeInfo)) :
    (types.foldl takeType a).takeMethod m = .ok (types.foldl takeType b) := by
  induction types generalizing a b with
  | nil => exact hb
  | cons e rest ih => exact ih (takeMethod_takeType hb e)

/-- The types of a batch go ahead of methods. -/
theorem foldlM_takeMethod_foldl_takeType {methods : List (Identifier × Identifier)}
    (hb : methods.foldlM takeMethod a = .ok b) (types : List (Identifier × TypeInfo)) :
    methods.foldlM takeMethod (types.foldl takeType a) = .ok (types.foldl takeType b) := by
  induction methods generalizing a with
  | nil =>
    obtain rfl : a = b := by injection hb
    rfl
  | cons m rest ih =>
    rw [List.foldlM_cons, bind_eq_ok_iff] at hb
    obtain ⟨c, hc, hb⟩ := hb
    rw [List.foldlM_cons, bind_of_eq_ok (takeMethod_foldl_takeType hc types)]
    exact ih hb

/-! ## Moving calls back -/

theorem foldl_takeType_foldl_takeCall (types : List (Identifier × TypeInfo))
    (calls : List CallSite) : types.foldl takeType (calls.foldl takeCall a) =
      calls.foldl takeCall (types.foldl takeType a) := by
  simp only [foldl_takeCall]
  induction types generalizing a with
  | nil => rfl
  | cons e rest ih =>
    rw [List.foldl_cons, List.foldl_cons, takeType_eq, takeType_eq]
    exact ih (a := { a with types := _ })

/-- Calls have no part in the registering of methods. -/
theorem takeMethod_foldl_takeCall (m : Identifier × Identifier) (calls : List CallSite) :
    (calls.foldl takeCall a).takeMethod m = (a.takeMethod m).map (calls.foldl takeCall) := by
  simp only [foldl_takeCall, takeMethod, addMethod, methodId?]
  cases a.types.find? m.1 with
  | none => rfl
  | some info =>
    cases a.methodIds.find? m.2 with
    | none => rfl
    | some id =>
      simp only
      split <;> rfl

theorem foldlM_takeMethod_foldl_takeCall (methods : List (Identifier × Identifier))
    (calls : List CallSite) : methods.foldlM takeMethod (calls.foldl takeCall a) =
      (methods.foldlM takeMethod a).map (calls.foldl takeCall) := by
  induction methods generalizing a with
  | nil => rfl
  | cons m rest ih =>
    rw [List.foldlM_cons, List.foldlM_cons, takeMethod_foldl_takeCall]
    cases a.takeMethod m with
    | error e => rfl
    | ok c => exact ih

/-! ## Two batches -/

/-- **Reports that are taken in two batches could be taken in one.** -/
theorem take_append {r r' : Facts.Reports} (hb : a.take r = .ok b) (hc : b.take r' = .ok c) :
    a.take (r.append r') = .ok c := by
  rw [take, bind_eq_ok_iff] at hb hc
  obtain ⟨a₂, ha₂, hb⟩ := hb
  obtain rfl : r.calls.foldl takeCall a₂ = b := by injection hb
  obtain ⟨b₂, hb₂, hc⟩ := hc
  -- the calls of the first batch go behind the types and the methods of the second
  rw [foldl_takeType_foldl_takeCall, foldlM_takeMethod_foldl_takeCall] at hb₂
  cases hmethods : r'.methods.foldlM takeMethod (r'.types.foldl takeType a₂) with
  | error e =>
    rw [hmethods] at hb₂
    cases hb₂
  | ok c₂ =>
    rw [hmethods] at hb₂
    obtain rfl : r.calls.foldl takeCall c₂ = b₂ := by injection hb₂
    have hfirst := foldlM_takeMethod_foldl_takeType ha₂ r'.types
    rw [take, Facts.Reports.append, List.foldl_append, List.foldlM_append, bind_of_eq_ok hfirst,
      bind_of_eq_ok hmethods, List.foldl_append]
    exact hc

/-- **Facts that are applied in two batches could be applied in one.**  The counts add up, and the
assembly is the same: its types with their methods, the ids and the calls, and the order of each. -/
theorem applyFacts_append {xs ys : List String} {n k : Nat} (hxs : a.applyFacts xs = (b, .ok n))
    (hys : b.applyFacts ys = (c, .ok k)) : a.applyFacts (xs ++ ys) = (c, .ok (n + k)) := by
  obtain ⟨hxlines, r, hr, htake⟩ := applyFacts_eq_ok_iff.mp ⟨n, hxs⟩
  obtain ⟨hylines, r', hr', htake'⟩ := applyFacts_eq_ok_iff.mp ⟨k, hys⟩
  have hareOf : (r.append r').AreOf ((xs ++ ys).filterMap Facts.onLine?) := by
    rw [List.filterMap_append]
    exact hr.append hr'
  obtain ⟨count, happly⟩ := applyFacts_eq_ok_iff.mpr
    ⟨List.forall_mem_append.mpr ⟨hxlines, hylines⟩, _, hareOf, take_append htake htake'⟩
  rw [happly, eq_countP_of_applyFacts happly, List.countP_append, eq_countP_of_applyFacts hxs,
    eq_countP_of_applyFacts hys]

/-- The type again, with an ancestor this time. -/
def sampleTypeAgain : String :=
  "\x7b\"kind\":\"type\",\"uri\":\"A\",\"sourceFile\":\"A.java\",\"superClasses\":[\"O\"]\x7d"

/-- A type, a method of it and a call. -/
def sampleBatch : List String := [sampleMethod "m", sampleCall, sampleType]

/-- Another method, and the type, which has one by now. -/
def sampleBatch' : List String := [sampleMethod "n", sampleTypeAgain]

theorem applyFacts_append_sample : ∃ b n c k, empty.applyFacts sampleBatch = (b, .ok n) ∧
    b.applyFacts sampleBatch' = (c, .ok k) ∧
      empty.applyFacts (sampleBatch ++ sampleBatch') = (c, .ok (n + k)) := by
  have hfirst : (empty.applyFacts sampleBatch).2.isOk = true := by decide +kernel
  have hsecond : ((empty.applyFacts sampleBatch).1.applyFacts sampleBatch').2.isOk = true := by
    decide +kernel
  obtain ⟨n, hn⟩ := exists_eq_of_isOk_applyFacts hfirst
  obtain ⟨k, hk⟩ := exists_eq_of_isOk_applyFacts hsecond
  exact ⟨_, n, _, k, hn, hk, applyFacts_append hn hk⟩

end Assembly

end RevisionGraph
