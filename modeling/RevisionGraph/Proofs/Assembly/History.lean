import Mathlib.Data.Int.ConditionallyCompleteOrder
import Mathlib.Data.List.Dedup
import Mathlib.Data.Set.Function
import Mathlib.Order.ConditionallyCompleteLattice.Basic
import Mathlib.Order.Interval.Set.Defs
import RevisionGraph.Proofs.Assembly.Registry

/-!
# Histories of assemblies

An `Assembly.Operation` is something that an assembly is asked to do.  It may be refused, and then
the next one finds what the refused one left.  `Assembly.run` goes through a whole history of
operations, from a new assembly on.

* **Registrations.**  `registrations` lists the methods that a history registered, a method as often
  as it was.
* **The registry.**  `IsRegistryOf` says what an assembly holds of such a list: which ids there are,
  which method has which of them, and which type.  Every history keeps it, `isRegistryOf_run`.
* **The run.**  `run_registry` puts this together with what is refused and what never changes.
-/

set_option autoImplicit false

namespace RevisionGraph

open OrderedMap

namespace Assembly

/-! ## Operations -/

/-- What an assembly can be asked to do. -/
inductive Operation where
  | addType (name : Identifier) (sourceFile : String)
      (superClasses superInterfaces : List Identifier)
  | addMethod (type method : Identifier)
  | addCall (source target : Identifier) (callType : String)
  | buildGraph
  | build (release : Release)

/-- What an operation leaves, and the id that it gives to a method or why it is refused. -/
def perform (a : Assembly) : Operation → Assembly × Result (Option MethodId)
  | .addType name sourceFile superClasses superInterfaces =>
    (a.addType name sourceFile superClasses superInterfaces, .ok none)
  | .addMethod type method =>
    let (a, result) := a.addMethod type method
    (a, result.map some)
  | .addCall source target callType => (a.addCall source target callType, .ok none)
  | .buildGraph => (a.buildGraph.1, a.buildGraph.2.map fun _ ↦ none)
  | .build release => ((a.build release).1, (a.build release).2.map fun _ ↦ none)

/-- What a history leaves of an assembly. -/
def runFrom (a : Assembly) (history : List Operation) : Assembly :=
  history.foldl (fun a op ↦ (a.perform op).1) a

/-- The assembly that a history leads to. -/
def run (history : List Operation) : Assembly := runFrom empty history

/-- The method that an operation registers, which may be there already. -/
def registration? (a : Assembly) : Operation → Option Identifier
  | .addMethod type method => if (a.addMethod type method).2.isOk then some method else none
  | _ => none

/-- The methods that a history registers, one after the other. -/
def registrations : Assembly → List Operation → List Identifier
  | _, [] => []
  | a, op :: rest => (a.registration? op).toList ++ registrations (a.perform op).1 rest

variable {a b : Assembly} {type method : Identifier} {id : MethodId} {op : Operation}

theorem runFrom_append (a : Assembly) (before after : List Operation) :
    a.runFrom (before ++ after) = (a.runFrom before).runFrom after :=
  List.foldl_append

theorem registrations_append (a : Assembly) (before after : List Operation) :
    a.registrations (before ++ after) =
      a.registrations before ++ (a.runFrom before).registrations after := by
  induction before generalizing a with
  | nil => rfl
  | cons op rest ih =>
    rw [List.cons_append, registrations, ih, registrations, List.append_assoc]
    rfl

/-! ### One operation -/

theorem perform_addMethod_of_ok (h : a.addMethod type method = (b, .ok id)) :
    a.perform (.addMethod type method) = (b, .ok (some id)) := by
  rw [perform, h]
  rfl

theorem perform_addMethod_of_error {e : Fault} (h : a.addMethod type method = (a, .error e)) :
    a.perform (.addMethod type method) = (a, .error e) := by
  rw [perform, h]
  rfl

/-- The id that is given is the id of the method from then on. -/
theorem methodId?_addMethod (h : a.addMethod type method = (b, .ok id)) :
    b.methodId? method = some id := by
  rcases addMethod_eq_ok_iff.mp h with ⟨hid, -, rfl⟩ | ⟨info, -, hnew, hid, rfl⟩
  · exact hid
  · exact (methodId?_register hnew).mpr (.inr ⟨hid, rfl⟩)

theorem registration?_of_ok (h : a.addMethod type method = (b, .ok id)) :
    a.registration? (.addMethod type method) = some method := by
  rw [registration?, h]
  rfl

theorem registration?_of_error {e : Fault} (h : a.addMethod type method = (a, .error e)) :
    a.registration? (.addMethod type method) = none := by
  rw [registration?, h]
  rfl

theorem IsWellFormed.perform (h : a.IsWellFormed) (op : Operation) :
    (a.perform op).1.IsWellFormed := by
  cases op with
  | addType name sourceFile superClasses superInterfaces => exact h.addType ..
  | addMethod type method =>
    rcases a.addMethod_cases type method with ⟨b, id, hadd⟩ | ⟨e, hadd⟩
    · exact perform_addMethod_of_ok hadd ▸ h.addMethod hadd
    · exact perform_addMethod_of_error hadd ▸ h
  | addCall source target callType => exact h.of_eq rfl rfl
  | buildGraph => exact h.of_eq a.types_buildGraph a.methodIds_buildGraph
  | build release => exact h.of_eq (a.types_build release) (a.methodIds_build release)

/-- Nothing but a registration touches the table of ids. -/
theorem methodIds_perform (h : a.registration? op = none) :
    (a.perform op).1.methodIds = a.methodIds := by
  cases op with
  | addType name sourceFile superClasses superInterfaces => rfl
  | addMethod type method =>
    rcases a.addMethod_cases type method with ⟨b, id, hadd⟩ | ⟨e, hadd⟩
    · cases (registration?_of_ok hadd).symm.trans h
    · rw [perform_addMethod_of_error hadd]
  | addCall source target callType => rfl
  | buildGraph => exact a.methodIds_buildGraph
  | build release => exact a.methodIds_build release

/-! ## Ids and registrations -/

/-- What is registered last comes first on no list that it was on before. -/
theorem exists_split_append_iff {l : List Identifier} {last : Identifier}
    {p : List Identifier → Prop} :
    (∃ before after, l ++ [last] = before ++ method :: after ∧ method ∉ before ∧ p before) ↔
      (∃ before after, l = before ++ method :: after ∧ method ∉ before ∧ p before) ∨
        method = last ∧ last ∉ l ∧ p l := by
  constructor
  · rintro ⟨before, after, hsplit, hnot, hp⟩
    rcases List.eq_nil_or_concat after with rfl | ⟨rest, x, rfl⟩
    · obtain ⟨rfl, hlast⟩ := List.append_inj' hsplit rfl
      obtain rfl : last = method := by simpa using hlast
      exact .inr ⟨rfl, hnot, hp⟩
    · rw [List.concat_eq_append, ← List.cons_append, ← List.append_assoc] at hsplit
      obtain ⟨rfl, -⟩ := List.append_inj' hsplit rfl
      exact .inl ⟨before, rest, rfl, hnot, hp⟩
  · rintro (⟨before, after, rfl, hnot, hp⟩ | ⟨rfl, hnot, hp⟩)
    · exact ⟨before, after ++ [last], by simp, hnot, hp⟩
    · exact ⟨l, [], rfl, hnot, hp⟩

/-- The assembly numbers the methods of the list: each has as its id the number of different methods
before its first place. -/
structure Numbers (a : Assembly) (l : List Identifier) : Prop where
  mem_methods_iff : ∀ method, method ∈ a.methods ↔ method ∈ l
  methodId?_iff : ∀ method id, a.methodId? method = some id ↔
    ∃ before after, l = before ++ method :: after ∧ method ∉ before ∧ id = before.dedup.length

theorem numbers_empty : empty.Numbers [] where
  mem_methods_iff _ := Iff.rfl
  methodId?_iff method id := by
    refine iff_of_false (by rintro ⟨⟩) ?_
    rintro ⟨before, after, hnil, -⟩
    exact absurd hnil.symm (by simp)

namespace Numbers

variable {l : List Identifier}

theorem length_dedup (h : a.Numbers l) : l.dedup.length = a.methodIds.size := by
  rw [← length_methods]
  refine (List.Perm.length_eq ?_).symm
  refine (List.perm_ext_iff_of_nodup a.nodup_methods l.nodup_dedup).mpr fun method ↦ ?_
  rw [h.mem_methods_iff, List.mem_dedup]

/-- A method that is registered goes on the list, wherever it was before. -/
theorem addMethod (h : a.Numbers l) (hb : a.addMethod type method = (b, .ok id)) :
    b.Numbers (l ++ [method]) := by
  rcases addMethod_eq_ok_iff.mp hb with ⟨hid, -, rfl⟩ | ⟨info, -, hnew, -, rfl⟩
  · have hmem : method ∈ l := (h.mem_methods_iff method).mp (mem_methods_of_methodId? hid)
    constructor
    · intro other
      rw [h.mem_methods_iff, List.mem_append, List.mem_singleton]
      refine (or_iff_left_of_imp ?_).symm
      rintro rfl
      exact hmem
    · intro other id'
      rw [exists_split_append_iff, h.methodId?_iff]
      exact (or_iff_left fun hlast ↦ hlast.2.1 hmem).symm
  · have hmem : method ∉ l := fun hl ↦
      methodId?_eq_none_iff.mp hnew ((h.mem_methods_iff method).mpr hl)
    constructor
    · intro other
      rw [List.mem_append, List.mem_singleton, ← h.mem_methods_iff, or_comm]
      exact mem_keys_insert
    · intro other id'
      rw [methodId?_register hnew, exists_split_append_iff, h.methodId?_iff,
        ← h.length_dedup]
      refine or_congr_right ⟨fun hlast ↦ ⟨hlast.2, hmem, hlast.1⟩, fun hlast ↦ ⟨hlast.2.2, hlast.1⟩⟩

/-- Only the table of ids matters. -/
theorem of_eq (h : a.Numbers l) (hids : b.methodIds = a.methodIds) : b.Numbers l := by
  refine ⟨fun method ↦ ?_, fun method id ↦ ?_⟩
  · rw [methods, hids]
    exact h.mem_methods_iff method
  · rw [methodId?, hids]
    exact h.methodId?_iff method id

theorem perform (h : a.Numbers l) (op : Operation) :
    (a.perform op).1.Numbers (l ++ (a.registration? op).toList) := by
  cases hreg : a.registration? op with
  | none =>
    rw [Option.toList_none, List.append_nil]
    exact h.of_eq (methodIds_perform hreg)
  | some method' =>
    cases op with
    | addMethod type method =>
      rcases a.addMethod_cases type method with ⟨b, id, hadd⟩ | ⟨e, hadd⟩
      · cases (registration?_of_ok hadd).symm.trans hreg
        rw [perform_addMethod_of_ok hadd]
        exact h.addMethod hadd
      · cases (registration?_of_error hadd).symm.trans hreg
    | _ => cases hreg

end Numbers

/-! ## The registry -/

/-- What an assembly holds of the methods on a list. -/
structure IsRegistryOf (a : Assembly) (l : List Identifier) : Prop where
  /-- Other methods have no id. -/
  methodId?_eq_none : ∀ method, method ∉ l → a.methodId? method = none
  /-- The ids are the numbers from zero on, one for each method. -/
  bijOn : Set.BijOn a.methodId? {method | method ∈ l}
    (some '' Set.Ico 0 (l.dedup.length : MethodId))
  /-- An id is the number of different methods that were registered before. -/
  methodId?_iff : ∀ method id, a.methodId? method = some id ↔
    ∃ before after, l = before ++ method :: after ∧ method ∉ before ∧ id = before.dedup.length
  /-- An id is in one type, where it is the id of its method. -/
  owner : ∀ method id, a.methodId? method = some id → ∃ type, a.types.Defines type id method ∧
    ∀ type' method', a.types.Defines type' id method' → type' = type ∧ method' = method
  /-- Types have no other ids. -/
  methodId?_of_defines : ∀ type id method, a.types.Defines type id method →
    a.methodId? method = some id

theorem IsWellFormed.isRegistryOf (h : a.IsWellFormed) {l : List Identifier} (hl : a.Numbers l) :
    a.IsRegistryOf l where
  methodId?_eq_none method hmem :=
    methodId?_eq_none_iff.mpr fun hmethod ↦ hmem ((hl.mem_methods_iff method).mp hmethod)
  bijOn := by
    rw [hl.length_dedup]
    -- ids are below the number of methods, no two methods share one, and each is some method's
    refine ⟨fun method hmem ↦ ?_, fun method hmem method' _ heq ↦ ?_, ?_⟩
    · obtain ⟨id, hid⟩ := Option.isSome_iff_exists.mp
        (isSome_methodId?_iff.mpr ((hl.mem_methods_iff method).mpr hmem))
      obtain ⟨n, rfl, hlt⟩ := h.exists_of_methodId? hid
      exact ⟨n, ⟨Int.natCast_nonneg n, Int.ofNat_lt.mpr hlt⟩, hid.symm⟩
    · obtain ⟨id, hid⟩ := Option.isSome_iff_exists.mp
        (isSome_methodId?_iff.mpr ((hl.mem_methods_iff method).mpr hmem))
      exact h.methodId?_inj hid (heq ▸ hid)
    · rintro _ ⟨id, ⟨hpos, hlt⟩, rfl⟩
      obtain ⟨n, rfl⟩ := Int.eq_ofNat_of_zero_le hpos
      have hn : n < a.methods.length := a.length_methods ▸ Int.ofNat_lt.mp hlt
      refine ⟨a.methods[n], (hl.mem_methods_iff _).mp (List.getElem_mem hn), ?_⟩
      exact h.methodId?_eq_some_iff.mpr ⟨n, rfl, List.getElem?_eq_getElem hn⟩
  methodId?_iff := hl.methodId?_iff
  owner method id hid := by
    obtain ⟨type, hown⟩ := h.exists_owner (mem_methods_of_methodId? hid)
    refine ⟨type, h.defines_iff.mpr ⟨hown, hid⟩, fun type' method' hdef ↦ ?_⟩
    obtain rfl := h.methodId?_inj (h.methodId?_of_defines hdef) hid
    exact ⟨h.owner_unique ⟨id, hdef⟩ hown, rfl⟩
  methodId?_of_defines _ _ _ hdef := h.methodId?_of_defines hdef

/-! ## Whole histories -/

theorem IsWellFormed.runFrom (h : a.IsWellFormed) (history : List Operation) :
    (a.runFrom history).IsWellFormed := by
  induction history generalizing a with
  | nil => exact h
  | cons op rest ih => exact ih (h.perform op)

theorem isWellFormed_run (history : List Operation) : (run history).IsWellFormed :=
  isWellFormed_empty.runFrom history

theorem Numbers.runFrom {l : List Identifier} (hl : a.Numbers l)
    (history : List Operation) : (a.runFrom history).Numbers (l ++ a.registrations history) := by
  induction history generalizing a l with
  | nil => exact (List.append_nil l).symm ▸ hl
  | cons op rest ih =>
    rw [registrations, ← List.append_assoc]
    exact ih (hl.perform op)

theorem isRegistryOf_run (history : List Operation) :
    (run history).IsRegistryOf (registrations empty history) :=
  (isWellFormed_run history).isRegistryOf (numbers_empty.runFrom history)

/-- A method keeps its id. -/
theorem methodId?_run_append {before : List Operation} (after : List Operation)
    (h : (run before).methodId? method = some id) :
    (run (before ++ after)).methodId? method = some id := by
  rw [(isRegistryOf_run before).methodId?_iff] at h
  obtain ⟨l, l', hsplit, hnot, hid⟩ := h
  rw [(isRegistryOf_run (before ++ after)).methodId?_iff, registrations_append, hsplit]
  exact ⟨l, _, by rw [List.append_assoc, List.cons_append], hnot, hid⟩

/-- A method is refused when its type is unknown or another type has it. -/
theorem IsWellFormed.addMethod_eq_error_iff (h : a.IsWellFormed) :
    (∃ e, (a.addMethod type method).2 = .error e) ↔
      a.types.find? type = none ∨ ∃ owner, owner ≠ type ∧ a.Owns owner method := by
  have herror : (∃ e, (a.addMethod type method).2 = .error e) ↔
      ¬ ∃ b id, a.addMethod type method = (b, .ok id) := by
    rcases a.addMethod_cases type method with ⟨b, id, hadd⟩ | ⟨e, hadd⟩ <;> simp [hadd]
  rw [herror, h.exists_addMethod_iff, not_and_or, Bool.not_eq_true, Option.isSome_eq_false_iff,
    Option.isNone_iff_eq_none]
  refine or_congr_right ?_
  simp only [not_forall, exists_prop]
  exact exists_congr fun owner ↦ and_comm

/-- **The registry of an assembly after any history**, refusals included: methods and ids correspond
one to one, each id is in one type, under its method; an id never changes; and a method is refused
when its type is unknown or another type has it, and nothing changes then. -/
theorem run_registry (history more : List Operation) :
    (run history).IsRegistryOf (registrations empty history) ∧
    (∀ method id, (run history).methodId? method = some id →
      (run (history ++ more)).methodId? method = some id) ∧
    ∀ type method,
      ((∃ e, ((run history).perform (.addMethod type method)).2 = .error e) ↔
        (run history).types.find? type = none ∨
          ∃ owner, owner ≠ type ∧ (run history).Owns owner method) ∧
      (∀ e, ((run history).perform (.addMethod type method)).2 = .error e →
        run (history ++ [.addMethod type method]) = run history) ∧
      (∀ id, ((run history).perform (.addMethod type method)).2 = .ok (some id) →
        (run (history ++ [.addMethod type method])).methodId? method = some id) := by
  refine ⟨isRegistryOf_run history, fun method id ↦ methodId?_run_append more, fun type method ↦ ?_⟩
  have hnext : run (history ++ [.addMethod type method]) =
      ((run history).perform (.addMethod type method)).1 := runFrom_append _ _ _
  rw [hnext, ← (isWellFormed_run history).addMethod_eq_error_iff]
  rcases (run history).addMethod_cases type method with ⟨b, id, hadd⟩ | ⟨e, hadd⟩
  · rw [perform_addMethod_of_ok hadd, hadd]
    refine ⟨by simp, (fun _ h ↦ nomatch h), fun id h ↦ ?_⟩
    cases h
    exact methodId?_addMethod hadd
  · rw [perform_addMethod_of_error hadd, hadd]
    exact ⟨by simp, fun _ _ ↦ rfl, fun _ h ↦ nomatch h⟩

end Assembly

end RevisionGraph
