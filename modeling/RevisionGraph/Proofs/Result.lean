import Mathlib.Data.List.Forall2
import Mathlib.Data.List.Induction
import RevisionGraph.Json.Field

/-!
# Readers that succeed or refuse

A reader of documents gives a `Result`.  Two views of it are used throughout.

* **What it reads.**  `bind_eq_ok_iff` and `mapM_eq_ok_iff` take a reader that succeeded apart;
  `bind_of_eq_ok` runs its first step, and `mapM_map_eq_ok` puts together the readers of a list that
  was written item by item.
* **What it accepts.**  `Decides r p` says that the reader succeeds when `p` holds and otherwise
  refuses the shape of the document, with no third way out.  It goes through sequencing
  (`Decides.bind`) and lists (`Decides.mapM`).
* **How it fails.**  `FailsWith r p` says that whatever it fails with satisfies `p`, and goes
  through the same (`FailsWith.bind`, `FailsWith.mapM`, `FailsWith.foldlM`).
* **Where it fails.**  `FirstFails` says which item of a list is the first that fails behind those
  ahead of it, and `foldlM_cases` that a run over the list ends there.
-/

set_option autoImplicit false

namespace RevisionGraph.Result

variable {α β γ : Type}

/-! ## What a reader reads -/

theorem bind_eq_ok_iff {x : Result α} {f : α → Result β} {b : β} :
    (x >>= f) = .ok b ↔ ∃ a, x = .ok a ∧ f a = .ok b := by
  cases x with
  | error e => exact ⟨by rintro ⟨⟩, by rintro ⟨_, ⟨⟩, _⟩⟩
  | ok a =>
    refine ⟨fun h ↦ ⟨a, rfl, h⟩, ?_⟩
    rintro ⟨_, ⟨⟩, hb⟩
    exact hb

theorem bind_eq_error_iff {x : Result α} {f : α → Result β} {e : Fault} :
    (x >>= f) = .error e ↔ x = .error e ∨ ∃ a, x = .ok a ∧ f a = .error e := by
  cases x with
  | error e' =>
    refine ⟨fun h ↦ .inl (by cases h; rfl), ?_⟩
    rintro (⟨⟨⟩⟩ | ⟨_, ⟨⟩, _⟩)
    rfl
  | ok a =>
    refine ⟨fun h ↦ .inr ⟨a, rfl, h⟩, ?_⟩
    rintro (⟨⟨⟩⟩ | ⟨_, ⟨⟩, he⟩)
    exact he

theorem exists_eq_ok_of_isOk {x : Result α} (h : x.isOk = true) : ∃ a, x = .ok a := by
  cases x with
  | error e => cases h
  | ok a => exact ⟨a, rfl⟩

/-- A sequence goes on with what its first step gives. -/
theorem bind_of_eq_ok {x : Result α} {f : α → Result β} {a : α} (h : x = .ok a) :
    (x >>= f) = f a := by
  rw [h]
  rfl

theorem mapM_eq_ok_iff {f : α → Result β} {l : List α} {out : List β} :
    l.mapM f = .ok out ↔ List.Forall₂ (fun a b ↦ f a = .ok b) l out := by
  induction l generalizing out with
  | nil =>
    rw [List.mapM_nil, List.forall₂_nil_left_iff]
    exact ⟨fun h ↦ by cases h; rfl, fun h ↦ by rw [h]; rfl⟩
  | cons a l ih =>
    rw [List.mapM_cons, bind_eq_ok_iff, List.forall₂_cons_left_iff]
    refine exists_congr fun b ↦ ?_
    rw [bind_eq_ok_iff]
    constructor
    · rintro ⟨hb, bs, hbs, hout⟩
      cases hout
      exact ⟨bs, hb, ih.mp hbs, rfl⟩
    · rintro ⟨bs, hb, hbs, rfl⟩
      exact ⟨hb, bs, ih.mpr hbs, rfl⟩

/-- A list that was written item by item is read item by item. -/
theorem mapM_map_eq_ok {f : β → Result γ} {g : α → β} {h : α → γ} {l : List α}
    (hl : ∀ a ∈ l, f (g a) = .ok (h a)) : (l.map g).mapM f = .ok (l.map h) := by
  rw [mapM_eq_ok_iff, List.forall₂_map_left_iff, List.forall₂_map_right_iff, List.forall₂_same]
  exact hl

section

variable {r : α → β → Prop} {l : List α} {m : List β}

theorem map_eq_of_forall₂ {f : α → γ} {g : β → γ} (h : List.Forall₂ r l m)
    (hr : ∀ a b, r a b → f a = g b) : l.map f = m.map g := by
  induction h with
  | nil => rfl
  | cons hab _ ih => rw [List.map_cons, List.map_cons, hr _ _ hab, ih]

theorem filterMap_eq_of_forall₂ {f : α → Option γ} {g : β → γ} (h : List.Forall₂ r l m)
    (hr : ∀ a b, r a b → f a = some (g b)) : l.filterMap f = m.map g := by
  induction h with
  | nil => rfl
  | cons hab _ ih => rw [List.filterMap_cons_some (hr _ _ hab), List.map_cons, ih]

theorem exists_left_of_forall₂ (h : List.Forall₂ r l m) {b : β} (hb : b ∈ m) : ∃ a ∈ l, r a b := by
  induction h with
  | nil => cases hb
  | @cons a b' l m hab _ ih =>
    rcases List.mem_cons.mp hb with rfl | hb
    · exact ⟨a, List.mem_cons_self, hab⟩
    · obtain ⟨c, hc, hcb⟩ := ih hb
      exact ⟨c, List.mem_cons_of_mem a hc, hcb⟩

theorem exists_right_of_forall₂ (h : List.Forall₂ r l m) {a : α} (ha : a ∈ l) : ∃ b ∈ m, r a b :=
  exists_left_of_forall₂ (r := flip r) h.flip ha

/-- A place in the second list is a place in the first. -/
theorem exists_split_left_of_forall₂ {b : β} {m₁ m₂ : List β}
    (h : List.Forall₂ r l (m₁ ++ b :: m₂)) :
    ∃ l₁ a l₂, l = l₁ ++ a :: l₂ ∧ r a b ∧ List.Forall₂ r l₂ m₂ := by
  induction m₁ generalizing l with
  | nil =>
    obtain ⟨a, l₂, hab, hrest, rfl⟩ := List.forall₂_cons_right_iff.mp h
    exact ⟨[], a, l₂, rfl, hab, hrest⟩
  | cons c m₁ ih =>
    obtain ⟨d, l, -, hrest, rfl⟩ := List.forall₂_cons_right_iff.mp h
    obtain ⟨l₁, a, l₂, rfl, hab, hafter⟩ := ih hrest
    exact ⟨d :: l₁, a, l₂, rfl, hab, hafter⟩

theorem exists_split_right_of_forall₂ {a : α} {l₁ l₂ : List α}
    (h : List.Forall₂ r (l₁ ++ a :: l₂) m) :
    ∃ m₁ b m₂, m = m₁ ++ b :: m₂ ∧ r a b ∧ List.Forall₂ r l₂ m₂ := by
  obtain ⟨m₁, b, m₂, hsplit, hab, hafter⟩ := exists_split_left_of_forall₂ (r := flip r) h.flip
  exact ⟨m₁, b, m₂, hsplit, hab, hafter.flip⟩

theorem sum_map_le_of_forall₂ {f : α → Nat} {g : β → Nat} (h : List.Forall₂ r l m)
    (hle : ∀ a b, r a b → g b ≤ f a) : (m.map g).sum ≤ (l.map f).sum := by
  induction h with
  | nil => exact Nat.le_refl _
  | cons hab _ ih =>
    rw [List.map_cons, List.map_cons, List.sum_cons, List.sum_cons]
    exact Nat.add_le_add (hle _ _ hab) ih

/-- Sums that are compared item by item are equal when the items are. -/
theorem sum_map_eq_iff_of_forall₂ {f : α → Nat} {g : β → Nat} {p : α → Prop}
    (h : List.Forall₂ r l m) (hle : ∀ a b, r a b → g b ≤ f a)
    (hp : ∀ a b, r a b → (g b = f a ↔ p a)) :
    (m.map g).sum = (l.map f).sum ↔ ∀ a ∈ l, p a := by
  induction h with
  | nil => simp
  | cons hab hrest ih =>
    have hfirst := hle _ _ hab
    have hothers := sum_map_le_of_forall₂ hrest hle
    rw [List.forall_mem_cons, ← hp _ _ hab, ← ih, List.map_cons, List.map_cons, List.sum_cons,
      List.sum_cons]
    omega

end

/-! ## What a reader accepts -/

/-- The reader succeeds when `p` holds and refuses the shape of the document otherwise. -/
def Decides (r : Result α) (p : Prop) : Prop :=
  (p ∧ ∃ a, r = .ok a) ∨ (¬ p ∧ ∃ cause, r = .error (.format cause))

namespace Decides

variable {r : Result α} {p q : Prop}

theorem ok (a : α) (hp : p) : Decides (.ok a : Result α) p := .inl ⟨hp, a, rfl⟩

theorem wrongShape (cause : FormatFault) (hp : ¬ p) :
    Decides (Json.wrongShape cause : Result α) p := .inr ⟨hp, cause, rfl⟩

theorem congr (h : Decides r p) (hpq : p ↔ q) : Decides r q := propext hpq ▸ h

theorem iff_ok (h : Decides r p) : p ↔ ∃ a, r = .ok a := by
  rcases h with ⟨hp, ha⟩ | ⟨hp, cause, rfl⟩
  · exact iff_of_true hp ha
  · exact iff_of_false hp (by rintro ⟨_, ⟨⟩⟩)

/-- What a sequence decides implies what its first step decides. -/
theorem bind {f : α → Result β} (h : Decides r p) (hqp : q → p)
    (hf : ∀ a, r = .ok a → Decides (f a) q) : Decides (r >>= f) q := by
  rcases h with ⟨-, a, rfl⟩ | ⟨hp, cause, rfl⟩
  · exact hf a rfl
  · exact wrongShape cause fun hq ↦ hp (hqp hq)

theorem mapM {f : α → Result β} {p : α → Prop} {l : List α} (h : ∀ a ∈ l, Decides (f a) (p a)) :
    Decides (l.mapM f) (∀ a ∈ l, p a) := by
  induction l with
  | nil => exact ok [] (by simp)
  | cons a l ih =>
    have ha : Decides (f a) (p a) := h a List.mem_cons_self
    have hl : Decides (l.mapM f) (∀ b ∈ l, p b) := ih fun b hb ↦ h b (List.mem_cons_of_mem a hb)
    rw [List.mapM_cons, List.forall_mem_cons]
    refine ha.bind And.left fun b hb ↦ hl.bind And.right fun bs hbs ↦ ?_
    exact ok (b :: bs) ⟨ha.iff_ok.mpr ⟨b, hb⟩, hl.iff_ok.mpr ⟨bs, hbs⟩⟩

end Decides

/-! ## How a reader fails -/

/-- Whatever the reader fails with satisfies `p`. -/
def FailsWith (r : Result α) (p : Fault → Prop) : Prop := ∀ e, r = .error e → p e

namespace FailsWith

variable {r : Result α} {p q : Fault → Prop}

theorem ok (a : α) : FailsWith (.ok a : Result α) p := by rintro _ ⟨⟩

theorem error {e : Fault} (h : p e) : FailsWith (.error e : Result α) p := by
  rintro _ ⟨⟩
  exact h

theorem mono (h : FailsWith r p) (hpq : ∀ e, p e → q e) : FailsWith r q := fun e he ↦ hpq e (h e he)

theorem bind {f : α → Result β} (h : FailsWith r p) (hf : ∀ a, r = .ok a → FailsWith (f a) p) :
    FailsWith (r >>= f) p := by
  cases r with
  | ok a => exact hf a rfl
  | error e => exact .error (h e rfl)

theorem mapM {f : α → Result β} {l : List α} (h : ∀ a ∈ l, FailsWith (f a) p) :
    FailsWith (l.mapM f) p := by
  induction l with
  | nil => exact ok []
  | cons a l ih =>
    have ha : FailsWith (f a) p := h a List.mem_cons_self
    have hl : FailsWith (l.mapM f) p := ih fun b hb ↦ h b (List.mem_cons_of_mem a hb)
    rw [List.mapM_cons]
    exact ha.bind fun _ _ ↦ hl.bind fun _ _ ↦ ok _

theorem foldlM {f : β → α → Result β} {l : List α} (h : ∀ b, ∀ a ∈ l, FailsWith (f b a) p) (b : β) :
    FailsWith (l.foldlM f b) p := by
  induction l generalizing b with
  | nil => exact ok b
  | cons a l ih =>
    rw [List.foldlM_cons]
    refine (h b a List.mem_cons_self).bind fun b' _ ↦ ih (fun b c hc ↦ ?_) b'
    exact h b c (List.mem_cons_of_mem a hc)

end FailsWith

/-- A reader that decides something fails with nothing but a fault of shape. -/
theorem Decides.failsWith {r : Result α} {p : Prop} (h : Decides r p) :
    FailsWith r fun e ↦ ∃ cause, e = .format cause := by
  rcases h with ⟨-, a, rfl⟩ | ⟨-, cause, rfl⟩
  · exact .ok a
  · exact .error ⟨cause, rfl⟩

/-! ## Where a run fails -/

section

variable (fails : List α → α → Fault → Prop)

/-- Nothing on the list fails behind what is ahead of it. -/
def NoneFails (l : List α) : Prop := ∀ ahead x, ahead ++ [x] <+: l → ∀ e, ¬ fails ahead x e

/-- The fault is that of the first item of the list that fails behind what is ahead of it. -/
def FirstFails (l : List α) (e : Fault) : Prop :=
  ∃ ahead x, ahead ++ [x] <+: l ∧ NoneFails fails ahead ∧ fails ahead x e

variable {fails}

theorem noneFails_concat_iff {l : List α} {x : α} :
    NoneFails fails (l ++ [x]) ↔ NoneFails fails l ∧ ∀ e, ¬ fails l x e := by
  constructor
  · intro h
    exact ⟨fun ahead y hy ↦ h ahead y (hy.trans (List.prefix_append l [x])),
      h l x (List.prefix_refl _)⟩
  · rintro ⟨hl, hx⟩ ahead y hy
    rcases List.prefix_concat_iff.mp hy with heq | hy
    · obtain ⟨rfl, hlast⟩ := List.append_inj' heq rfl
      cases hlast
      exact hx
    · exact hl ahead y hy

theorem firstFails_concat_iff {l : List α} {x : α} {e : Fault} : FirstFails fails (l ++ [x]) e ↔
    FirstFails fails l e ∨ NoneFails fails l ∧ fails l x e := by
  constructor
  · rintro ⟨ahead, y, hy, hnone, hfails⟩
    rcases List.prefix_concat_iff.mp hy with heq | hy
    · obtain ⟨rfl, hlast⟩ := List.append_inj' heq rfl
      cases hlast
      exact .inr ⟨hnone, hfails⟩
    · exact .inl ⟨ahead, y, hy, hnone, hfails⟩
  · rintro (⟨ahead, y, hy, hfirst⟩ | ⟨hnone, hfails⟩)
    · exact ⟨ahead, y, hy.trans (List.prefix_append l [x]), hfirst⟩
    · exact ⟨l, x, List.prefix_refl _, hnone, hfails⟩

/-- **A run over a list ends at the first item that fails**, if it can be told from the items ahead
of an item how it fails. -/
theorem foldlM_cases {step : β → α → Result β} {b : β} {l : List α}
    (h : ∀ ahead x, ahead ++ [x] <+: l → ∀ c, ahead.foldlM step b = .ok c →
      ∀ e, step c x = .error e ↔ fails ahead x e) :
    ((∃ c, l.foldlM step b = .ok c) ↔ NoneFails fails l) ∧
      ∀ e, l.foldlM step b = .error e ↔ FirstFails fails l e := by
  induction l using List.reverseRecOn with
  | nil =>
    have hno (ahead : List α) (x : α) : ¬ ahead ++ [x] <+: [] := by simp
    exact ⟨iff_of_true ⟨b, rfl⟩ fun ahead x hx ↦ absurd hx (hno ahead x),
      fun e ↦ iff_of_false (by rintro ⟨⟩) fun ⟨ahead, x, hx, _⟩ ↦ hno ahead x hx⟩
  | append_singleton l x ih =>
    obtain ⟨hok, herror⟩ := ih fun ahead y hy ↦ h ahead y (hy.trans (List.prefix_append l [x]))
    have hrun : (l ++ [x]).foldlM step b = l.foldlM step b >>= fun c ↦ step c x := by
      rw [List.foldlM_append]
      refine bind_congr fun c ↦ ?_
      rw [List.foldlM_cons]
      cases step c x <;> rfl
    simp only [noneFails_concat_iff, firstFails_concat_iff, ← hok, ← herror, hrun]
    cases hl : l.foldlM step b with
    | error e => exact ⟨by simp [bind, Except.bind], fun e ↦ by simp [bind, Except.bind]⟩
    | ok c =>
      have hx := h l x (List.prefix_refl _) c hl
      simp only [bind_of_eq_ok rfl, ← hx]
      cases step c x <;> simp

end

end RevisionGraph.Result
