import Mathlib.Data.List.DropRight
import RevisionGraph.Text.Lines

/-!
# Lines and what is behind them

`Text.cutBehind` cuts a list behind every mark.  What follows a mark is cut as if nothing stood
before it, `cutBehind_append`, so whole lines that are put behind whole lines are the next lines,
`cutBehind_append_flatten`.  `cutWholeLines` cuts off the whole lines, `cutWholeLines_spec`.  Text
that has line feeds only keeps its line ends, `normaliseChars_of_not_mem`.
-/

set_option autoImplicit false

namespace RevisionGraph.Text

variable {α : Type} [DecidableEq α] {mark : α} {l m : List α}

/-- The list holds whole lines, or nothing. -/
def EndsWith (mark : α) (l : List α) : Prop := l = [] ∨ ∃ before, l = before ++ [mark]

theorem cutBehind_cons_mark (m : List α) :
    cutBehind mark (mark :: m) = [mark] :: cutBehind mark m := by
  rw [cutBehind, if_pos rfl]

/-- The first line goes up to the first mark. -/
theorem cutBehind_line (h : mark ∉ l) :
    cutBehind mark (l ++ mark :: m) = (l ++ [mark]) :: cutBehind mark m := by
  induction l with
  | nil => exact cutBehind_cons_mark m
  | cons c rest ih =>
    rw [List.mem_cons, not_or] at h
    rw [List.cons_append, cutBehind, if_neg (Ne.symm h.1), ih h.2]
    rfl

/-- What has no mark is one line. -/
theorem cutBehind_of_not_mem (h : mark ∉ l) (hne : l ≠ []) : cutBehind mark l = [l] := by
  induction l with
  | nil => exact absurd rfl hne
  | cons c rest ih =>
    rw [List.mem_cons, not_or] at h
    rw [cutBehind, if_neg (Ne.symm h.1)]
    cases rest with
    | nil => rfl
    | cons d more => rw [ih h.2 (List.cons_ne_nil d more)]

theorem cutBehind_ne_nil (h : l ≠ []) : cutBehind mark l ≠ [] := by
  cases l with
  | nil => exact absurd rfl h
  | cons c rest =>
    rw [cutBehind]
    split
    · exact List.cons_ne_nil _ _
    · split <;> exact List.cons_ne_nil _ _

/-- **What follows whole lines is cut by itself.** -/
theorem cutBehind_append (h : EndsWith mark l) (m : List α) :
    cutBehind mark (l ++ m) = cutBehind mark l ++ cutBehind mark m := by
  rcases h with rfl | ⟨before, rfl⟩
  · rfl
  · induction before with
    | nil =>
      rw [List.nil_append, List.singleton_append, cutBehind_cons_mark, cutBehind_cons_mark]
      rfl
    | cons c rest ih =>
      rw [List.cons_append, List.cons_append, cutBehind, cutBehind, ih]
      split
      · rfl
      · -- there is a line behind `c`, which `c` belongs to
        cases hrest : cutBehind mark (rest ++ [mark]) with
        | nil => exact absurd hrest (cutBehind_ne_nil (by simp))
        | cons line more => rfl

/-- Whole lines one behind the other are their own lines. -/
theorem cutBehind_flatten {lines : List (List α)}
    (h : ∀ line ∈ lines, ∃ body, line = body ++ [mark] ∧ mark ∉ body) :
    cutBehind mark lines.flatten = lines := by
  induction lines with
  | nil => rfl
  | cons line rest ih =>
    obtain ⟨body, rfl, hbody⟩ := h line List.mem_cons_self
    rw [List.flatten_cons, List.append_assoc, List.singleton_append, cutBehind_line hbody,
      ih fun line hline ↦ h line (List.mem_cons_of_mem _ hline)]

theorem cutBehind_append_flatten {lines : List (List α)} (h : EndsWith mark l)
    (hlines : ∀ line ∈ lines, ∃ body, line = body ++ [mark] ∧ mark ∉ body) :
    cutBehind mark (l ++ lines.flatten) = cutBehind mark l ++ lines := by
  rw [cutBehind_append h, cutBehind_flatten hlines]

/-- What was read so far is cut behind its last whole line. -/
theorem cutWholeLines_spec (cs : List Char) : ∃ whole rest, cutWholeLines cs = (whole, rest) ∧
    whole ++ rest = cs ∧ EndsWith '\n' whole ∧ '\n' ∉ rest := by
  have hcut : cs.rdropWhile (· != '\n') ++ cs.rtakeWhile (· != '\n') = cs :=
    List.rdropWhile_append_rtakeWhile
  have hlength : (cs.rdropWhile (· != '\n')).length + (cs.rtakeWhile (· != '\n')).length =
      cs.length := by
    rw [← List.length_append, hcut]
  refine ⟨_, _, ?_, hcut, ?_, fun hmem ↦ ?_⟩
  · rw [cutWholeLines, ← List.rtakeWhile, ← hlength, Nat.add_sub_cancel,
      ← List.prefix_iff_eq_take.mp (List.rdropWhile_prefix _ cs)]
  · by_cases hwhole : cs.rdropWhile (· != '\n') = []
    · exact .inl hwhole
    · have hlast := List.rdropWhile_last_not (· != '\n') cs hwhole
      rw [bne_iff_ne, not_not] at hlast
      exact .inr ⟨_, (List.dropLast_append_getLast hwhole).symm.trans (by rw [hlast])⟩
  · simpa using List.mem_rtakeWhile_imp hmem

theorem normaliseChars_of_not_mem {cs : List Char} (h : '\r' ∉ cs) : normaliseChars cs = cs := by
  induction cs with
  | nil => rfl
  | cons c rest ih =>
    rw [List.mem_cons, not_or] at h
    rw [normaliseChars, ih h.2]
    · rintro _ rfl _
      exact h.1 rfl
    · rintro rfl
      exact h.1 rfl

end RevisionGraph.Text
