import Mathlib.Data.List.Infix
import Mathlib.Data.List.Induction
import RevisionGraph.Files.Path

/-!
# Where a path leads by its text alone

Two dots in a path go one up.  Without a look at the files, that is to take the name before them
away: `Path.lexical` does so from the left, with the names that are left as a stack.

* **The stack.**  `lexicalStep` takes one component.  Two dots have nothing to take away where a
  path starts; behind an anchor they lead nowhere, and in a relative path they stay.
* **Climbing.**  Components are `IsContained` if no prefix of them has more double dots than names.
  Then they only push onto whatever stack there is, `foldl_lexicalStep`; and components that are not
  contained climb out of an empty stack for good, `isContained_or_head?_eq`.
* **Below.**  By `forall_isBelow_iff` components lead below every path exactly if they are contained
  and there are more names than double dots.
-/

set_option autoImplicit false

namespace RevisionGraph

namespace Path

/-! ## The stack -/

/-- Takes one component to the names that are left of those before it. -/
def lexicalStep (anchored : Bool) (stack : List String) (part : String) : List String :=
  if !isPart part then stack
  else if part ≠ ".." then stack ++ [part]
  else if stack.getLast?.all (· == "..") then if anchored then stack else stack ++ [".."]
  else stack.dropLast

/-- The path without dots and double dots, but for those that lead a relative path out of where it
starts. -/
def lexical (p : Path) : Path :=
  { p with parts := p.parts.foldl (lexicalStep (p.anchor != .relative)) [] }

/-- The path leads strictly below the other: it goes on from there by names. -/
def IsBelow (q p : Path) : Prop :=
  q.lexical.anchor = p.lexical.anchor ∧
    ∃ rest, rest ≠ [] ∧ ".." ∉ rest ∧ q.lexical.parts = p.lexical.parts ++ rest

variable {anchored : Bool} {stack parts : List String} {part : String}

theorem lexicalStep_name (hpart : isPart part = true) (hname : part ≠ "..") :
    lexicalStep anchored stack part = stack ++ [part] := by
  rw [lexicalStep, hpart, if_neg (by decide), if_pos hname]

/-- Two dots take the last name away. -/
theorem lexicalStep_up {name : String} (hname : name ≠ "..") :
    lexicalStep anchored (stack ++ [name]) ".." = stack := by
  have hlast : (stack ++ [name]).getLast?.all (· == "..") = false := by
    rw [List.getLast?_concat, Option.all_some, beq_eq_false_iff_ne]
    exact hname
  rw [lexicalStep, if_neg (by decide), if_neg (by decide), hlast, if_neg Bool.false_ne_true,
    List.dropLast_concat]

/-! ## Climbing -/

/-- No prefix has more double dots than names. -/
def IsContained (parts : List String) : Prop :=
  ∀ front, front <+: parts → front.count ".." ≤ front.countP (· != "..")

instance : Decidable (IsContained parts) :=
  decidable_of_iff (∀ front ∈ parts.inits, front.count ".." ≤ front.countP (· != ".."))
    (by simp only [List.mem_inits]; rfl)

theorem count_concat_up (parts : List String) :
    (parts ++ [".."]).count ".." = parts.count ".." + 1 ∧
      (parts ++ [".."]).countP (· != "..") = parts.countP (· != "..") := by
  rw [List.count_append, List.countP_append]
  exact ⟨rfl, rfl⟩

theorem count_concat_name (parts : List String) (hname : part ≠ "..") :
    (parts ++ [part]).count ".." = parts.count ".." ∧
      (parts ++ [part]).countP (· != "..") = parts.countP (· != "..") + 1 := by
  simp [hname]

theorem isContained_concat_iff : IsContained (parts ++ [part]) ↔ IsContained parts ∧
    (parts ++ [part]).count ".." ≤ (parts ++ [part]).countP (· != "..") := by
  simp only [IsContained, List.prefix_concat_iff]
  constructor
  · exact fun h ↦ ⟨fun front hfront ↦ h front (.inr hfront), h _ (.inl rfl)⟩
  · rintro ⟨hfronts, hall⟩ front (rfl | hfront)
    · exact hall
    · exact hfronts front hfront

/-- **Contained components only push.**  What was on the stack stays there, and names come onto it,
one for each that is not taken away again. -/
theorem foldl_lexicalStep (hparts : ∀ part ∈ parts, isPart part = true) (h : IsContained parts)
    (anchored : Bool) (stack : List String) : ∃ rest,
      parts.foldl (lexicalStep anchored) stack = stack ++ rest ∧ ".." ∉ rest ∧
        rest.length + parts.count ".." = parts.countP (· != "..") := by
  induction parts using List.reverseRecOn with
  | nil => exact ⟨[], (List.append_nil _).symm, List.not_mem_nil, rfl⟩
  | append_singleton front part ih =>
    rw [isContained_concat_iff] at h
    rw [List.forall_mem_append, List.forall_mem_singleton] at hparts
    obtain ⟨hfront, hcounts⟩ := h
    obtain ⟨rest, hrest, hnames, hlength⟩ := ih hparts.1 hfront
    rw [List.foldl_append, List.foldl_cons, List.foldl_nil, hrest]
    by_cases hup : part = ".."
    · obtain ⟨hups, hothers⟩ := count_concat_up front
      rw [hup] at hcounts ⊢
      -- there is a name to be taken away, as the double dots so far are fewer than the names
      obtain ⟨rest, name, rfl⟩ := List.eq_nil_or_concat' rest |>.resolve_left fun hnil ↦ by
        rw [hnil, List.length_nil] at hlength
        omega
      rw [List.mem_append, List.mem_singleton, not_or] at hnames
      rw [List.length_append, List.length_singleton] at hlength
      rw [← List.append_assoc, lexicalStep_up (Ne.symm hnames.2)]
      exact ⟨rest, rfl, hnames.1, by omega⟩
    · obtain ⟨hups, hothers⟩ := count_concat_name front hup
      rw [lexicalStep_name hparts.2 hup, List.append_assoc]
      refine ⟨rest ++ [part], rfl, ?_, ?_⟩
      · rw [List.mem_append, List.mem_singleton, not_or]
        exact ⟨hnames, Ne.symm hup⟩
      · rw [List.length_append, List.length_singleton]
        omega

/-- A relative path that has left where it starts does not come back. -/
theorem head?_lexicalStep (h : stack.head? = some "..") (part : String) :
    (lexicalStep false stack part).head? = some ".." := by
  rw [lexicalStep]
  split
  · exact h
  split
  · rw [List.head?_append, h]
    rfl
  split
  · rw [if_neg Bool.false_ne_true, List.head?_append, h]
    rfl
  · next hlast =>
    obtain ⟨rest, rfl⟩ := List.head?_eq_some_iff.mp h
    cases rest with
    | nil => exact absurd (by decide) hlast
    | cons name more => rfl

/-- **What is not contained climbs out of a relative path.** -/
theorem isContained_or_head?_eq (hparts : ∀ part ∈ parts, isPart part = true) :
    IsContained parts ∨ (parts.foldl (lexicalStep false) []).head? = some ".." := by
  induction parts using List.reverseRecOn with
  | nil =>
    refine .inl fun front hfront ↦ ?_
    rw [List.prefix_nil.mp hfront]
    exact Nat.le_refl 0
  | append_singleton front part ih =>
    rw [List.forall_mem_append, List.forall_mem_singleton] at hparts
    rw [isContained_concat_iff, List.foldl_append, List.foldl_cons, List.foldl_nil]
    rcases ih hparts.1 with h | h
    · obtain ⟨rest, hrest, -, hlength⟩ := foldl_lexicalStep hparts.1 h false []
      by_cases hcounts :
          (front ++ [part]).count ".." ≤ (front ++ [part]).countP (· != "..")
      · exact .inl ⟨h, hcounts⟩
      · -- as many double dots as names so far, and one more: nothing is left to be taken away
        obtain rfl : part = ".." := by
          by_contra hname
          obtain ⟨hups, hothers⟩ := count_concat_name front hname
          omega
        obtain ⟨hups, hothers⟩ := count_concat_up front
        obtain rfl : rest = [] := List.eq_nil_of_length_eq_zero (by omega)
        rw [hrest]
        exact .inr (by decide)
    · exact .inr (head?_lexicalStep h part)

/-! ## Below -/

/-- **Components that lead below every path** are those that are contained and have more names than
double dots. -/
theorem forall_isBelow_iff (hparts : ∀ part ∈ parts, isPart part = true) :
    (∀ p : Path, IsBelow { p with parts := p.parts ++ parts } p) ↔
      IsContained parts ∧ parts.count ".." < parts.countP (· != "..") := by
  constructor
  · intro h
    -- the current directory has the least to take away
    obtain ⟨-, rest, hne, hnames, hrest⟩ := h here
    have hfold : parts.foldl (lexicalStep false) [] = rest := hrest
    rcases isContained_or_head?_eq hparts with hcontained | hhead
    · obtain ⟨rest', hrest', -, hlength⟩ := foldl_lexicalStep hparts hcontained false []
      obtain rfl : rest' = rest := hrest'.symm.trans hfold
      have hpos := List.length_pos_iff.mpr hne
      exact ⟨hcontained, by omega⟩
    · rw [hfold] at hhead
      exact absurd (List.mem_of_head? hhead) hnames
  · rintro ⟨hcontained, hlt⟩ p
    obtain ⟨rest, hrest, hnames, hlength⟩ := foldl_lexicalStep hparts hcontained
      (p.anchor != .relative) p.lexical.parts
    refine ⟨rfl, rest, ?_, hnames, ?_⟩
    · rintro rfl
      rw [List.length_nil] at hlength
      omega
    · rw [← hrest, lexical, lexical, List.foldl_append]

end Path

end RevisionGraph
