import RevisionGraph.MethodId

/-!
# Integers and their decimal texts

An integer is written without needless zeros and read back as it was.  `Text.isWritable`, a bound
on the integer, is the same as the limit on the number of its digits: `length_toDigits_le`.
-/

set_option autoImplicit false

namespace RevisionGraph

namespace Text

theorem toList_toString_of_nonneg {i : Int} (h : 0 ≤ i) :
    (toString i).toList = Nat.toDigits 10 i.natAbs := by
  rw [Int.toString_eq_repr, Int.repr_eq_if, if_pos h, Nat.toList_repr]
  congr 1
  omega

theorem toList_toString_of_neg {i : Int} (h : i < 0) :
    (toString i).toList = '-' :: Nat.toDigits 10 i.natAbs := by
  rw [Int.toString_eq_repr, Int.repr_eq_if, if_neg (by omega), String.toList_append,
    Nat.toList_repr, show (-i).toNat = i.natAbs by omega]
  rfl

theorem length_toDigits_le {i : Int} (h : isWritable i = true) :
    (Nat.toDigits 10 i.natAbs).length ≤ digitLimit := by
  rw [isWritable, decide_eq_true_eq] at h
  exact (Nat.length_toDigits_le_iff (by decide) (by decide)).mpr h

/-- A positive number is written without zeros in front. -/
theorem head?_toDigits {n : Nat} (hn : 0 < n) : (Nat.toDigits 10 n).head? ≠ some '0' := by
  induction n using Nat.strongRecOn with
  | _ n ih =>
    rw [Nat.toDigits_eq_if (by decide)]
    split
    · next hlt =>
      have hdigit : ∀ m < 10, 0 < m → [m.digitChar].head? ≠ some '0' := by decide
      exact hdigit n hlt hn
    · rw [List.head?_append, Option.or_of_isSome (by simp [List.isSome_head?])]
      exact ih (n / 10) (by omega) (by omega)

end Text

/-- **A method id is read back from its decimal text.** -/
theorem MethodId.ofText_toString {i : MethodId} (hi : 0 ≤ i) (hw : Text.isWritable i = true) :
    MethodId.ofText (toString i) = .ok i := by
  have hlist := Text.toList_toString_of_nonneg hi
  have hlen : (toString i).length ≤ Text.digitLimit := by
    rw [← String.length_toList, hlist]
    exact Text.length_toDigits_le hw
  rw [MethodId.ofText, hlist, if_pos (Text.isDecimal_toDigits _), if_neg (by omega),
    Text.readDecimal_toDigits, Int.natAbs_of_nonneg hi]

end RevisionGraph
