/-!
# Operations on numbers

Powers and sums of numbers take the operations of the core library.  A module that brings an algebra
along has other powers and another zero besides; these outrank them.
-/

set_option autoImplicit false

namespace RevisionGraph

@[default_instance 20000]
instance (priority := 1100) natPow : Pow Nat Nat := instPowNat

@[default_instance 20000]
instance (priority := 1100) intPow : Pow Int Nat := instPowNat

/-- The zero that the sum of a list starts from. -/
instance (priority := 1100) natZero : Zero Nat := Zero.ofOfNat0

end RevisionGraph
