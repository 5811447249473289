import Mathlib.Data.BitVec

/-!
# Machine integers

The unsigned types of the Windows code paths modelled here, as bit vectors:
`ULONG` is 32 bits wide, `size_t` and `uintptr_t` are 64. Arithmetic on them
wraps modulo `2 ^ w` exactly as in C++. Proofs leave them for `Nat` through
`toNat`, where `bv_omega` decides the linear goals.
-/

namespace BaseLib

/-- `ULONG` (`unsigned long` on Windows). -/
abbrev ULONG := BitVec 32

/-- `size_t` and `uintptr_t` on 64-bit Windows. -/
abbrev SizeT := BitVec 64

/-- `std::min(a, b)`: `b` when `b < a`, otherwise `a`. -/
def stdMin (a b : BitVec w) : BitVec w := if b < a then b else a

@[simp] theorem toNat_stdMin (a b : BitVec w) : (stdMin a b).toNat = min a.toNat b.toNat := by
  unfold stdMin
  split <;> bv_omega

end BaseLib
