import Mathlib.Algebra.BigOperators.Group.Finset
import Mathlib.Tactic.Linarith

/-!
# `HistogramBase::AddScaled`

`AddScaled(value, count, scale)` records `count / scale` samples of `value`,
rounded up with probability `(count mod scale) / scale`: it draws
`RandInt(0, scale - 1)` and adds one when the remainder exceeds the draw. The
draw is an argument here. `int` and `int64_t` arithmetic is exact on `Int`; a
result out of its type's range, undefined behaviour in C++, is `none`.

For every count and scale the code accepts, each draw makes at most one
`AddCount` call, no intermediate overflows, and the counts over all `scale`
draws sum to `count` exactly: the rounding is unbiased.
-/

namespace BaseLib.Metrics

def int32? (x : Int) : Option Int := if -2 ^ 31 ≤ x ∧ x < 2 ^ 31 then some x else none

def int64? (x : Int) : Option Int := if -2 ^ 63 ≤ x ∧ x < 2 ^ 63 then some x else none

/-- `static_cast<int>` of an `int64_t`: its low 32 bits as two's complement. -/
def staticCastInt (x : Int) : Int := x.bmod (2 ^ 32)

/-- `AddScaled(value, count, scale)` when `RandInt(0, scale - 1)` returns
`rand`: the `AddCount(value, n)` calls it makes. -/
def addScaled (value count scale rand : Int) : Option (List (Int × Int)) := do
  let countScaled ← int32? (count.tdiv scale)
  let product ← int64? (countScaled * scale)
  let remainder ← int64? (count - product)
  let countScaled ← if remainder > rand then int64? (countScaled + 1) else pure countScaled
  if countScaled = 0 then pure [] else pure [(value, staticCastInt countScaled)]

def addKilo (value count rand : Int) : Option (List (Int × Int)) :=
  addScaled value count 1000 rand

def addKiB (value count rand : Int) : Option (List (Int × Int)) :=
  addScaled value count 1024 rand

/-- The count the rounding is meant to produce for the draw `rand`:
`⌊count / scale⌋`, plus one when the remainder exceeds the draw. -/
def roundedCount (count scale rand : Int) : Int :=
  count / scale + if count % scale > rand then 1 else 0

theorem int32?_eq {x : Int} (h : -2 ^ 31 ≤ x ∧ x < 2 ^ 31) : int32? x = some x := if_pos h

theorem int64?_eq {x : Int} (h : -2 ^ 63 ≤ x ∧ x < 2 ^ 63) : int64? x = some x := if_pos h

theorem staticCastInt_eq {x : Int} (h : 0 ≤ x ∧ x < 2 ^ 31) : staticCastInt x = x := by
  have hx : x % ((2 ^ 32 : Nat) : Int) = x := Int.emod_eq_of_lt h.1 (by omega)
  rw [staticCastInt, Int.bmod_pos _ _ (by rw [hx]; omega), hx]

section

variable {count scale : Int}

theorem div_facts (hc : 0 ≤ count) (hs : 0 < scale) :
    0 ≤ count / scale ∧ count / scale ≤ count / scale * scale ∧
      count / scale * scale ≤ count ∧ count % scale = count - count / scale * scale ∧
      0 ≤ count % scale ∧ count % scale < scale :=
  ⟨Int.ediv_nonneg hc hs.le, le_mul_of_one_le_right (Int.ediv_nonneg hc hs.le) (by omega),
    Int.ediv_mul_le _ hs.ne', by rw [Int.emod_def, mul_comm],
    Int.emod_nonneg _ hs.ne', Int.emod_lt_of_pos _ hs⟩

theorem addScaled_eq (value : Int) (hc : 0 ≤ count) (hc' : count < 2 ^ 31) (hs : 0 < scale)
    (hr : 0 ≤ rand) :
    addScaled value count scale rand =
      some (if roundedCount count scale rand = 0 then [] else
        [(value, roundedCount count scale rand)]) := by
  obtain ⟨hq, hqp, hp, hm, hm0, hms⟩ := div_facts hc hs
  have h0 : int32? (count / scale) = some (count / scale) := int32?_eq (by omega)
  have h1 : int64? (count / scale * scale) = some (count / scale * scale) := int64?_eq (by omega)
  have h2 : int64? (count - count / scale * scale) = some (count % scale) := by
    rw [hm]; exact int64?_eq (by omega)
  have h3 : int64? (count / scale + 1) = some (count / scale + 1) := int64?_eq (by omega)
  simp only [addScaled, Int.tdiv_eq_ediv hc hs.le, h0, h1, h2, h3, roundedCount, Option.pure_def,
    Option.bind_eq_bind, Option.some_bind, gt_iff_lt]
  by_cases hlt : rand < count % scale
  · simp only [hlt, if_true, Option.some_bind, staticCastInt_eq (by omega : 0 ≤ count / scale + 1 ∧
      count / scale + 1 < 2 ^ 31)]
    split <;> rfl
  · simp only [hlt, if_false, Option.some_bind, add_zero, staticCastInt_eq (by omega : 0 ≤ count / scale ∧
      count / scale < 2 ^ 31)]
    split <;> rfl

end

theorem sum_range_lt (m : Int) (n : Nat) :
    ∑ r ∈ Finset.range n, (if m > r then (1 : Int) else 0) = min (n : Int) (max m 0) := by
  induction n with
  | zero => simp
  | succ n ih =>
    rw [Finset.sum_range_succ, ih]
    split <;> omega

theorem sum_roundedCount {count scale : Int} (hs : 0 < scale) :
    ∑ r ∈ Finset.range scale.toNat, roundedCount count scale r = count := by
  have hm0 := Int.emod_nonneg count hs.ne'
  have hms := Int.emod_lt_of_pos count hs
  simp only [roundedCount, Finset.sum_add_distrib, Finset.sum_const, Finset.card_range,
    nsmul_eq_mul, sum_range_lt, Int.toNat_of_nonneg hs.le]
  have := Int.ediv_add_emod count scale
  rw [min_eq_right (by omega), max_eq_left hm0]
  linarith

/-- `AddScaled` with a non-negative `int` count and a positive scale: for every
draw of `RandInt(0, scale - 1)` it calls `AddCount(value, k)` once when the
rounded count `k` is positive and not at all when it is zero, with no overflow
and `k` within `int`; over all `scale` draws the `k` sum to `count`. -/
theorem addScaled_unbiased (value count scale : Int) (hc : 0 ≤ count) (hc' : count < 2 ^ 31)
    (hs : 0 < scale) :
    (∀ rand, 0 ≤ rand → rand ≤ scale - 1 →
      addScaled value count scale rand =
        some (if roundedCount count scale rand = 0 then [] else
          [(value, roundedCount count scale rand)]) ∧
      0 ≤ roundedCount count scale rand ∧ roundedCount count scale rand < 2 ^ 31) ∧
    ∑ r ∈ Finset.range scale.toNat, roundedCount count scale r = count := by
  refine ⟨fun rand hr _ => ⟨addScaled_eq value hc hc' hs hr, ?_⟩, sum_roundedCount hs⟩
  obtain ⟨hq, hqp, hp, hm, hm0, hms⟩ := div_facts hc hs
  unfold roundedCount
  split <;> omega

/-- `AddKilo` of 2500 records 2 or 3 samples, 2.5 on average. -/
theorem addKilo_unbiased :
    (∀ rand, 0 ≤ rand → rand ≤ 1000 - 1 →
      addKilo 3 2500 rand =
        some (if roundedCount 2500 1000 rand = 0 then [] else
          [(3, roundedCount 2500 1000 rand)]) ∧
      0 ≤ roundedCount 2500 1000 rand ∧ roundedCount 2500 1000 rand < 2 ^ 31) ∧
    ∑ r ∈ Finset.range (1000 : Int).toNat, roundedCount 2500 1000 r = 2500 :=
  addScaled_unbiased 3 2500 1000 (by norm_num) (by norm_num) (by norm_num)

end BaseLib.Metrics
