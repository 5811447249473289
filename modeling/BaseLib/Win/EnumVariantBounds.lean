import BaseLib.Win.EnumVariant

/-!
# The cursor of `EnumVariant` stays within `count_`

Every enumerator built by `EnumVariant(count)`, and every clone of one, keeps
`current_index_ ≤ count_` through any writes and calls. `Skip` keeps it even
when `current_index_ + skip_count` wraps: the wrapped sum is what it compares
with `count_`, so whatever cursor it stores passed that comparison. From the
bound, `count_ - current_index_` never wraps in `Next`, and every index its
copy loop reads lies below `count_`.
-/

namespace BaseLib.Win.EnumVariant

variable {α : Type}

/-- The states of an enumerator built by `EnumVariant(count)`: after any writes
through `ItemAt` and any calls, and the clones of any such state. -/
inductive Reachable [Inhabited α] : EnumVariant α → Prop
  | new (count : ULONG) : Reachable (new count)
  | itemAt {e e' : EnumVariant α} (index : ULONG) (value : α) :
      Reachable e → e.itemAt index value = some e' → Reachable e'
  | next {e : EnumVariant α} {r : Fetched α × EnumVariant α} (k : ULONG) :
      Reachable e → e.next k = some r → Reachable r.2
  | skip {e : EnumVariant α} (k : ULONG) : Reachable e → Reachable (e.skip k).2
  | reset {e : EnumVariant α} : Reachable e → Reachable e.reset.2
  | clone {e : EnumVariant α} : Reachable e → Reachable e.clone

-- ---------------------------------------------------------------------------
-- One step
-- ---------------------------------------------------------------------------

theorem skip_currentIndex_le (e : EnumVariant α) (k : ULONG) :
    (e.skip k).2.currentIndex ≤ e.count := by
  rw [skip_eq]
  split <;> bv_omega

theorem clone_currentIndex_le [Inhabited α] (e : EnumVariant α) :
    e.clone.currentIndex ≤ e.clone.count := by
  rw [clone_eq]
  exact skip_currentIndex_le _ _

theorem next_currentIndex_le {e : EnumVariant α} {r : Fetched α × EnumVariant α}
    (h : e.currentIndex ≤ e.count) (hr : e.next k = some r) :
    r.2.currentIndex ≤ r.2.count := by
  rw [next_eq h] at hr
  cases hr
  show e.currentIndex + stdMin k (e.count - e.currentIndex) ≤ e.count
  have := toNat_stdMin k (e.count - e.currentIndex)
  bv_omega

-- ---------------------------------------------------------------------------
-- Whole runs
-- ---------------------------------------------------------------------------

theorem Reachable.currentIndex_le [Inhabited α] {e : EnumVariant α} (h : Reachable e) :
    e.currentIndex ≤ e.count := by
  induction h with
  | new => exact Nat.zero_le _
  | itemAt _ _ _ he ih => obtain ⟨hc, hi⟩ := itemAt_eq_some he; rwa [hc, hi]
  | next _ _ hr ih => exact next_currentIndex_le ih hr
  | skip k _ _ => exact skip_currentIndex_le _ k
  | reset => exact Nat.zero_le _
  | clone => exact clone_currentIndex_le _

/-- The bound on every reachable state, and what `Next` owes to it: its
`count_ - current_index_` does not wrap, it always returns, and each index
`current_index_ + i` its copy loop reads lies below `count_`. -/
theorem reachable_next_in_bounds [Inhabited α] {e : EnumVariant α} (h : Reachable e) :
    e.currentIndex ≤ e.count ∧
      (e.count - e.currentIndex).toNat = e.count.toNat - e.currentIndex.toNat ∧
      ∀ k : ULONG, (e.next k).isSome ∧
        ∀ i < (stdMin k (e.count - e.currentIndex)).toNat,
          (e.currentIndex + BitVec.ofNat 32 i).toNat < e.count.toNat := by
  have hle := h.currentIndex_le
  refine ⟨hle, BitVec.toNat_sub_of_le hle, fun k => ⟨by simp [next_eq hle], fun i hi => ?_⟩⟩
  rw [toNat_stdMin] at hi
  bv_omega

/-- `Skip(2)` then `Skip(0xFFFFFFFF)` over five items takes the wrapped path
to the cursor `1`, still within `count_`. -/
theorem wrapped_skip_next_in_bounds :
    let e := (((new 5 : EnumVariant Unit).skip 2).2.skip 0xFFFFFFFF).2
    e.currentIndex ≤ e.count ∧
      (e.count - e.currentIndex).toNat = e.count.toNat - e.currentIndex.toNat ∧
      ∀ k : ULONG, (e.next k).isSome ∧
        ∀ i < (stdMin k (e.count - e.currentIndex)).toNat,
          (e.currentIndex + BitVec.ofNat 32 i).toNat < e.count.toNat :=
  reachable_next_in_bounds (.skip _ (.skip _ (.new 5)))

end BaseLib.Win.EnumVariant
