import BaseLib.Machine

/-!
# `EnumVariant`

`base::win::EnumVariant` is the `IEnumVARIANT` over a fixed array: `items_`
holds `count_` variants and `current_index_` is the cursor that `Next`, `Skip`,
`Reset` and `Clone` move or copy. Counts and the cursor are `ULONG`s, so every
sum of them wraps modulo `2 ^ 32` as it does in the code.

A read or write of `items_` outside its bounds is undefined behaviour in C++
and `none` here. The COM reference counting (`AddRef`, `Release`,
`QueryInterface`) is not modelled.
-/

namespace BaseLib.Win

inductive HRESULT
  | sOk
  | sFalse
  deriving DecidableEq, Repr

@[simp] theorem HRESULT.ite_eq_ite {p q : Prop} [Decidable p] [Decidable q] :
    ((if p then HRESULT.sOk else .sFalse) = if q then .sOk else .sFalse) ↔ (p ↔ q) := by
  by_cases hp : p <;> by_cases hq : q <;> simp [hp, hq]

@[simp] theorem HRESULT.sOk_eq_ite {q : Prop} [Decidable q] :
    (HRESULT.sOk = if q then .sOk else .sFalse) ↔ q := by
  by_cases hq : q <;> simp [hq]

/-- `new VARIANT[count]` fixes the length of `items_` to `count_` for the
lifetime of the object. -/
structure EnumVariant (α : Type) where
  items : Array α
  count : ULONG
  currentIndex : ULONG
  items_size : items.size = count.toNat

/-- What `Next` hands back: the elements written to `out_elements`, the value
stored in `*out_elements_received`, and the result code. -/
structure Fetched (α : Type) where
  outElements : List α
  outElementsReceived : ULONG
  result : HRESULT
  deriving DecidableEq, Repr

namespace EnumVariant

variable {α : Type}

def new [Inhabited α] (count : ULONG) : EnumVariant α :=
  ⟨mkArray count.toNat default, count, 0, Array.size_mkArray ..⟩

/-- A write through the pointer `ItemAt(index)` returns. -/
def itemAt (e : EnumVariant α) (index : ULONG) (value : α) : Option (EnumVariant α) :=
  if h : index.toNat < e.items.size then
    some { e with
      items := e.items.set ⟨index.toNat, h⟩ value
      items_size := by rw [Array.size_set, e.items_size] }
  else none

/-- The copy loop of `Next`: `out_elements[i] = items_[current_index_ + i]`
for `i < n`, the index summed as a `ULONG`. -/
def copyElements (items : Array α) (start : ULONG) : Nat → Option (List α)
  | 0 => some []
  | i + 1 => do
    let out ← copyElements items start i
    let item ← items[(start + BitVec.ofNat 32 i).toNat]?
    pure (out ++ [item])

def next (e : EnumVariant α) (requestedCount : ULONG) : Option (Fetched α × EnumVariant α) := do
  let count := stdMin requestedCount (e.count - e.currentIndex)
  let out ← copyElements e.items e.currentIndex count.toNat
  pure (⟨out, count, if count = requestedCount then .sOk else .sFalse⟩,
    { e with currentIndex := e.currentIndex + count })

def skip (e : EnumVariant α) (skipCount : ULONG) : HRESULT × EnumVariant α :=
  let count :=
    if e.currentIndex + skipCount > e.count then e.count - e.currentIndex else skipCount
  (if count = skipCount then .sOk else .sFalse, { e with currentIndex := e.currentIndex + count })

def reset (e : EnumVariant α) : HRESULT × EnumVariant α :=
  (.sOk, { e with currentIndex := 0 })

/-- `Clone`: a new enumerator over a `memcpy` of `items_`, brought to the
cursor by `Skip(current_index_)`. -/
def clone [Inhabited α] (e : EnumVariant α) : EnumVariant α :=
  let other : EnumVariant α := new e.count
  let other :=
    if e.count > 0 then { other with items := e.items, items_size := e.items_size } else other
  (other.skip e.currentIndex).2

-- ---------------------------------------------------------------------------
-- Field lemmas
-- ---------------------------------------------------------------------------

@[simp] theorem new_count [Inhabited α] (n : ULONG) : (new n : EnumVariant α).count = n := rfl
@[simp] theorem new_currentIndex [Inhabited α] (n : ULONG) :
    (new n : EnumVariant α).currentIndex = 0 := rfl

@[simp] theorem skip_count (e : EnumVariant α) (k : ULONG) : (e.skip k).2.count = e.count := rfl
@[simp] theorem skip_items (e : EnumVariant α) (k : ULONG) : (e.skip k).2.items = e.items := rfl
@[simp] theorem reset_count (e : EnumVariant α) : e.reset.2.count = e.count := rfl
@[simp] theorem reset_items (e : EnumVariant α) : e.reset.2.items = e.items := rfl
@[simp] theorem reset_currentIndex (e : EnumVariant α) : e.reset.2.currentIndex = 0 := rfl

theorem itemAt_eq_some {e e' : EnumVariant α} (h : e.itemAt i v = some e') :
    e'.count = e.count ∧ e'.currentIndex = e.currentIndex := by
  unfold itemAt at h
  split at h
  · cases h; exact ⟨rfl, rfl⟩
  · cases h

theorem skip_eq (e : EnumVariant α) (k : ULONG) :
    e.skip k = if e.currentIndex + k > e.count then
      (if e.count - e.currentIndex = k then .sOk else .sFalse, { e with currentIndex := e.count })
    else (.sOk, { e with currentIndex := e.currentIndex + k }) := by
  unfold skip
  split <;> simp

theorem clone_eq [Inhabited α] (e : EnumVariant α) :
    e.clone = ({ e with currentIndex := 0 }.skip e.currentIndex).2 := by
  dsimp only [clone]
  split
  · rfl
  · have h0 : e.count = 0 := by bv_omega
    have hi : e.items = mkArray 0 default := by
      apply Array.ext <;> simp [e.items_size, h0]
    obtain ⟨items, count, cur, hs⟩ := e
    simp only at h0 hi
    subst h0 hi
    rfl

-- ---------------------------------------------------------------------------
-- The copy loop
-- ---------------------------------------------------------------------------

theorem copyElements_eq (items : Array α) (start : ULONG) (n : Nat)
    (hn : start.toNat + n ≤ items.size) (hw : start.toNat + n ≤ 2 ^ 32) :
    copyElements items start n = some ((items.toList.drop start.toNat).take n) := by
  induction n with
  | zero => rfl
  | succ n ih =>
    have hidx : (start + BitVec.ofNat 32 n).toNat = start.toNat + n := by bv_omega
    have hget : items[start.toNat + n]? = items.toList[start.toNat + n]? :=
      Array.getElem?_eq_getElem?_toList ..
    rw [copyElements, ih (by omega) (by omega), hidx, hget,
      List.take_succ, List.getElem?_drop, List.getElem?_eq_getElem (by simpa using hn)]
    rfl

theorem next_eq {e : EnumVariant α} (h : e.currentIndex ≤ e.count) (k : ULONG) :
    e.next k = some
      (⟨(e.items.toList.drop e.currentIndex.toNat).take (stdMin k (e.count - e.currentIndex)).toNat,
        stdMin k (e.count - e.currentIndex),
        if stdMin k (e.count - e.currentIndex) = k then .sOk else .sFalse⟩,
       { e with currentIndex := e.currentIndex + stdMin k (e.count - e.currentIndex) }) := by
  have hm : (stdMin k (e.count - e.currentIndex)).toNat ≤ e.count.toNat - e.currentIndex.toNat := by
    simp only [toNat_stdMin]; bv_omega
  have hle : e.currentIndex.toNat ≤ e.count.toNat := h
  have hc := e.count.isLt
  rw [next, copyElements_eq _ _ _ (by rw [e.items_size]; omega) (by omega)]
  rfl

end EnumVariant

end BaseLib.Win
