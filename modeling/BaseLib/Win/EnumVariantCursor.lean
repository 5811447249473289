import BaseLib.Win.EnumVariantBounds

/-!
# `EnumVariant` against the cursor it implements

`IEnumVARIANT` describes a cursor over `n` items at a position `p ∈ [0, n]`:
`Next(k)` hands out the `min(k, n - p)` items from `p` and moves past them,
`Skip(k)` moves by as many, `Reset` returns to `0` and `Clone` copies the
cursor. `Cursor` is that model over unbounded naturals; `Abstracts c e` says
the enumerator `e` implements the cursor `c`.

`Next`, `Reset` and `Clone` implement the cursor from every state. `Skip`
implements it exactly when `current_index_ + skip_count` does not wrap past
`2 ^ 32` to a value at most `count_` (`skip_abstracts_iff`): such a sum slips
under the clamp, and the cursor moves backward while `Skip` reports `S_OK`.
Runs whose skip counts stay below `2 ^ 32 - count_` never reach that case and
implement the cursor call for call (`run_abstracts`).
-/

namespace BaseLib.Win

structure Cursor (α : Type) where
  items : List α
  pos : Nat
  pos_le : pos ≤ items.length

inductive Reply (α : Type)
  | fetched (out : List α) (received : Nat) (result : HRESULT)
  | done (result : HRESULT)
  deriving DecidableEq, Repr

/-- A call on one enumerator; after `clone` the run goes on with the clone. -/
inductive Call
  | next (k : ULONG)
  | skip (k : ULONG)
  | reset
  | clone
  deriving DecidableEq, Repr

namespace Cursor

variable {α : Type}

def start (items : List α) : Cursor α := ⟨items, 0, Nat.zero_le _⟩

def next (c : Cursor α) (k : Nat) : (List α × Nat × HRESULT) × Cursor α :=
  let m := min k (c.items.length - c.pos)
  (((c.items.drop c.pos).take m, m, if m = k then .sOk else .sFalse),
    ⟨c.items, c.pos + m, by have := c.pos_le; omega⟩)

def skip (c : Cursor α) (k : Nat) : HRESULT × Cursor α :=
  (if k ≤ c.items.length - c.pos then .sOk else .sFalse,
    ⟨c.items, c.pos + min k (c.items.length - c.pos), by have := c.pos_le; omega⟩)

def reset (c : Cursor α) : HRESULT × Cursor α := (.sOk, start c.items)

def call (c : Cursor α) : Call → Reply α × Cursor α
  | .next k => (.fetched (c.next k.toNat).1.1 (c.next k.toNat).1.2.1 (c.next k.toNat).1.2.2,
      (c.next k.toNat).2)
  | .skip k => (.done (c.skip k.toNat).1, (c.skip k.toNat).2)
  | .reset => (.done c.reset.1, c.reset.2)
  | .clone => (.done .sOk, c)

def run (c : Cursor α) : List Call → List (Reply α) × Cursor α
  | [] => ([], c)
  | x :: xs => ((c.call x).1 :: ((c.call x).2.run xs).1, ((c.call x).2.run xs).2)

@[simp] theorem call_items (c : Cursor α) (x : Call) : (c.call x).2.items = c.items := by
  cases x <;> rfl

end Cursor

namespace EnumVariant

variable {α : Type}

def call [Inhabited α] (e : EnumVariant α) : Call → Option (Reply α × EnumVariant α)
  | .next k => (e.next k).map fun r =>
      (.fetched r.1.outElements r.1.outElementsReceived.toNat r.1.result, r.2)
  | .skip k => some (.done (e.skip k).1, (e.skip k).2)
  | .reset => some (.done e.reset.1, e.reset.2)
  | .clone => some (.done .sOk, e.clone)

def run [Inhabited α] (e : EnumVariant α) : List Call → Option (List (Reply α) × EnumVariant α)
  | [] => some ([], e)
  | x :: xs => do
    let (r, e') ← e.call x
    let (rs, e'') ← e'.run xs
    pure (r :: rs, e'')

/-- `e` implements the cursor `c`: the same items, the cursor at the same place. -/
def Abstracts (c : Cursor α) (e : EnumVariant α) : Prop :=
  e.items.toList = c.items ∧ e.currentIndex.toNat = c.pos

theorem Abstracts.count_eq {c : Cursor α} {e : EnumVariant α} (h : Abstracts c e) :
    e.count.toNat = c.items.length := by
  rw [← e.items_size, ← h.1, Array.length_toList]

theorem Abstracts.currentIndex_le {c : Cursor α} {e : EnumVariant α} (h : Abstracts c e) :
    e.currentIndex ≤ e.count := by
  show e.currentIndex.toNat ≤ e.count.toNat
  rw [h.count_eq, h.2]
  exact c.pos_le

theorem abstracts_new [Inhabited α] (n : ULONG) :
    Abstracts (.start (List.replicate n.toNat default)) (new n : EnumVariant α) :=
  ⟨by simp [new, Cursor.start], rfl⟩

-- ---------------------------------------------------------------------------
-- One call
-- ---------------------------------------------------------------------------

theorem next_abstracts {c : Cursor α} {e : EnumVariant α} (h : Abstracts c e) (k : ULONG) :
    ∃ r e', e.next k = some (r, e') ∧
      (r.outElements, r.outElementsReceived.toNat, r.result) = (c.next k.toNat).1 ∧
      Abstracts (c.next k.toNat).2 e' := by
  have hle := h.currentIndex_le
  have hm : (stdMin k (e.count - e.currentIndex)).toNat = min k.toNat (c.items.length - c.pos) := by
    rw [toNat_stdMin, BitVec.toNat_sub_of_le hle, h.count_eq, h.2]
  refine ⟨_, _, next_eq hle k, ?_, h.1, ?_⟩
  · simp only [Cursor.next, h.1, h.2, hm, BitVec.toNat_eq]
  · have := e.count.isLt
    have := h.2
    have := h.count_eq
    show (e.currentIndex + _).toNat = c.pos + _
    rw [BitVec.toNat_add_of_lt (by omega), hm, h.2]

/-- `Skip` implements the cursor unless the `ULONG` sum wraps to at most
`count_`. -/
theorem skip_abstracts_iff {c : Cursor α} {e : EnumVariant α} (h : Abstracts c e) (k : ULONG) :
    ((e.skip k).1 = (c.skip k.toNat).1 ∧ Abstracts (c.skip k.toNat).2 (e.skip k).2) ↔
      ¬ (2 ^ 32 ≤ c.pos + k.toNat ∧ c.pos + k.toNat - 2 ^ 32 ≤ c.items.length) := by
  have hn := h.count_eq
  have hp := h.2
  have hlt := c.pos_le
  rw [skip_eq]
  split <;>
    simp only [Abstracts, Cursor.skip, h.1, true_and, HRESULT.ite_eq_ite, HRESULT.sOk_eq_ite] <;>
    bv_omega

theorem skip_abstracts_iff_five :
    (((new 5 : EnumVariant Unit).skip 3).1 = ((Cursor.start (List.replicate 5 ())).skip 3).1 ∧
        Abstracts ((Cursor.start (List.replicate 5 ())).skip 3).2 ((new 5).skip 3).2) ↔
      ¬ (2 ^ 32 ≤ 0 + 3 ∧ 0 + 3 - 2 ^ 32 ≤ 5) :=
  skip_abstracts_iff (abstracts_new 5) 3

theorem reset_abstracts {c : Cursor α} {e : EnumVariant α} (h : Abstracts c e) :
    e.reset.1 = c.reset.1 ∧ Abstracts c.reset.2 e.reset.2 :=
  ⟨rfl, h.1, rfl⟩

theorem clone_abstracts [Inhabited α] {c : Cursor α} {e : EnumVariant α} (h : Abstracts c e) :
    Abstracts c e.clone := by
  have h0 : Abstracts (.start c.items) { e with currentIndex := 0 } := ⟨h.1, rfl⟩
  have := e.currentIndex.isLt
  have hs := ((skip_abstracts_iff h0 e.currentIndex).2 (by simp only [Cursor.start]; omega)).2
  refine ⟨by rw [clone_eq]; exact hs.1, ?_⟩
  have := c.pos_le
  rw [clone_eq, hs.2, h.2]
  simp [Cursor.skip, Cursor.start]
  omega

theorem call_abstracts [Inhabited α] {c : Cursor α} {e : EnumVariant α} (h : Abstracts c e)
    (x : Call) (hk : ∀ k, x = .skip k → c.items.length + k.toNat < 2 ^ 32) :
    ∃ e', e.call x = some ((c.call x).1, e') ∧ Abstracts (c.call x).2 e' := by
  cases x with
  | next k =>
    obtain ⟨r, e', he, hr, h'⟩ := next_abstracts h k
    refine ⟨e', ?_, h'⟩
    simp only [call, Cursor.call, he, Option.map_some', ← hr]
  | skip k =>
    have := hk k rfl
    have := c.pos_le
    have hs := (skip_abstracts_iff h k).2 (by omega)
    exact ⟨_, by rw [call, Cursor.call, hs.1], hs.2⟩
  | reset => exact ⟨_, rfl, (reset_abstracts h).2⟩
  | clone => exact ⟨_, rfl, clone_abstracts h⟩

/-- Along any run whose skip counts stay below `2 ^ 32 - count_`, the
enumerator answers every call as the cursor does and ends implementing it. -/
theorem run_abstracts [Inhabited α] {c : Cursor α} {e : EnumVariant α} (h : Abstracts c e)
    (calls : List Call) (hk : ∀ k, Call.skip k ∈ calls → c.items.length + k.toNat < 2 ^ 32) :
    ∃ e', e.run calls = some ((c.run calls).1, e') ∧ Abstracts (c.run calls).2 e' := by
  induction calls generalizing c e with
  | nil => exact ⟨e, rfl, h⟩
  | cons x xs ih =>
    obtain ⟨e₁, he₁, h₁⟩ := call_abstracts h x fun k hx => hk k (hx ▸ List.mem_cons_self _ _)
    obtain ⟨e₂, he₂, h₂⟩ := ih h₁ fun k hx => by
      rw [Cursor.call_items]; exact hk k (List.mem_cons_of_mem _ hx)
    exact ⟨e₂, by simp [run, he₁, he₂, Cursor.run], h₂⟩

theorem run_abstracts_three :
    ∃ e', (new 3 : EnumVariant Unit).run [.next 2, .skip 5, .reset, .clone, .next 4] =
        some (((Cursor.start (List.replicate 3 ())).run
          [.next 2, .skip 5, .reset, .clone, .next 4]).1, e') ∧
      Abstracts ((Cursor.start (List.replicate 3 ())).run
        [.next 2, .skip 5, .reset, .clone, .next 4]).2 e' :=
  run_abstracts (abstracts_new 3) _ fun k hk => by simp at hk; subst hk; decide

/-- Five items, `Next(2)`, then `Skip(0xFFFFFFFF)`: `2 + 0xFFFFFFFF` wraps to
`1`, which passes the clamp, so `Skip` reports `S_OK` and leaves the cursor at
`1`, behind the `2` it started from. The cursor reports `S_FALSE` at `5`. -/
theorem skip_wrap_moves_cursor_back :
    ((new 5 : EnumVariant Unit).run [.next 2, .skip 0xFFFFFFFF]).map
        (fun r => (r.1, r.2.currentIndex)) =
      some ([.fetched [(), ()] 2 .sOk, .done .sOk], 1) ∧
    ((Cursor.start (List.replicate 5 ())).run [.next 2, .skip 0xFFFFFFFF]).1 =
      [.fetched [(), ()] 2 .sOk, .done .sFalse] ∧
    ((Cursor.start (List.replicate 5 ())).run [.next 2, .skip 0xFFFFFFFF]).2.pos = 5 := by
  decide

end EnumVariant

end BaseLib.Win
