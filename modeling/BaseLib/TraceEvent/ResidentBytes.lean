import BaseLib.Machine

/-!
# `ProcessMemoryDump::CountResidentBytes`

The region `[start_address, start_address + mapped_size)` is asked about in
chunks of at most `kMaxChunkSize` bytes: for each chunk the code writes the
address of each of its pages into `vec`, calls `QueryWorkingSetEx`, and adds
up the `Valid` bits it gets back. `size_t` and `uintptr_t` are `SizeT`;
`QueryWorkingSetEx` is an oracle that sees the addresses it is given and
answers with a success flag and a `Valid` bit per entry. An index out of
`vec`, read or written by the code or by the call, is `none`, and so is a
`while` loop that runs out of fuel.

On the abstract side a chunk `c` starts at byte `c * kMaxChunkSize`;
`chunkCalls` and `residentPages` say what the loop asks and counts, chunk by
chunk, up to the first call that fails.
-/

namespace BaseLib.TraceEvent

/-- `PSAPI_WORKING_SET_EX_INFORMATION`: the address asked about, and the
`Valid` bit of the answer. -/
structure WorkingSetExInformation where
  virtualAddress : SizeT
  valid : Bool
  deriving DecidableEq, Repr, Inhabited

/-- `sizeof(PSAPI_WORKING_SET_EX_INFORMATION)` on a 64-bit target: a pointer
and a `ULONG_PTR`. -/
def sizeofWorkingSetExInformation : SizeT := 16

def kMaxChunkSize : SizeT := 8 * 1024 * 1024

def getSystemPageCount (mappedSize pageSize : SizeT) : SizeT :=
  (mappedSize + pageSize - 1) / pageSize

/-- `QueryWorkingSetEx(GetCurrentProcess(), vec, cb)` as the code sees it: on
its `k`-th call, given the addresses of the entries `cb` covers, whether it
succeeds and the `Valid` bit it reports for each entry. -/
abbrev WorkingSetQuery := Nat → List SizeT → Bool × (Nat → Bool)

/-- The locals the `while` loop changes, and the addresses handed to each
`QueryWorkingSetEx` call so far. -/
structure CountState where
  offset : SizeT
  totalResidentPages : SizeT
  failure : Bool
  vec : List WorkingSetExInformation
  queried : List (List SizeT)

/-- `for (i = 0; i < n; i++) vec[i].VirtualAddress = chunk_start + i * page_size`. -/
def setAddresses (vec : List WorkingSetExInformation) (chunkStart pageSize : SizeT) :
    Nat → Option (List WorkingSetExInformation)
  | 0 => some vec
  | n + 1 => do
    let vec ← setAddresses vec chunkStart pageSize n
    let e ← vec[n]?
    pure (vec.set n { e with virtualAddress := chunkStart + BitVec.ofNat 64 n * pageSize })

/-- `for (i = 0; i < n; i++) resident_page_count += vec[i].VirtualAttributes.Valid`. -/
def countValid (vec : List WorkingSetExInformation) : Nat → Option SizeT
  | 0 => some 0
  | n + 1 => do
    let count ← countValid vec n
    let e ← vec[n]?
    pure (count + if e.valid then 1 else 0)

/-- The call reads the addresses of the `cb / sizeof` entries it is given and
writes their `Valid` bits: its result, the new `vec` and the addresses. -/
def queryWorkingSetEx (query : WorkingSetQuery) (k : Nat) (vec : List WorkingSetExInformation)
    (cb : BitVec 32) : Option (Bool × List WorkingSetExInformation × List SizeT) :=
  let n := cb.toNat / sizeofWorkingSetExInformation.toNat
  if n ≤ vec.length then
    let addresses := (vec.take n).map (·.virtualAddress)
    let answer := query k addresses
    some (answer.1, vec.mapIdx fun i e => if i < n then { e with valid := answer.2 i } else e,
      addresses)
  else none

/-- One pass of the `while` body: `failure = !QueryWorkingSetEx(...)`, then
either `break` or the two additions. -/
def countStep (query : WorkingSetQuery) (startPointer mappedSize pageSize : SizeT)
    (st : CountState) : Option CountState := do
  let chunkStart := startPointer + st.offset
  let chunkSize := stdMin (mappedSize - st.offset) kMaxChunkSize
  let pageCount := getSystemPageCount chunkSize pageSize
  let vec ← setAddresses st.vec chunkStart pageSize pageCount.toNat
  let vecSize : BitVec 32 := (pageCount * sizeofWorkingSetExInformation).setWidth 32
  let answer ← queryWorkingSetEx query st.queried.length vec vecSize
  let residentPageCount ← countValid answer.2.1 pageCount.toNat
  let st := { st with failure := !answer.1, vec := answer.2.1, queried := st.queried ++ [answer.2.2] }
  if st.failure then pure st
  else pure { st with
    offset := st.offset + kMaxChunkSize
    totalResidentPages := st.totalResidentPages + residentPageCount * pageSize }

/-- `while (offset < mapped_size) { ... }` with `fuel` passes at most. -/
def countLoop (query : WorkingSetQuery) (startPointer mappedSize pageSize : SizeT) :
    Nat → CountState → Option CountState
  | 0, _ => none
  | fuel + 1, st =>
    if st.offset < mappedSize then do
      let st ← countStep query startPointer mappedSize pageSize st
      if st.failure then pure st else countLoop query startPointer mappedSize pageSize fuel st
    else some st

/-- Passes enough for every loop that ends: `offset` takes each multiple of
`kMaxChunkSize` below `2 ^ 64` at most once before it wraps. -/
def countFuel : Nat := 2 ^ 41 + 1

/-- The loop of `CountResidentBytes(start_address, mapped_size)` when
`GetSystemPageSize()` is `pageSize`, from `offset = 0` and a `vec` of
`max_vec_size` entries. -/
def countResidentBytesRun (query : WorkingSetQuery) (pageSize startAddress mappedSize : SizeT) :
    Option CountState :=
  let maxVecSize := getSystemPageCount (stdMin mappedSize kMaxChunkSize) pageSize
  countLoop query startAddress mappedSize pageSize countFuel
    ⟨0, 0, false, List.replicate maxVecSize.toNat default, []⟩

def countResidentBytes (query : WorkingSetQuery) (pageSize startAddress mappedSize : SizeT) :
    Option SizeT :=
  (countResidentBytesRun query pageSize startAddress mappedSize).map fun st =>
    if st.failure then 0 else st.totalResidentPages

-- ---------------------------------------------------------------------------
-- Chunks
-- ---------------------------------------------------------------------------

section

variable (query : WorkingSetQuery) (startAddress mappedSize pageSize : SizeT)

/-- `ceil(mapped_size / kMaxChunkSize)`. -/
def chunkCount : Nat := (mappedSize.toNat + 8388607) / 8388608

/-- `max_vec_size`: the pages of the first chunk. -/
def maxVecPages : Nat := (min mappedSize.toNat 8388608 + pageSize.toNat - 1) / pageSize.toNat

def chunkPages (c : Nat) : Nat :=
  (min (mappedSize.toNat - c * 8388608) 8388608 + pageSize.toNat - 1) / pageSize.toNat

def chunkAddresses (c : Nat) : List SizeT :=
  (List.range (chunkPages mappedSize pageSize c)).map fun i =>
    BitVec.ofNat 64 (startAddress.toNat + c * 8388608 + i * pageSize.toNat)

def chunkResident (c : Nat) : Nat :=
  ((List.range (chunkPages mappedSize pageSize c)).filter
    (query c (chunkAddresses startAddress mappedSize pageSize c)).2).length

/-- The addresses handed to each call from chunk `c` on, `n` chunks before the
end: up to the first call that fails, that one included. -/
def chunkCalls : Nat → Nat → List (List SizeT)
  | 0, _ => []
  | n + 1, c => chunkAddresses startAddress mappedSize pageSize c ::
      if (query c (chunkAddresses startAddress mappedSize pageSize c)).1 then chunkCalls n (c + 1)
      else []

/-- The valid pages from chunk `c` on, `n` chunks before the end, when no call
fails. -/
def residentPages : Nat → Nat → Option Nat
  | 0, _ => some 0
  | n + 1, c =>
    if (query c (chunkAddresses startAddress mappedSize pageSize c)).1 then
      (residentPages n (c + 1)).map (chunkResident query startAddress mappedSize pageSize c + ·)
    else none

def validPages : Nat → Nat → Nat
  | 0, _ => 0
  | n + 1, c => chunkResident query startAddress mappedSize pageSize c + validPages n (c + 1)

/-- The loop's state before its pass over chunk `c`, no call having failed. -/
structure AtChunk (c : Nat) (st : CountState) : Prop where
  offset_eq : st.offset = BitVec.ofNat 64 (c * 8388608)
  failure_eq : st.failure = false
  vec_length : st.vec.length = maxVecPages mappedSize pageSize
  queried_length : st.queried.length = c

end

-- ---------------------------------------------------------------------------
-- The helpers of the loop
-- ---------------------------------------------------------------------------

@[simp] theorem toNat_kMaxChunkSize : kMaxChunkSize.toNat = 8388608 := rfl

@[simp] theorem toNat_sizeofWorkingSetExInformation : sizeofWorkingSetExInformation.toNat = 16 := rfl

theorem toNat_getSystemPageCount {x p : SizeT} (hp : 0 < p.toNat) (h : x.toNat + p.toNat < 2 ^ 64) :
    (getSystemPageCount x p).toNat = (x.toNat + p.toNat - 1) / p.toNat := by
  rw [getSystemPageCount, BitVec.toNat_udiv]
  congr 1
  bv_omega

theorem add_ofNat_add_ofNat_mul (x y : SizeT) (a i : Nat) :
    x + BitVec.ofNat 64 a + BitVec.ofNat 64 i * y = BitVec.ofNat 64 (x.toNat + a + i * y.toNat) := by
  apply BitVec.eq_of_toNat_eq
  simp only [BitVec.toNat_add, BitVec.toNat_mul, BitVec.toNat_ofNat, Nat.add_mod_mod, Nat.mod_add_mod,
    Nat.mod_mul_mod]

theorem ofNat_mul_eq (y : SizeT) (r : Nat) : BitVec.ofNat 64 r * y = BitVec.ofNat 64 (y.toNat * r) := by
  apply BitVec.eq_of_toNat_eq
  simp only [BitVec.toNat_mul, BitVec.toNat_ofNat]
  rw [Nat.mod_mul_mod, Nat.mul_comm]

theorem setAddresses_spec (vec : List WorkingSetExInformation) (chunkStart pageSize : SizeT) {n : Nat}
    (hn : n ≤ vec.length) :
    ∃ vec', setAddresses vec chunkStart pageSize n = some vec' ∧ vec'.length = vec.length ∧
      ∀ i < n, vec'[i]?.map (·.virtualAddress) = some (chunkStart + BitVec.ofNat 64 i * pageSize) := by
  induction n with
  | zero => exact ⟨vec, rfl, rfl, fun i hi => absurd hi (Nat.not_lt_zero i)⟩
  | succ n ih =>
    obtain ⟨vec', h, hlen, hset⟩ := ih (by omega)
    cases he : vec'[n]? with
    | none => rw [List.getElem?_eq_none_iff] at he; omega
    | some e =>
      refine ⟨_, by simp only [setAddresses, h, he, Option.bind_eq_bind, Option.some_bind]; rfl,
        by rw [List.length_set, hlen], fun i hi => ?_⟩
      rw [List.getElem?_set]
      by_cases hin : n = i
      · subst hin
        simp [show n < vec'.length by omega]
      · rw [if_neg hin]
        exact hset i (by omega)

theorem countValid_spec (vec : List WorkingSetExInformation) (f : Nat → Bool) {n : Nat}
    (h : ∀ i < n, vec[i]?.map (·.valid) = some (f i)) :
    countValid vec n = some (BitVec.ofNat 64 ((List.range n).filter f).length) := by
  induction n with
  | zero => rfl
  | succ n ih =>
    obtain ⟨e, he, hv⟩ := Option.map_eq_some'.1 (h n (Nat.lt_succ_self n))
    simp only [countValid, ih fun i hi => h i (by omega), he, Option.bind_eq_bind, Option.some_bind,
      hv, List.range_succ, List.filter_append, List.length_append, List.filter_cons, List.filter_nil]
    cases f n <;> simp [BitVec.ofNat_add_ofNat]

-- ---------------------------------------------------------------------------
-- One pass
-- ---------------------------------------------------------------------------

section

variable {startAddress mappedSize pageSize : SizeT}

theorem chunkPages_le_maxVecPages (c : Nat) :
    chunkPages mappedSize pageSize c ≤ maxVecPages mappedSize pageSize :=
  Nat.div_le_div_right (by omega)

theorem chunkPages_le (hP : 0 < pageSize.toNat) (c : Nat) : chunkPages mappedSize pageSize c ≤ 8388608 := by
  unfold chunkPages
  rw [Nat.div_le_iff_le_mul_add_pred hP]
  have : 8388608 ≤ pageSize.toNat * 8388608 := Nat.le_mul_of_pos_left _ hP
  omega

theorem lt_chunkCount_iff {c : Nat} : c < chunkCount mappedSize ↔ c * 8388608 < mappedSize.toNat := by
  unfold chunkCount
  omega

theorem toNat_pageCount (hP : 0 < pageSize.toNat) (hPle : pageSize.toNat ≤ 8388608) {c : Nat}
    (hc : c < chunkCount mappedSize) :
    (getSystemPageCount (stdMin (mappedSize - BitVec.ofNat 64 (c * 8388608)) kMaxChunkSize)
      pageSize).toNat = chunkPages mappedSize pageSize c := by
  have hcK := lt_chunkCount_iff.1 hc
  have hM := mappedSize.isLt
  have hsize : (stdMin (mappedSize - BitVec.ofNat 64 (c * 8388608)) kMaxChunkSize).toNat =
      min (mappedSize.toNat - c * 8388608) 8388608 := by
    rw [toNat_stdMin, BitVec.toNat_sub_of_le (BitVec.le_def.2 (by rw [BitVec.toNat_ofNat]; omega)),
      BitVec.toNat_ofNat, toNat_kMaxChunkSize, Nat.mod_eq_of_lt (by omega)]
  rw [toNat_getSystemPageCount hP (by rw [hsize]; omega), hsize]
  rfl

theorem countStep_spec (query : WorkingSetQuery) (hP : 0 < pageSize.toNat)
    (hPK : pageSize.toNat ∣ 8388608) {c : Nat} {st : CountState} (hc : c < chunkCount mappedSize) (h : AtChunk mappedSize pageSize c st) :
    ∃ st', countStep query startAddress mappedSize pageSize st = some st' ∧
      st'.queried = st.queried ++ [chunkAddresses startAddress mappedSize pageSize c] ∧
      if (query c (chunkAddresses startAddress mappedSize pageSize c)).1 then
        AtChunk mappedSize pageSize (c + 1) st' ∧
          st'.totalResidentPages = st.totalResidentPages +
            BitVec.ofNat 64 (pageSize.toNat * chunkResident query startAddress mappedSize pageSize c)
      else st'.failure = true := by
  have hcK := lt_chunkCount_iff.1 hc
  have hPle : pageSize.toNat ≤ 8388608 := Nat.le_of_dvd (by decide) hPK
  have hpages : (getSystemPageCount (stdMin (mappedSize - st.offset) kMaxChunkSize) pageSize).toNat =
      chunkPages mappedSize pageSize c := by
    rw [h.offset_eq]
    exact toNat_pageCount hP hPle hc
  have hpc : chunkPages mappedSize pageSize c ≤ 8388608 := chunkPages_le hP c
  have hmv : chunkPages mappedSize pageSize c ≤ maxVecPages mappedSize pageSize :=
    chunkPages_le_maxVecPages c
  obtain ⟨vec₁, hset, hlen₁, haddr⟩ := setAddresses_spec st.vec (startAddress + st.offset) pageSize
    (show (getSystemPageCount (stdMin (mappedSize - st.offset) kMaxChunkSize) pageSize).toNat ≤
      st.vec.length by rw [hpages, h.vec_length]; exact chunkPages_le_maxVecPages c)
  have hcb : ((getSystemPageCount (stdMin (mappedSize - st.offset) kMaxChunkSize) pageSize *
      sizeofWorkingSetExInformation).setWidth 32).toNat / sizeofWorkingSetExInformation.toNat =
      chunkPages mappedSize pageSize c := by
    simp only [BitVec.toNat_setWidth, BitVec.toNat_mul, toNat_sizeofWorkingSetExInformation, hpages]
    omega
  have haddrs : (vec₁.take (chunkPages mappedSize pageSize c)).map (·.virtualAddress) =
      chunkAddresses startAddress mappedSize pageSize c := by
    apply List.ext_getElem?
    intro i
    simp only [List.getElem?_map, List.getElem?_take, chunkAddresses]
    by_cases hi : i < chunkPages mappedSize pageSize c
    · rw [if_pos hi, haddr i (hpages ▸ hi), List.getElem?_range hi, h.offset_eq,
        add_ofNat_add_ofNat_mul]
      rfl
    · rw [if_neg hi, List.getElem?_eq_none (by simpa using hi)]
      rfl
  have hq : queryWorkingSetEx query st.queried.length vec₁
      ((getSystemPageCount (stdMin (mappedSize - st.offset) kMaxChunkSize) pageSize *
        sizeofWorkingSetExInformation).setWidth 32) =
      some ((query c (chunkAddresses startAddress mappedSize pageSize c)).1,
        vec₁.mapIdx (fun i e => if i < chunkPages mappedSize pageSize c then
          { e with valid := (query c (chunkAddresses startAddress mappedSize pageSize c)).2 i } else e),
        chunkAddresses startAddress mappedSize pageSize c) := by
    simp only [queryWorkingSetEx, hcb, haddrs, h.queried_length, hlen₁, h.vec_length, hmv, if_true]
  have hcount : countValid (vec₁.mapIdx (fun i e => if i < chunkPages mappedSize pageSize c then
        { e with valid := (query c (chunkAddresses startAddress mappedSize pageSize c)).2 i } else e))
      (getSystemPageCount (stdMin (mappedSize - st.offset) kMaxChunkSize) pageSize).toNat =
      some (BitVec.ofNat 64 (chunkResident query startAddress mappedSize pageSize c)) := by
    rw [hpages, chunkResident]
    apply countValid_spec
    intro i hi
    rw [List.getElem?_mapIdx]
    cases he : vec₁[i]? with
    | none =>
      have := h.vec_length
      rw [List.getElem?_eq_none_iff] at he
      omega
    | some e => simp [hi]
  simp only [countStep, hset, hq, hcount, Option.bind_eq_bind, Option.some_bind]
  cases (query c (chunkAddresses startAddress mappedSize pageSize c)).1
  · exact ⟨_, rfl, rfl, rfl⟩
  · refine ⟨_, rfl, rfl, ⟨?_, rfl, ?_, ?_⟩, by rw [ofNat_mul_eq]⟩
    · rw [h.offset_eq]
      apply BitVec.eq_of_toNat_eq
      simp only [BitVec.toNat_add, BitVec.toNat_ofNat, toNat_kMaxChunkSize]
      omega
    · rw [List.length_mapIdx, hlen₁, h.vec_length]
    · simp [h.queried_length]

theorem countLoop_spec (query : WorkingSetQuery) (hP : 0 < pageSize.toNat)
    (hPK : pageSize.toNat ∣ 8388608) (hfit : startAddress.toNat + mappedSize.toNat + 8388608 < 2 ^ 64)
    (n : Nat) : ∀ {c : Nat} {st : CountState} {fuel : Nat}, c + n = chunkCount mappedSize → n < fuel →
      AtChunk mappedSize pageSize c st →
      ∃ st', countLoop query startAddress mappedSize pageSize fuel st = some st' ∧
        st'.queried = st.queried ++ chunkCalls query startAddress mappedSize pageSize n c ∧
        (residentPages query startAddress mappedSize pageSize n c = none → st'.failure = true) ∧
        ∀ r, residentPages query startAddress mappedSize pageSize n c = some r →
          st'.failure = false ∧
          st'.totalResidentPages = st.totalResidentPages + BitVec.ofNat 64 (pageSize.toNat * r) := by
  induction n with
  | zero =>
    intro c st fuel hcn hfuel h
    obtain ⟨f, rfl⟩ : ∃ f, fuel = f + 1 := ⟨fuel - 1, by omega⟩
    have hnot : ¬ st.offset < mappedSize := by
      rw [h.offset_eq, BitVec.lt_def, BitVec.toNat_ofNat]
      unfold chunkCount at hcn
      omega
    refine ⟨st, by rw [countLoop, if_neg hnot], by simp [chunkCalls],
      fun hr => by simp [residentPages] at hr, fun r hr => ?_⟩
    simp only [residentPages, Option.some.injEq] at hr
    subst hr
    exact ⟨h.failure_eq, by simp⟩
  | succ n ih =>
    intro c st fuel hcn hfuel h
    obtain ⟨f, rfl⟩ : ∃ f, fuel = f + 1 := ⟨fuel - 1, by omega⟩
    have hlt : c < chunkCount mappedSize := by omega
    have hcond : st.offset < mappedSize := by
      rw [h.offset_eq, BitVec.lt_def, BitVec.toNat_ofNat]
      have := lt_chunkCount_iff.1 hlt
      omega
    obtain ⟨st₁, hstep, hq₁, hok⟩ := @countStep_spec startAddress _ _ query hP hPK _ _ hlt h
    simp only [countLoop, if_pos hcond, hstep, Option.bind_eq_bind, Option.some_bind]
    by_cases hc : (query c (chunkAddresses startAddress mappedSize pageSize c)).1
    · rw [if_pos hc] at hok
      obtain ⟨h₁, htot₁⟩ := hok
      obtain ⟨st₂, hloop, hq₂, hnone, hsome⟩ :=
        ih (show c + 1 + n = chunkCount mappedSize by omega) (show n < f by omega) h₁
      refine ⟨st₂, by simp [h₁.failure_eq, hloop], by simp [hq₂, hq₁, chunkCalls, hc],
        fun hr => hnone (by simpa [residentPages, hc] using hr), fun r hr => ?_⟩
      simp only [residentPages, hc, if_true, Option.map_eq_some'] at hr
      obtain ⟨r', hr', rfl⟩ := hr
      refine ⟨(hsome r' hr').1, ?_⟩
      rw [(hsome r' hr').2, htot₁, add_assoc, BitVec.ofNat_add_ofNat, Nat.mul_add]
    · rw [if_neg hc] at hok
      refine ⟨st₁, by simp [hok], by simp [hq₁, chunkCalls, hc], fun _ => hok, fun r hr => ?_⟩
      simp [residentPages, hc] at hr

end

-- ---------------------------------------------------------------------------
-- The chunks together
-- ---------------------------------------------------------------------------

section

variable (query : WorkingSetQuery) (startAddress mappedSize pageSize : SizeT)

theorem shift_comp_succ {α : Type} (f : Nat → α) (c : Nat) :
    ((fun i => f (c + i)) ∘ Nat.succ) = fun i => f (c + 1 + i) :=
  funext fun i => by rw [Function.comp_apply, Nat.succ_eq_add_one, ← Nat.add_assoc, Nat.add_right_comm]

theorem chunkCalls_of_ok {n c : Nat}
    (h : ∀ i < n, (query (c + i) (chunkAddresses startAddress mappedSize pageSize (c + i))).1) :
    chunkCalls query startAddress mappedSize pageSize n c =
      (List.range n).map fun i => chunkAddresses startAddress mappedSize pageSize (c + i) := by
  induction n generalizing c with
  | zero => rfl
  | succ n ih =>
    have h₀ := h 0 (Nat.succ_pos n)
    have h' : ∀ i < n, (query (c + 1 + i) (chunkAddresses startAddress mappedSize pageSize (c + 1 + i))).1 :=
      fun i hi => by simpa only [show c + (i + 1) = c + 1 + i by omega] using h (i + 1) (by omega)
    rw [Nat.add_zero] at h₀
    simp only [chunkCalls, if_pos h₀]
    rw [@ih (c + 1) h', List.range_succ_eq_map, List.map_cons, List.map_map, shift_comp_succ]
    simp only [Nat.add_zero]

theorem residentPages_of_ok {n c : Nat}
    (h : ∀ i < n, (query (c + i) (chunkAddresses startAddress mappedSize pageSize (c + i))).1) :
    residentPages query startAddress mappedSize pageSize n c =
      some (validPages query startAddress mappedSize pageSize n c) := by
  induction n generalizing c with
  | zero => rfl
  | succ n ih =>
    have h₀ := h 0 (Nat.succ_pos n)
    have h' : ∀ i < n, (query (c + 1 + i) (chunkAddresses startAddress mappedSize pageSize (c + 1 + i))).1 :=
      fun i hi => by simpa only [show c + (i + 1) = c + 1 + i by omega] using h (i + 1) (by omega)
    rw [Nat.add_zero] at h₀
    simp only [residentPages, if_pos h₀, @ih (c + 1) h', validPages, Option.map_some']

theorem validPages_le (n c : Nat) :
    validPages query startAddress mappedSize pageSize n c ≤
      ((List.range n).map fun i => chunkAddresses startAddress mappedSize pageSize (c + i)).flatten.length := by
  induction n generalizing c with
  | zero => exact Nat.zero_le _
  | succ n ih =>
    rw [validPages, List.range_succ_eq_map, List.map_cons, List.map_map, shift_comp_succ,
      List.flatten_cons, List.length_append, Nat.add_zero]
    have hc : chunkResident query startAddress mappedSize pageSize c ≤
        (chunkAddresses startAddress mappedSize pageSize c).length := by
      rw [chunkAddresses, List.length_map]
      exact (List.length_filter_le _ _)
    exact Nat.add_le_add hc (ih (c + 1))

theorem residentPages_of_fail {n c : Nat}
    (h : ∃ i < n, (query (c + i) (chunkAddresses startAddress mappedSize pageSize (c + i))).1 = false) :
    residentPages query startAddress mappedSize pageSize n c = none := by
  induction n generalizing c with
  | zero => obtain ⟨i, hi, -⟩ := h; omega
  | succ n ih =>
    obtain ⟨i, hi, hf⟩ := h
    rw [residentPages]
    split
    · rename_i hok
      rcases i with _ | i
      · simp_all
      · rw [ih ⟨i, by omega, by rw [← Nat.add_right_comm, Nat.add_assoc]; exact hf⟩]
        rfl
    · rfl

theorem flatten_chunkAddresses (hP : 0 < pageSize.toNat) (hPK : pageSize.toNat ∣ 8388608) {c : Nat}
    (hc : c ≤ chunkCount mappedSize) :
    ((List.range c).map (chunkAddresses startAddress mappedSize pageSize)).flatten =
      (List.range ((min (c * 8388608) mappedSize.toNat + pageSize.toNat - 1) / pageSize.toNat)).map
        fun j => BitVec.ofNat 64 (startAddress.toNat + j * pageSize.toNat) := by
  obtain ⟨k, hk⟩ := hPK
  induction c with
  | zero => simp [Nat.div_eq_of_lt (Nat.sub_lt hP Nat.one_pos)]
  | succ c ih =>
    have hcK := lt_chunkCount_iff.1 (show c < chunkCount mappedSize by omega)
    have hck : c * 8388608 = pageSize.toNat * (c * k) := by rw [hk, Nat.mul_left_comm]
    have hbefore : (min (c * 8388608) mappedSize.toNat + pageSize.toNat - 1) / pageSize.toNat = c * k := by
      rw [show min (c * 8388608) mappedSize.toNat + pageSize.toNat - 1 =
          pageSize.toNat - 1 + pageSize.toNat * (c * k) by omega,
        Nat.add_mul_div_left _ _ hP, Nat.div_eq_of_lt (Nat.sub_lt hP Nat.one_pos), Nat.zero_add]
    have hafter : (min ((c + 1) * 8388608) mappedSize.toNat + pageSize.toNat - 1) / pageSize.toNat =
        c * k + chunkPages mappedSize pageSize c := by
      rw [chunkPages, show min ((c + 1) * 8388608) mappedSize.toNat + pageSize.toNat - 1 =
          min (mappedSize.toNat - c * 8388608) 8388608 + pageSize.toNat - 1 + pageSize.toNat * (c * k)
          by omega, Nat.add_mul_div_left _ _ hP, Nat.add_comm]
    rw [List.range_succ, List.map_append, List.flatten_append, ih (by omega), hbefore, hafter,
      List.range_add, List.map_append, List.map_map, List.map_singleton, List.flatten_singleton,
      chunkAddresses]
    congr 1
    refine List.map_congr_left fun i _ => ?_
    have e : (c * k + i) * pageSize.toNat = c * 8388608 + i * pageSize.toNat := by
      rw [Nat.add_mul, hck, Nat.mul_comm (c * k)]
    simp only [Function.comp_apply, e, Nat.add_assoc]

end

/-- `CountResidentBytes` when the page size divides `kMaxChunkSize` and the
region ends, one chunk to spare, below `2 ^ 64`, whatever `QueryWorkingSetEx`
answers. Every chunk's `page_count` is at most `max_vec_size`, and the run ends
with no index out of `vec`; the calls are those of `chunkCalls`. When every
call succeeds there are `ceil(mapped_size / kMaxChunkSize)` of them, they ask
about the addresses `start_address + j * page_size` for
`j < ceil(mapped_size / page_size)` in order, and the result is `page_size`
times the pages reported valid, with no overflow; when a call fails it is `0`. -/
theorem countResidentBytes_correct (query : WorkingSetQuery) (pageSize startAddress mappedSize : SizeT)
    (hP : 0 < pageSize.toNat) (hPK : pageSize.toNat ∣ kMaxChunkSize.toNat)
    (hfit : startAddress.toNat + mappedSize.toNat + kMaxChunkSize.toNat < 2 ^ 64) :
    (∀ c < chunkCount mappedSize,
      (getSystemPageCount (stdMin (mappedSize - BitVec.ofNat 64 (c * kMaxChunkSize.toNat)) kMaxChunkSize)
        pageSize).toNat ≤ (getSystemPageCount (stdMin mappedSize kMaxChunkSize) pageSize).toNat) ∧
    ∃ st, countResidentBytesRun query pageSize startAddress mappedSize = some st ∧
      st.queried = chunkCalls query startAddress mappedSize pageSize (chunkCount mappedSize) 0 ∧
      ((∀ c < chunkCount mappedSize, (query c (chunkAddresses startAddress mappedSize pageSize c)).1) →
        st.queried.length = chunkCount mappedSize ∧
        st.queried.flatten = (List.range ((mappedSize.toNat + pageSize.toNat - 1) / pageSize.toNat)).map
          (fun j => BitVec.ofNat 64 (startAddress.toNat + j * pageSize.toNat)) ∧
        pageSize.toNat * validPages query startAddress mappedSize pageSize
          (chunkCount mappedSize) 0 < 2 ^ 64 ∧
        countResidentBytes query pageSize startAddress mappedSize =
          some (BitVec.ofNat 64 (pageSize.toNat *
            validPages query startAddress mappedSize pageSize (chunkCount mappedSize) 0))) ∧
      ((∃ c < chunkCount mappedSize, (query c (chunkAddresses startAddress mappedSize pageSize c)).1 = false) →
        countResidentBytes query pageSize startAddress mappedSize = some 0) := by
  rw [toNat_kMaxChunkSize] at hPK hfit ⊢
  have hPle : pageSize.toNat ≤ 8388608 := Nat.le_of_dvd (by decide) hPK
  have hmaxVec : (getSystemPageCount (stdMin mappedSize kMaxChunkSize) pageSize).toNat =
      maxVecPages mappedSize pageSize := by
    rw [toNat_getSystemPageCount hP (by rw [toNat_stdMin, toNat_kMaxChunkSize]; omega), toNat_stdMin,
      toNat_kMaxChunkSize]
    rfl
  refine ⟨fun c hc => ?_, ?_⟩
  · rw [hmaxVec, toNat_pageCount hP hPle hc]
    exact chunkPages_le_maxVecPages c
  · have hC : chunkCount mappedSize < countFuel := by
      unfold chunkCount countFuel
      omega
    obtain ⟨st, hrun, hq, hnone, hsome⟩ := countLoop_spec query hP hPK hfit (chunkCount mappedSize)
      (Nat.zero_add _) hC
      (show AtChunk mappedSize pageSize 0 ⟨0, 0, false, List.replicate
        (getSystemPageCount (stdMin mappedSize kMaxChunkSize) pageSize).toNat default, []⟩ from
        ⟨by simp, rfl, by rw [List.length_replicate, hmaxVec], rfl⟩)
    have hrun' : countResidentBytesRun query pageSize startAddress mappedSize = some st := hrun
    have hres : countResidentBytes query pageSize startAddress mappedSize =
        some (if st.failure then 0 else st.totalResidentPages) := by
      rw [countResidentBytes, hrun', Option.map_some']
    refine ⟨st, hrun', by rw [hq, List.nil_append], fun hok => ?_, fun hfail => ?_⟩
    · have hok' : ∀ i < chunkCount mappedSize,
          (query (0 + i) (chunkAddresses startAddress mappedSize pageSize (0 + i))).1 := by
        simpa only [Nat.zero_add] using hok
      have hcalls : st.queried = (List.range (chunkCount mappedSize)).map
          (chunkAddresses startAddress mappedSize pageSize) := by
        rw [hq, List.nil_append, chunkCalls_of_ok query startAddress mappedSize pageSize hok']
        simp only [Nat.zero_add]
      have hpages := flatten_chunkAddresses startAddress mappedSize pageSize hP hPK
        (le_refl (chunkCount mappedSize))
      rw [min_eq_right (by unfold chunkCount; omega)] at hpages
      have hle : validPages query startAddress mappedSize pageSize (chunkCount mappedSize) 0 ≤
          (mappedSize.toNat + pageSize.toNat - 1) / pageSize.toNat := by
        have := validPages_le query startAddress mappedSize pageSize (chunkCount mappedSize) 0
        simp only [Nat.zero_add] at this
        rwa [hpages, List.length_map, List.length_range] at this
      have hdiv := Nat.div_mul_le_self (mappedSize.toNat + pageSize.toNat - 1) pageSize.toNat
      obtain ⟨hf, htot⟩ := hsome _ (residentPages_of_ok query startAddress mappedSize pageSize hok')
      refine ⟨by rw [hcalls, List.length_map, List.length_range], by rw [hcalls, hpages], ?_, ?_⟩
      · calc pageSize.toNat * _ ≤ pageSize.toNat * ((mappedSize.toNat + pageSize.toNat - 1) /
              pageSize.toNat) := Nat.mul_le_mul_left _ hle
          _ ≤ mappedSize.toNat + pageSize.toNat - 1 := by rw [Nat.mul_comm]; exact hdiv
          _ < 2 ^ 64 := by omega
      · rw [hres, hf, htot]
        simp
    · have hfail' : ∃ i < chunkCount mappedSize,
          (query (0 + i) (chunkAddresses startAddress mappedSize pageSize (0 + i))).1 = false := by
        simpa only [Nat.zero_add] using hfail
      rw [hres, hnone (residentPages_of_fail query startAddress mappedSize pageSize hfail'), if_pos rfl]

def samplePageSize : SizeT := 4 * 1024 * 1024

def sampleStart : SizeT := 0x10000000

def everyOtherPage : WorkingSetQuery := fun _ _ => (true, fun i => i % 2 == 0)

theorem countResidentBytes_four_mib_pages :
    (∀ c < chunkCount (10 * 1024 * 1024),
      (getSystemPageCount (stdMin ((10 * 1024 * 1024 : SizeT) - BitVec.ofNat 64 (c * kMaxChunkSize.toNat))
        kMaxChunkSize) samplePageSize).toNat ≤
        (getSystemPageCount (stdMin (10 * 1024 * 1024) kMaxChunkSize) samplePageSize).toNat) ∧
    ∃ st, countResidentBytesRun everyOtherPage samplePageSize sampleStart (10 * 1024 * 1024) = some st ∧
      st.queried = chunkCalls everyOtherPage sampleStart (10 * 1024 * 1024) samplePageSize
        (chunkCount (10 * 1024 * 1024)) 0 ∧
      ((∀ c < chunkCount (10 * 1024 * 1024),
          (everyOtherPage c (chunkAddresses sampleStart (10 * 1024 * 1024) samplePageSize c)).1) →
        st.queried.length = chunkCount (10 * 1024 * 1024) ∧
        st.queried.flatten = (List.range (((10 * 1024 * 1024 : SizeT).toNat + samplePageSize.toNat - 1) /
          samplePageSize.toNat)).map (fun j => BitVec.ofNat 64 (sampleStart.toNat + j * samplePageSize.toNat)) ∧
        samplePageSize.toNat * validPages everyOtherPage sampleStart (10 * 1024 * 1024) samplePageSize
          (chunkCount (10 * 1024 * 1024)) 0 < 2 ^ 64 ∧
        countResidentBytes everyOtherPage samplePageSize sampleStart (10 * 1024 * 1024) =
          some (BitVec.ofNat 64 (samplePageSize.toNat * validPages everyOtherPage sampleStart
            (10 * 1024 * 1024) samplePageSize (chunkCount (10 * 1024 * 1024)) 0))) ∧
      ((∃ c < chunkCount (10 * 1024 * 1024),
          (everyOtherPage c (chunkAddresses sampleStart (10 * 1024 * 1024) samplePageSize c)).1 = false) →
        countResidentBytes everyOtherPage samplePageSize sampleStart (10 * 1024 * 1024) = some 0) :=
  countResidentBytes_correct _ _ _ _ (by decide) (by decide) (by decide)

def firstCallFails : WorkingSetQuery := fun k _ => (k != 0, fun _ => true)

/-- Over 16 MiB in 4 MiB pages, a first call that fails ends the loop: the
two pages of the first chunk are all that is asked about, not the four pages
of the region, and the result is `0`. -/
theorem countResidentBytes_first_call_fails :
    (countResidentBytesRun firstCallFails samplePageSize sampleStart (16 * 1024 * 1024)).map
        (·.queried.flatten) = some [0x10000000, 0x10400000] ∧
      [0x10000000, 0x10400000] ≠ (List.range (((16 * 1024 * 1024 : SizeT).toNat + samplePageSize.toNat - 1) /
        samplePageSize.toNat)).map (fun j => BitVec.ofNat 64 (sampleStart.toNat + j * samplePageSize.toNat)) ∧
      countResidentBytes firstCallFails samplePageSize sampleStart (16 * 1024 * 1024) = some 0 := by
  decide

end BaseLib.TraceEvent
