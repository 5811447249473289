import Mathlib.Data.List.Basic

/-!
# `HistogramBase::SetFlags` and `ClearFlags` across threads

`SetFlags(flags)` reads `flags_` with `NoBarrier_Load` and writes back
`old_flags | flags` with `NoBarrier_Store`; `ClearFlags(flags)` writes back
`old_flags & ~flags`. Each access is atomic, the pair is not. The model runs
one such call on each of any number of threads, under any schedule of their
accesses.

Calls that do not overlap compose, in whatever order they run: one after
another they give the sequential fold, and each bit ends as the last call
naming it left it (`run_serial`). Under every schedule a bit keeps its value
when no call would give it the other one (`run_getLsbD`): `SetFlags` never
clears a bit, and bits no call names never move.

A store can overwrite another that came after its own load, so a call's
effect can be lost; but that is all that can go wrong. Beside the run, a
ghost `Lineage` follows which stores each value is built from: a load copies
the lineage of `flags_`, a store makes `flags_`'s lineage the one its thread
loaded, then itself. Under every schedule `flags_` is the sequential fold of
the calls in its lineage, a sublist of the stores in store order, each made by
a returned call and none twice (`run_flags_lineage`).
-/

namespace BaseLib.Metrics

/-- `SetFlags(flags)` or `ClearFlags(flags)`; `int32_t` bit operations are
those of `BitVec 32`. -/
inductive FlagCall
  | setFlags (flags : BitVec 32)
  | clearFlags (flags : BitVec 32)
  deriving DecidableEq, Repr

namespace FlagCall

/-- The value the call stores, from the `old_flags` it loaded. -/
def store : FlagCall → BitVec 32 → BitVec 32
  | .setFlags flags, oldFlags => oldFlags ||| flags
  | .clearFlags flags, oldFlags => oldFlags &&& ~~~flags

/-- The value the call gives bit `i`, when its argument has the bit. -/
def forces (i : Nat) : FlagCall → Option Bool
  | .setFlags flags => if flags.getLsbD i then some true else none
  | .clearFlags flags => if flags.getLsbD i then some false else none

theorem getLsbD_store (c : FlagCall) (oldFlags : BitVec 32) (i : Nat) :
    (c.store oldFlags).getLsbD i = (c.forces i).getD (oldFlags.getLsbD i) := by
  cases c with
  | setFlags f => by_cases h : f.getLsbD i <;> simp [store, forces, h]
  | clearFlags f =>
    by_cases hi : i < 32
    · by_cases h : f.getLsbD i <;> simp [store, forces, h, hi]
    · have hv := BitVec.getLsbD_ge oldFlags i (by omega)
      have hf := BitVec.getLsbD_ge f i (by omega)
      simp [store, forces, hv, hf]

end FlagCall

def runSerial (flags : BitVec 32) (calls : List FlagCall) : BitVec 32 :=
  calls.foldl (fun v c => c.store v) flags

theorem getLsbD_runSerial (flags : BitVec 32) (calls : List FlagCall) (i : Nat) :
    (runSerial flags calls).getLsbD i = calls.foldl (fun b c => (c.forces i).getD b) (flags.getLsbD i) := by
  induction calls generalizing flags with
  | nil => rfl
  | cons c calls ih => exact (ih _).trans (by rw [FlagCall.getLsbD_store]; rfl)

theorem runSerial_concat (flags : BitVec 32) (calls : List FlagCall) (c : FlagCall) :
    runSerial flags (calls ++ [c]) = c.store (runSerial flags calls) := by
  rw [runSerial, runSerial, List.foldl_append]
  rfl

-- ---------------------------------------------------------------------------
-- Threads
-- ---------------------------------------------------------------------------

/-- A thread in its call: before the load, between the load of `old_flags`
and the store, or returned. -/
inductive FlagThread
  | ready (call : FlagCall)
  | loaded (call : FlagCall) (oldFlags : BitVec 32)
  | done
  deriving DecidableEq, Repr

structure FlagSystem where
  flags : BitVec 32
  threads : List FlagThread
  deriving DecidableEq, Repr

namespace FlagSystem

def start (flags : BitVec 32) (calls : List FlagCall) : FlagSystem :=
  ⟨flags, calls.map .ready⟩

/-- Thread `t` makes its next access: the `NoBarrier_Load` or the
`NoBarrier_Store`. -/
def step (s : FlagSystem) (t : Nat) : FlagSystem :=
  match s.threads[t]? with
  | some (.ready c) => { s with threads := s.threads.set t (.loaded c s.flags) }
  | some (.loaded c oldFlags) => ⟨c.store oldFlags, s.threads.set t .done⟩
  | _ => s

def run (s : FlagSystem) (schedule : List Nat) : FlagSystem :=
  schedule.foldl step s

theorem step_step_ready {s : FlagSystem} {t : Nat} {c : FlagCall} (h : s.threads[t]? = some (.ready c)) :
    (s.step t).step t = ⟨c.store s.flags, s.threads.set t .done⟩ := by
  have ht : t < s.threads.length := (List.getElem?_eq_some_iff.1 h).1
  simp only [step, h, List.getElem?_set_self (by simpa using ht), List.set_set]

theorem step_of_getElem?_eq_none {s : FlagSystem} {t : Nat} (h : s.threads[t]? = none) : s.step t = s := by
  simp only [step, h]

theorem run_serial_state (s : FlagSystem) (calls : List FlagCall) (ts : List Nat) (hts : ts.Nodup)
    (hready : ∀ t ∈ ts, s.threads[t]? = calls[t]?.map .ready) :
    (s.run (ts.flatMap fun t => [t, t])).flags = runSerial s.flags (ts.filterMap fun t => calls[t]?) := by
  induction ts generalizing s with
  | nil => rfl
  | cons t ts ih =>
    rw [List.nodup_cons] at hts
    have ht := hready t (List.mem_cons_self _ _)
    have hrest (t' : Nat) (ht' : t' ∈ ts) := hready t' (List.mem_cons_of_mem _ ht')
    rw [List.flatMap_cons]
    show (run (step (step s t) t) _).flags = _
    cases hc : calls[t]? with
    | none =>
      rw [hc, Option.map_none'] at ht
      rw [step_of_getElem?_eq_none ht, step_of_getElem?_eq_none ht, List.filterMap_cons_none hc]
      exact ih s hts.2 hrest
    | some c =>
      rw [hc, Option.map_some'] at ht
      rw [step_step_ready ht, List.filterMap_cons_some hc]
      exact ih _ hts.2 fun t' ht' =>
        (List.getElem?_set_ne (ne_of_mem_of_not_mem ht' hts.1).symm).trans (hrest t' ht')

/-- Calls that do not overlap compose, in whatever order they run: the
threads `ts` one after another store the sequential fold of their calls, and
bit `i` ends as the last of them naming it left it. -/
theorem run_serial (flags : BitVec 32) (calls : List FlagCall) (ts : List Nat) (hts : ts.Nodup) (i : Nat) :
    ((start flags calls).run (ts.flatMap fun t => [t, t])).flags =
        runSerial flags (ts.filterMap fun t => calls[t]?) ∧
      ((start flags calls).run (ts.flatMap fun t => [t, t])).flags.getLsbD i =
        (ts.filterMap fun t => calls[t]?).foldl (fun b c => (c.forces i).getD b) (flags.getLsbD i) := by
  have h := run_serial_state (start flags calls) calls ts hts fun t _ => List.getElem?_map _ _ _
  exact ⟨h, by rw [h, start, getLsbD_runSerial]⟩

theorem run_serial_sample :
    [1, 2, 0].Nodup ∧
      (((start 0 [.setFlags 1, .clearFlags 1, .setFlags 4]).run ([1, 2, 0].flatMap fun t => [t, t])).flags =
          runSerial 0 ([1, 2, 0].filterMap fun t => [FlagCall.setFlags 1, .clearFlags 1, .setFlags 4][t]?) ∧
        ((start 0 [.setFlags 1, .clearFlags 1, .setFlags 4]).run ([1, 2, 0].flatMap fun t => [t, t])).flags.getLsbD 0 =
          ([1, 2, 0].filterMap fun t => [FlagCall.setFlags 1, .clearFlags 1, .setFlags 4][t]?).foldl
            (fun b c => (c.forces 0).getD b) ((0 : BitVec 32).getLsbD 0)) :=
  ⟨by decide, run_serial 0 [.setFlags 1, .clearFlags 1, .setFlags 4] [1, 2, 0] (by decide) 0⟩

-- ---------------------------------------------------------------------------
-- Any schedule
-- ---------------------------------------------------------------------------

/-- No call still to store gives bit `i` the value `!b`, and a loaded
`old_flags` has `b` there. -/
def ThreadKeeps (i : Nat) (b : Bool) : FlagThread → Prop
  | .ready c => c.forces i ≠ some !b
  | .loaded c oldFlags => c.forces i ≠ some !b ∧ oldFlags.getLsbD i = b
  | .done => True

def Keeps (i : Nat) (b : Bool) (s : FlagSystem) : Prop :=
  s.flags.getLsbD i = b ∧ ∀ th ∈ s.threads, ThreadKeeps i b th

theorem getLsbD_store_of_forces {c : FlagCall} {oldFlags : BitVec 32} {i : Nat} {b : Bool}
    (hc : c.forces i ≠ some !b) (hv : oldFlags.getLsbD i = b) : (c.store oldFlags).getLsbD i = b := by
  rw [FlagCall.getLsbD_store, hv]
  cases h : c.forces i with
  | none => rfl
  | some b' => cases b <;> cases b' <;> simp_all

theorem Keeps.step {i : Nat} {b : Bool} {s : FlagSystem} (h : s.Keeps i b) (t : Nat) :
    (s.step t).Keeps i b := by
  obtain ⟨hflags, hthreads⟩ := h
  unfold FlagSystem.step
  split
  · rename_i c hc
    refine ⟨hflags, fun th hth => ?_⟩
    rcases List.mem_or_eq_of_mem_set hth with hth | rfl
    · exact hthreads th hth
    · exact ⟨hthreads _ (List.getElem?_mem hc), hflags⟩
  · rename_i c oldFlags hc
    obtain ⟨hf, hv⟩ := hthreads _ (List.getElem?_mem hc)
    refine ⟨getLsbD_store_of_forces hf hv, fun th hth => ?_⟩
    rcases List.mem_or_eq_of_mem_set hth with hth | rfl
    · exact hthreads th hth
    · trivial
  · exact ⟨hflags, hthreads⟩

theorem Keeps.run {i : Nat} {b : Bool} {s : FlagSystem} (h : s.Keeps i b) (schedule : List Nat) :
    (s.run schedule).Keeps i b := by
  induction schedule generalizing s with
  | nil => exact h
  | cons t schedule ih => exact ih (h.step t)

/-- Under every schedule, at every point, a bit keeps its value when no call
would give it the other one. -/
theorem run_getLsbD (flags : BitVec 32) (calls : List FlagCall) (i : Nat)
    (hcalls : ∀ c ∈ calls, c.forces i ≠ some !(flags.getLsbD i)) (schedule : List Nat) :
    ((start flags calls).run schedule).flags.getLsbD i = flags.getLsbD i := by
  refine (Keeps.run ⟨rfl, fun th hth => ?_⟩ schedule).1
  obtain ⟨c, hc, rfl⟩ := List.mem_map.1 hth
  exact hcalls c hc

theorem run_getLsbD_sample :
    (∀ c ∈ [FlagCall.setFlags 1, .clearFlags 4], c.forces 0 ≠ some !((1 : BitVec 32).getLsbD 0)) ∧
      ((start 1 [.setFlags 1, .clearFlags 4]).run [0, 1, 1, 0]).flags.getLsbD 0 =
        (1 : BitVec 32).getLsbD 0 :=
  ⟨by decide, run_getLsbD 1 [.setFlags 1, .clearFlags 4] 0 (by decide) [0, 1, 1, 0]⟩

-- ---------------------------------------------------------------------------
-- The lineage of flags_
-- ---------------------------------------------------------------------------

theorem getElem?_step_of_ne {s : FlagSystem} {t t' : Nat} (e : t ≠ t') :
    (s.step t).threads[t']? = s.threads[t']? := by
  unfold step
  split <;> first | rfl | exact List.getElem?_set_ne e

theorem getElem?_step_self (s : FlagSystem) (t : Nat) :
    (s.step t).threads[t]? = s.threads[t]?.map fun
      | .ready c => .loaded c s.flags
      | _ => .done := by
  cases h : s.threads[t]? with
  | none => rw [step_of_getElem?_eq_none h, h]; rfl
  | some th =>
    have hlt := (List.getElem?_eq_some_iff.1 h).1
    cases th <;> simp only [step, h, List.getElem?_set_self hlt, Option.map_some']

theorem getElem?_step_of_done {s : FlagSystem} {t t' : Nat} (h : s.threads[t']? = some .done) :
    (s.step t).threads[t']? = some .done := by
  by_cases e : t = t'
  · subst e
    rw [getElem?_step_self, h]
    rfl
  · exact (getElem?_step_of_ne e).trans h

theorem getElem?_of_step_ready {s : FlagSystem} {t t' : Nat} {c : FlagCall}
    (h : (s.step t).threads[t']? = some (.ready c)) : s.threads[t']? = some (.ready c) := by
  by_cases e : t = t'
  · subst e
    obtain ⟨th, -, h⟩ := Option.map_eq_some'.1 ((getElem?_step_self s t).symm.trans h)
    cases th <;> cases h
  · exact (getElem?_step_of_ne e).symm.trans h

theorem getElem?_of_step_loaded {s : FlagSystem} {t t' : Nat} {c : FlagCall} {v : BitVec 32}
    (h : (s.step t).threads[t']? = some (.loaded c v)) :
    t' ≠ t ∧ s.threads[t']? = some (.loaded c v) ∨
      t' = t ∧ s.threads[t]? = some (.ready c) ∧ v = s.flags := by
  by_cases e : t = t'
  · subst e
    obtain ⟨th, hth, h⟩ := Option.map_eq_some'.1 ((getElem?_step_self s t).symm.trans h)
    cases th <;> cases h
    exact .inr ⟨rfl, hth, rfl⟩
  · exact .inl ⟨Ne.symm e, (getElem?_step_of_ne e).symm.trans h⟩

/-- Ghost state beside a run: the threads whose stores `flags_` is built from,
the same for the `old_flags` each thread loaded, and every store so far; each
list in store order. -/
structure Lineage where
  flags : List Nat
  loaded : Nat → List Nat
  stores : List Nat

def Lineage.initial : Lineage := ⟨[], fun _ => [], []⟩

/-- The lineage after thread `t`'s access from `s`: a load copies the lineage
of `flags_`; a store makes it the one the thread loaded, then the thread. -/
def Lineage.step (s : FlagSystem) (l : Lineage) (t : Nat) : Lineage :=
  match s.threads[t]? with
  | some (.ready _) => { l with loaded := Function.update l.loaded t l.flags }
  | some (.loaded _ _) => { l with flags := l.loaded t ++ [t], stores := l.stores ++ [t] }
  | _ => l

def runLineage (s : FlagSystem) (l : Lineage) : List Nat → Lineage
  | [] => l
  | t :: ts => (s.step t).runLineage (l.step s t) ts

def lineage (flags : BitVec 32) (calls : List FlagCall) (schedule : List Nat) : Lineage :=
  (start flags calls).runLineage .initial schedule

/-- Every thread runs its own call; `flags_` and each loaded `old_flags` are
the sequential fold of their lineage, made of stores so far; every store so
far is of a returned thread, and no thread has stored twice. -/
structure LineageOk (flags : BitVec 32) (calls : List FlagCall) (s : FlagSystem) (l : Lineage) :
    Prop where
  ready_call : ∀ (t : Nat) (c : FlagCall), s.threads[t]? = some (.ready c) → calls[t]? = some c
  loaded : ∀ (t : Nat) (c : FlagCall) (v : BitVec 32), s.threads[t]? = some (.loaded c v) →
    calls[t]? = some c ∧ (l.loaded t).Sublist l.stores ∧
      v = runSerial flags ((l.loaded t).filterMap fun t => calls[t]?)
  flags_eq : s.flags = runSerial flags (l.flags.filterMap fun t => calls[t]?)
  flags_sublist : l.flags.Sublist l.stores
  stores_done : ∀ t ∈ l.stores, s.threads[t]? = some .done
  stores_nodup : l.stores.Nodup

theorem LineageOk.step {flags : BitVec 32} {calls : List FlagCall} {s : FlagSystem} {l : Lineage}
    (h : LineageOk flags calls s l) (t : Nat) : LineageOk flags calls (s.step t) (l.step s t) := by
  cases ht : s.threads[t]? with
  | none => simpa only [FlagSystem.step, Lineage.step, ht] using h
  | some th =>
    cases th with
    | done => simpa only [FlagSystem.step, Lineage.step, ht] using h
    | ready c =>
      -- the load: thread `t` takes `flags_` and its lineage
      have hs : s.step t = ⟨s.flags, s.threads.set t (.loaded c s.flags)⟩ := by
        simp only [FlagSystem.step, ht]
      have hl : l.step s t = { l with loaded := Function.update l.loaded t l.flags } := by
        simp only [Lineage.step, ht]
      rw [hl]
      refine ⟨fun t' c' h' => h.ready_call t' c' (getElem?_of_step_ready h'), fun t' c' v' h' => ?_,
        by rw [hs]; exact h.flags_eq, h.flags_sublist,
        fun t' ht' => getElem?_step_of_done (h.stores_done t' ht'), h.stores_nodup⟩
      rcases getElem?_of_step_loaded h' with ⟨e, h'⟩ | ⟨rfl, hr, rfl⟩
      · simp only [Function.update_noteq e]
        exact h.loaded t' c' v' h'
      · cases ht.symm.trans hr
        simp only [Function.update_same]
        exact ⟨h.ready_call _ _ ht, h.flags_sublist, h.flags_eq⟩
    | loaded c v =>
      -- the store: `flags_` takes the lineage `t` loaded, then `t`
      obtain ⟨hcall, hsub, hv⟩ := h.loaded t c v ht
      have hnot : t ∉ l.stores := fun hm => by rw [h.stores_done t hm] at ht; cases ht
      have hs : s.step t = ⟨c.store v, s.threads.set t .done⟩ := by simp only [FlagSystem.step, ht]
      have hl : l.step s t = { l with flags := l.loaded t ++ [t], stores := l.stores ++ [t] } := by
        simp only [Lineage.step, ht]
      rw [hl]
      refine ⟨fun t' c' h' => h.ready_call t' c' (getElem?_of_step_ready h'), fun t' c' v' h' => ?_, ?_,
        hsub.append (List.Sublist.refl _), fun t' ht' => ?_, ?_⟩
      · rcases getElem?_of_step_loaded h' with ⟨-, h'⟩ | ⟨rfl, h', -⟩
        · obtain ⟨hc', hsub', hv'⟩ := h.loaded t' c' v' h'
          exact ⟨hc', hsub'.trans (List.sublist_append_left _ _), hv'⟩
        · cases ht.symm.trans h'
      · rw [hs, List.filterMap_append, List.filterMap_cons_some hcall, List.filterMap_nil, runSerial_concat,
          ← hv]
      · rcases List.mem_append.1 ht' with ht' | ht'
        · exact getElem?_step_of_done (h.stores_done t' ht')
        · rw [List.mem_singleton.1 ht', hs]
          exact List.getElem?_set_self (List.getElem?_eq_some_iff.1 ht).1
      · exact List.pairwise_append.2 ⟨h.stores_nodup, List.pairwise_singleton _ t,
          fun a ha b hb => by rw [List.mem_singleton.1 hb]; exact ne_of_mem_of_not_mem ha hnot⟩

theorem LineageOk.run {flags : BitVec 32} {calls : List FlagCall} {s : FlagSystem} {l : Lineage}
    (h : LineageOk flags calls s l) (schedule : List Nat) :
    LineageOk flags calls (s.run schedule) (s.runLineage l schedule) := by
  induction schedule generalizing s l with
  | nil => exact h
  | cons t schedule ih => exact ih (h.step t)

theorem lineageOk_start (flags : BitVec 32) (calls : List FlagCall) :
    LineageOk flags calls (start flags calls) .initial := by
  refine ⟨fun t c h => ?_, fun t c v h => ?_, rfl, .slnil, fun _ ht => (by cases ht), List.nodup_nil⟩ <;>
    rw [start, List.getElem?_map] at h <;> cases hc : calls[t]? <;> simp_all

/-- Under every schedule, `flags_` is the sequential fold, from its first
value, of the calls in its lineage: some of the stores made so far, in store
order, each by a call that returned, no thread storing twice. A call takes
effect whole or not at all, and never twice. -/
theorem run_flags_lineage (flags : BitVec 32) (calls : List FlagCall) (schedule : List Nat) :
    ((start flags calls).run schedule).flags =
        runSerial flags ((lineage flags calls schedule).flags.filterMap fun t => calls[t]?) ∧
      (lineage flags calls schedule).flags.Sublist (lineage flags calls schedule).stores ∧
      (lineage flags calls schedule).stores.Nodup ∧
      ∀ t ∈ (lineage flags calls schedule).stores,
        ((start flags calls).run schedule).threads[t]? = some .done :=
  let h := (lineageOk_start flags calls).run schedule
  ⟨h.flags_eq, h.flags_sublist, h.stores_nodup, h.stores_done⟩

example : (lineage 0 [.setFlags 1, .setFlags 2] [0, 1, 0, 1]).flags = [1] ∧
    (lineage 0 [.setFlags 1, .setFlags 2] [0, 1, 0, 1]).stores = [0, 1] := by
  decide

end FlagSystem

-- ---------------------------------------------------------------------------
-- FindAndRunCallback
-- ---------------------------------------------------------------------------

/-- `FindAndRunCallback(sample)`: the sample it runs the callback with, if it
runs one. `kCallbackExists` is declared outside these sources; `hasCallback`
says whether `StatisticsRecorder::FindCallback` returns a non-null callback. -/
def findAndRunCallback (kCallbackExists flags : BitVec 32) (hasCallback : Bool) (sample : Int) :
    Option Int :=
  if flags &&& kCallbackExists = 0 then none
  else if hasCallback then some sample
  else none

end BaseLib.Metrics
