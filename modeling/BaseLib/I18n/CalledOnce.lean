import BaseLib.I18n.IcuUtil

/-!
# `InitializeICU` with DCHECKs on

A build with `DCHECK_IS_ON()` adds two globals to `icu_util.cpp`:
`g_check_called_once`, set at start, and `g_called_once`, clear at start.
`InitializeICU` and `InitializeICUFromRawMemory` (outside a component build)
first check `!g_check_called_once || !g_called_once`, and end the process
when that fails, then set `g_called_once`;
`AllowMultipleInitializeCallsForTesting` (outside NaCl) clears
`g_check_called_once` for good.

Over every sequence of calls the build with DCHECKs is the build without
them, reply for reply and state for state, as long as at most one of the two
initializers comes before the first `AllowMultipleInitializeCallsForTesting`
(`runDebug_eq_run`). A second one before it ends the process, with the
globals the calls before it left (`runDebug_second_initialize`).
-/

namespace BaseLib.I18n

/-- `g_check_called_once` and `g_called_once`. -/
structure CalledOnce where
  checkCalledOnce : Bool
  calledOnce : Bool
  deriving DecidableEq, Repr

def CalledOnce.initial : CalledOnce := ⟨true, false⟩

/-- A call in a build with DCHECKs on: an entry point, or
`AllowMultipleInitializeCallsForTesting`. -/
inductive DebugCall
  | call (c : IcuCall)
  | allowMultipleInitializeCallsForTesting

namespace DebugCall

/-- `InitializeICU` and `InitializeICUFromRawMemory`, the calls that begin
with the DCHECK. -/
def isInitialize : DebugCall → Bool
  | .call (.initializeICU _) => true
  | .call (.initializeICUFromRawMemory _ _) => true
  | _ => false

def isAllow : DebugCall → Bool
  | .allowMultipleInitializeCallsForTesting => true
  | _ => false

end DebugCall

def releaseCalls : List DebugCall → List IcuCall
  | [] => []
  | .call c :: cs => c :: releaseCalls cs
  | .allowMultipleInitializeCallsForTesting :: cs => releaseCalls cs

/-- `DCHECK(!g_check_called_once || !g_called_once); g_called_once = true;` -/
def checkCalledOnce (d : CalledOnce) : Option CalledOnce :=
  if !d.checkCalledOnce || !d.calledOnce then some { d with calledOnce := true } else none

/-- An entry point that begins with the DCHECK. -/
def checkedCall (d : CalledOnce) (g : IcuGlobals) (c : IcuCall) :
    Except IcuGlobals (List IcuReply × CalledOnce × IcuGlobals) :=
  match checkCalledOnce d with
  | some d => (call g c).map fun r => ([r.1], d, r.2)
  | none => .error g

def debugCall (d : CalledOnce) (g : IcuGlobals) :
    DebugCall → Except IcuGlobals (List IcuReply × CalledOnce × IcuGlobals)
  | .call (.initializeICU env) => checkedCall d g (.initializeICU env)
  | .call (.initializeICUFromRawMemory env raw) => checkedCall d g (.initializeICUFromRawMemory env raw)
  | .call .getRawIcuMemory => (call g .getRawIcuMemory).map fun r => ([r.1], d, r.2)
  | .allowMultipleInitializeCallsForTesting => .ok ([], { d with checkCalledOnce := false }, g)

def runDebug (d : CalledOnce) (g : IcuGlobals) :
    List DebugCall → Except IcuGlobals (List IcuReply × CalledOnce × IcuGlobals)
  | [] => .ok ([], d, g)
  | c :: cs => do
    let (rs, d, g) ← debugCall d g c
    let (rs', d, g) ← runDebug d g cs
    pure (rs ++ rs', d, g)

/-- The DCHECK globals after calls that all pass the check:
`g_check_called_once` is clear once `AllowMultipleInitializeCallsForTesting`
ran, and `g_called_once` set once an initializer ran. -/
def CalledOnce.after (d : CalledOnce) (cs : List DebugCall) : CalledOnce :=
  ⟨d.checkCalledOnce && !cs.any (·.isAllow), d.calledOnce || cs.any (·.isInitialize)⟩

/-- Every initializer of `cs` passes the check from `d`: the check is off,
or at most one initializer, counting one already made, comes before the
first `AllowMultipleInitializeCallsForTesting`. -/
def Passes (d : CalledOnce) (cs : List DebugCall) : Prop :=
  d.checkCalledOnce = false ∨
    ((cs.takeWhile fun c => !c.isAllow).filter (·.isInitialize)).length + d.calledOnce.toNat ≤ 1

theorem debugCall_call (d : CalledOnce) (g : IcuGlobals) (c : IcuCall) :
    debugCall d g (.call c) =
      if (DebugCall.call c).isInitialize then checkedCall d g c
      else (call g c).map fun r => ([r.1], d, r.2) := by
  cases c <;> rfl

theorem CalledOnce.after_call (d : CalledOnce) (c : IcuCall) (cs : List DebugCall) :
    d.after (.call c :: cs) =
      { d with calledOnce := d.calledOnce || (DebugCall.call c).isInitialize }.after cs := by
  simp only [CalledOnce.after, List.any_cons, DebugCall.isAllow, Bool.false_or, Bool.or_assoc]

-- ---------------------------------------------------------------------------
-- Runs
-- ---------------------------------------------------------------------------

theorem runDebug_cons_call {d d' : CalledOnce} {g : IcuGlobals} {c : IcuCall} {cs : List DebugCall}
    (hd : debugCall d g (.call c) = (call g c).map fun r => ([r.1], d', r.2))
    (hcs : ∀ g', runDebug d' g' cs = (run g' (releaseCalls cs)).map fun r => (r.1, d'.after cs, r.2)) :
    runDebug d g (.call c :: cs) = (run g (c :: releaseCalls cs)).map fun r => (r.1, d'.after cs, r.2) := by
  simp only [runDebug, hd, run]
  cases call g c with
  | error e => rfl
  | ok p =>
    cases hr : run p.2 (releaseCalls cs) <;>
      simp only [Except.map, bind, Except.bind, pure, Except.pure, hcs, hr, List.singleton_append]

theorem length_filter_takeWhile_call (c : IcuCall) (cs : List DebugCall) :
    (((DebugCall.call c :: cs).takeWhile fun c => !c.isAllow).filter (·.isInitialize)).length =
      ((cs.takeWhile fun c => !c.isAllow).filter (·.isInitialize)).length +
        (DebugCall.call c).isInitialize.toNat := by
  rw [List.takeWhile_cons_of_pos rfl, List.filter_cons]
  cases (DebugCall.call c).isInitialize <;> rfl

theorem passes_call_iff (d : CalledOnce) (c : IcuCall) (cs : List DebugCall) :
    Passes d (.call c :: cs) ↔ d.checkCalledOnce = false ∨
      ((cs.takeWhile fun c => !c.isAllow).filter (·.isInitialize)).length +
        (DebugCall.call c).isInitialize.toNat + d.calledOnce.toNat ≤ 1 := by
  rw [Passes, length_filter_takeWhile_call]

theorem runDebug_eq (d : CalledOnce) (g : IcuGlobals) (cs : List DebugCall) (h : Passes d cs) :
    runDebug d g cs = (run g (releaseCalls cs)).map fun r => (r.1, d.after cs, r.2) := by
  induction cs generalizing d g with
  | nil => cases d; simp [runDebug, run, releaseCalls, CalledOnce.after, Except.map]
  | cons c cs ih =>
    cases c with
    | allowMultipleInitializeCallsForTesting =>
      have hcs := ih { d with checkCalledOnce := false } g (.inl rfl)
      simp only [runDebug, debugCall, releaseCalls]
      cases hr : run g (releaseCalls cs) <;>
        simp [Except.map, bind, Except.bind, pure, Except.pure, CalledOnce.after, DebugCall.isAllow,
          DebugCall.isInitialize, hcs, hr]
    | call c =>
      rw [passes_call_iff] at h
      cases hc : (DebugCall.call c).isInitialize with
      | false =>
        have hd : debugCall d g (.call c) = (call g c).map fun r => ([r.1], d, r.2) := by
          rw [debugCall_call, hc]; rfl
        rw [runDebug_cons_call hd fun g' => ih d g' (by simpa [Passes, hc] using h), CalledOnce.after_call,
          hc, Bool.or_false]
        rfl
      | true =>
        -- the check passes and sets `g_called_once`
        have hcheck : (!d.checkCalledOnce || !d.calledOnce) = true := by
          rcases h with h | h
          · simp [h]
          · cases hd : d.calledOnce
            · simp
            · rw [hc, hd, Bool.toNat_true] at h; omega
        have hd : debugCall d g (.call c) =
            (call g c).map fun r => ([r.1], { d with calledOnce := true }, r.2) := by
          rw [debugCall_call, hc, if_pos rfl, checkedCall, checkCalledOnce, if_pos hcheck]
        have hpass : Passes { d with calledOnce := true } cs := by
          rcases h with h | h
          · exact .inl h
          · rw [hc, Bool.toNat_true] at h
            exact .inr (by rw [Bool.toNat_true]; omega)
        rw [runDebug_cons_call hd fun g' => ih _ g' hpass, CalledOnce.after_call, hc, Bool.or_true]
        rfl

theorem runDebug_append (d : CalledOnce) (g : IcuGlobals) (xs ys : List DebugCall) :
    runDebug d g (xs ++ ys) =
      (runDebug d g xs).bind fun r => (runDebug r.2.1 r.2.2 ys).map fun r' => (r.1 ++ r'.1, r'.2) := by
  induction xs generalizing d g with
  | nil =>
    show runDebug d g ys = Except.map _ (runDebug d g ys)
    cases runDebug d g ys <;> rfl
  | cons c xs ih =>
    rw [List.cons_append, runDebug.eq_2, runDebug.eq_2]
    cases debugCall d g c with
    | error e => rfl
    | ok p =>
      show runDebug p.2.1 p.2.2 (xs ++ ys) >>= _ = (runDebug p.2.1 p.2.2 xs >>= _).bind _
      rw [ih]
      cases runDebug p.2.1 p.2.2 xs with
      | error e => rfl
      | ok q =>
        show Except.map _ (runDebug q.2.1 q.2.2 ys) >>= _ = Except.map _ _
        cases runDebug q.2.1 q.2.2 ys with
        | error e => rfl
        | ok q' => simp only [Except.map, bind, Except.bind, pure, Except.pure, List.append_assoc]

/-- Over every sequence of calls with at most one initializer before the
first `AllowMultipleInitializeCallsForTesting`, the build with DCHECKs returns
what the build without them returns, ends the process where it does, with the
same globals, and leaves `g_check_called_once` set exactly when no
`AllowMultipleInitializeCallsForTesting` ran and `g_called_once` set exactly
when an initializer ran. -/
theorem runDebug_eq_run (g : IcuGlobals) (cs : List DebugCall)
    (h : ((cs.takeWhile fun c => !c.isAllow).filter (·.isInitialize)).length ≤ 1) :
    runDebug CalledOnce.initial g cs =
      (run g (releaseCalls cs)).map fun r =>
        (r.1, ⟨!cs.any (·.isAllow), cs.any (·.isInitialize)⟩, r.2) :=
  runDebug_eq _ g cs (.inr h)

def sampleDebugCalls : List DebugCall :=
  [.call (.initializeICU sampleIcuEnv), .allowMultipleInitializeCallsForTesting,
    .call (.initializeICUFromRawMemory sampleIcuEnv 8192)]

theorem runDebug_eq_run_sample :
    ((sampleDebugCalls.takeWhile fun c => !c.isAllow).filter (·.isInitialize)).length ≤ 1 ∧
      runDebug CalledOnce.initial IcuGlobals.initial sampleDebugCalls =
        (run IcuGlobals.initial (releaseCalls sampleDebugCalls)).map fun r =>
          (r.1, ⟨!sampleDebugCalls.any (·.isAllow), sampleDebugCalls.any (·.isInitialize)⟩, r.2) :=
  ⟨by decide, runDebug_eq_run IcuGlobals.initial _ (by decide)⟩

/-- With DCHECKs on, a second initializer before any
`AllowMultipleInitializeCallsForTesting` ends the process: with the globals
the calls before it left, or where one of them ended it already. -/
theorem runDebug_second_initialize (g : IcuGlobals) (pre post : List DebugCall) (c : IcuCall)
    (hc : (DebugCall.call c).isInitialize = true) (hallow : pre.any (·.isAllow) = false)
    (hinit : (pre.filter (·.isInitialize)).length = 1) :
    runDebug CalledOnce.initial g (pre ++ .call c :: post) =
      (run g (releaseCalls pre)).bind fun r => .error r.2 := by
  have htake : (pre.takeWhile fun c => !c.isAllow) = pre :=
    List.takeWhile_eq_self_iff.2 fun c hc => by
      simpa using List.any_eq_false.1 hallow c hc
  have hany : pre.any (·.isInitialize) = true := by
    by_contra hn
    rw [Bool.not_eq_true, List.any_eq_false] at hn
    rw [List.filter_eq_nil_iff.2 hn] at hinit
    cases hinit
  rw [runDebug_append, runDebug_eq _ g pre (.inr (by rw [htake, hinit]; rfl))]
  cases run g (releaseCalls pre) with
  | error e => rfl
  | ok q =>
    simp only [Except.map, Except.bind, CalledOnce.after, CalledOnce.initial, hallow, hany, runDebug,
      debugCall_call, hc, checkedCall, checkCalledOnce]
    rfl

def firstInitialize : List DebugCall := [.call (.initializeICU sampleIcuEnv)]

/-- `InitializeICU`, then `InitializeICUFromRawMemory`, from program start. -/
theorem runDebug_initialize_twice :
    ((DebugCall.call (.initializeICUFromRawMemory sampleIcuEnv 8192)).isInitialize = true ∧
        firstInitialize.any (·.isAllow) = false ∧ (firstInitialize.filter (·.isInitialize)).length = 1) ∧
      runDebug CalledOnce.initial IcuGlobals.initial
          (firstInitialize ++ [.call (.initializeICUFromRawMemory sampleIcuEnv 8192)]) =
        (run IcuGlobals.initial (releaseCalls firstInitialize)).bind fun r => .error r.2 :=
  ⟨⟨rfl, rfl, rfl⟩, runDebug_second_initialize IcuGlobals.initial _ [] _ rfl rfl rfl⟩

end BaseLib.I18n
