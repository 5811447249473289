import Mathlib.Data.List.Basic

/-!
# `KillProcesses`

`KillProcesses(executable_name, exit_code, filter)` walks the entries a
`NamedProcessIterator` returns, opens each process and terminates it, waiting
for it to exit. A process that does not open makes the result `false` and the
loop go on; `result &= process.Terminate(...)` makes the call whatever
`result` already is. So every process that opens is asked to terminate, in
the order of the entries, and the result is `true` exactly when every entry
opened and every `Terminate` succeeded (`killProcesses_spec`).

The iterator, which matches the executable name and applies the filter, is
outside this source: the model takes the entries it returns.
-/

namespace BaseLib.Process

abbrev ProcessId := Nat

/-- What the loop sees of the system: whether `Process::Open(pid)` gives a
valid process, and what `Terminate(exit_code, wait)` returns for it. -/
structure ProcessSystem where
  isValid : ProcessId → Bool
  terminate : ProcessId → Int → Bool → Bool

/-- The `result` local, and the `Terminate` calls made so far, oldest first. -/
structure KillState where
  result : Bool
  terminated : List (ProcessId × Int × Bool)
  deriving DecidableEq, Repr

/-- One pass of the `while` body, for the entry `pid`. -/
def killStep (sys : ProcessSystem) (exitCode : Int) (st : KillState) (pid : ProcessId) : KillState :=
  if !sys.isValid pid then { st with result := false }
  else ⟨st.result && sys.terminate pid exitCode true, st.terminated ++ [(pid, exitCode, true)]⟩

def killProcesses (sys : ProcessSystem) (entries : List ProcessId) (exitCode : Int) : KillState :=
  entries.foldl (killStep sys exitCode) ⟨true, []⟩

def killed (sys : ProcessSystem) (exitCode : Int) (pid : ProcessId) : Bool :=
  sys.isValid pid && sys.terminate pid exitCode true

theorem killStep_spec (sys : ProcessSystem) (exitCode : Int) (st : KillState) (pid : ProcessId) :
    (killStep sys exitCode st pid).terminated =
      st.terminated ++ ([pid].filter sys.isValid).map (fun pid => (pid, exitCode, true)) ∧
    (killStep sys exitCode st pid).result = (st.result && killed sys exitCode pid) := by
  unfold killStep killed
  cases h : sys.isValid pid <;> simp [List.filter, h]

theorem foldl_killStep (sys : ProcessSystem) (exitCode : Int) (entries : List ProcessId)
    (st : KillState) :
    (entries.foldl (killStep sys exitCode) st).terminated =
      st.terminated ++ (entries.filter sys.isValid).map (fun pid => (pid, exitCode, true)) ∧
    (entries.foldl (killStep sys exitCode) st).result =
      (st.result && entries.all (killed sys exitCode)) := by
  induction entries generalizing st with
  | nil => simp
  | cons pid entries ih =>
    obtain ⟨hterm, hresult⟩ := killStep_spec sys exitCode st pid
    rw [List.foldl_cons, (ih _).1, (ih _).2, hterm, hresult, List.append_assoc, ← List.map_append,
      ← List.filter_append, List.singleton_append, List.all_cons, Bool.and_assoc]
    exact ⟨rfl, rfl⟩

/-- `KillProcesses` asks every process that opens to terminate, in the order of
the entries, even after a failure; it returns `true` exactly when every entry
opened and every `Terminate` succeeded. -/
theorem killProcesses_spec (sys : ProcessSystem) (entries : List ProcessId) (exitCode : Int) :
    (killProcesses sys entries exitCode).terminated =
      (entries.filter sys.isValid).map (fun pid => (pid, exitCode, true)) ∧
    ((killProcesses sys entries exitCode).result = true ↔
      ∀ pid ∈ entries, sys.isValid pid = true ∧ sys.terminate pid exitCode true = true) := by
  obtain ⟨hterm, hresult⟩ := foldl_killStep sys exitCode entries ⟨true, []⟩
  refine ⟨hterm.trans (List.nil_append _), ?_⟩
  rw [killProcesses, hresult, Bool.true_and, List.all_eq_true]
  simp only [killed, Bool.and_eq_true]

/-- The second of three processes does not open; the third is still
terminated. -/
example : killProcesses ⟨fun pid => pid ≠ 2, fun _ _ _ => true⟩ [1, 2, 3] 9 =
    ⟨false, [(1, 9, true), (3, 9, true)]⟩ := by decide

end BaseLib.Process
