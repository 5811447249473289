import BaseLib.TraceEvent.SharedGlobalDumps
import BaseLib.TraceEvent.TakeAllDumps

/-!
# The dump map, name by name

Under each name, `allocator_dumps_` follows a small machine. The first call
that creates a dump under the name puts its dump there, unless the dump's
level of detail diverts the name to the black hole; every later call for the
name keeps that dump, except that `CreateSharedGlobalAllocatorDump` clears its
`WEAK` flag. `dumpStep` is that machine and `lookup_run` proves that the
code's map runs it, name by name, along every sequence of calls from every
dump.
-/

namespace BaseLib.TraceEvent

namespace ProcessMemoryDump

section

variable {Token : Type} (col : Collaborators Token)

/-- The dump a call creates under its name when the name holds none: the one
`CreateAllocatorDump` builds with `GetDumpId(name)`, or with the given guid;
the weak shared dump has its `WEAK` flag set; `AddSuballocation` creates
nothing in a background dump. -/
def Op.createdDump (pmd : ProcessMemoryDump) : Op Token → Option MemoryAllocatorDump
  | .createAllocatorDump n | .getOrCreateAllocatorDump n => some ⟨n, pmd.getDumpId col n, false⟩
  | .createAllocatorDumpWithGuid n g => some ⟨n, g, false⟩
  | .createSharedGlobalAllocatorDump g => some ⟨getSharedGlobalAllocatorDumpName col g, g, false⟩
  | .createWeakSharedGlobalAllocatorDump g => some ⟨getSharedGlobalAllocatorDumpName col g, g, true⟩
  | .addSuballocation s n =>
    if pmd.levelOfDetail = .background then none
    else some ⟨n ++ "/__" ++ col.guidToString s, pmd.getDumpId col (n ++ "/__" ++ col.guidToString s), false⟩
  | _ => none

/-- The dump under `n` after one call, from the dump `o` under it before: a
dump there stays, its `WEAK` flag cleared by `CreateSharedGlobalAllocatorDump`;
an empty name takes the dump the call creates under it, if not diverted. -/
def dumpStep (pmd : ProcessMemoryDump) (n : String) (o : Option MemoryAllocatorDump) (op : Op Token) :
    Option MemoryAllocatorDump :=
  if op.dumpName col = some n then
    (match op with
      | .createSharedGlobalAllocatorDump _ => o.map fun d : MemoryAllocatorDump => { d with weak := false }
      | _ => o).or (if pmd.diverts col n then none else op.createdDump col pmd)
  else o

theorem dumpStep_congr {pmd pmd' : ProcessMemoryDump} (h₁ : pmd'.processToken = pmd.processToken)
    (h₂ : pmd'.levelOfDetail = pmd.levelOfDetail) : dumpStep col pmd' = dumpStep col pmd := by
  funext n o op
  simp only [dumpStep, diverts, h₂]
  cases op <;> simp only [Op.createdDump, getDumpId, h₁, h₂]

theorem lookup_step (pmd : ProcessMemoryDump) (op : Op Token) (n : String) :
    (pmd.step col op).2.allocatorDumps.lookup n = dumpStep col pmd n (pmd.allocatorDumps.lookup n) op := by
  unfold dumpStep
  split
  swap
  · exact lookup_step_of_dumpName_ne col op ‹_›
  rename_i hn
  cases op with
  | createAllocatorDump m =>
    obtain rfl : m = n := Option.some.inj hn
    exact lookup_addAllocatorDumpInternal col pmd ⟨m, pmd.getDumpId col m, false⟩
  | createAllocatorDumpWithGuid m g =>
    obtain rfl : m = n := Option.some.inj hn
    exact lookup_addAllocatorDumpInternal col pmd ⟨m, g, false⟩
  | getOrCreateAllocatorDump m =>
    obtain rfl : m = n := Option.some.inj hn
    by_cases hm : m ∈ pmd.allocatorDumps
    · obtain ⟨d, hd⟩ := Option.isSome_iff_exists.1 (AList.lookup_isSome.2 hm)
      simp only [step, getOrCreateAllocatorDump, getAllocatorDump, hm, if_true, hd]
      rfl
    · simp only [step, getOrCreateAllocatorDump, getAllocatorDump, hm, if_false]
      exact lookup_addAllocatorDumpInternal col pmd ⟨m, pmd.getDumpId col m, false⟩
  | createSharedGlobalAllocatorDump g =>
    obtain rfl : getSharedGlobalAllocatorDumpName col g = n := Option.some.inj hn
    by_cases hm : getSharedGlobalAllocatorDumpName col g ∈ pmd.allocatorDumps
    · obtain ⟨d, hd⟩ := Option.isSome_iff_exists.1 (AList.lookup_isSome.2 hm)
      simp only [step, createSharedGlobalAllocatorDump, getSharedGlobalAllocatorDump, getAllocatorDump,
        hm, if_true, ne_eq, reduceCtorEq, not_false_eq_true, lookup_modifyDump, hd]
      rfl
    · have hnone := AList.lookup_eq_none.2 hm
      have hl := lookup_addAllocatorDumpInternal col pmd ⟨getSharedGlobalAllocatorDumpName col g, g, false⟩
      dsimp only at hl
      simp only [step, createSharedGlobalAllocatorDump, getSharedGlobalAllocatorDump, getAllocatorDump,
        hm, if_false, createAllocatorDumpWithGuid, hnone, Option.map_none']
      rw [hl, hnone]
      rfl
  | createWeakSharedGlobalAllocatorDump g =>
    obtain rfl : getSharedGlobalAllocatorDumpName col g = n := Option.some.inj hn
    by_cases hm : getSharedGlobalAllocatorDumpName col g ∈ pmd.allocatorDumps
    · obtain ⟨d, hd⟩ := Option.isSome_iff_exists.1 (AList.lookup_isSome.2 hm)
      simp only [step, createWeakSharedGlobalAllocatorDump, getSharedGlobalAllocatorDump,
        getAllocatorDump, hm, if_true, ne_eq, reduceCtorEq, not_false_eq_true, hd]
      rfl
    · have hnone := AList.lookup_eq_none.2 hm
      simp only [step, createWeakSharedGlobalAllocatorDump, getSharedGlobalAllocatorDump,
        getAllocatorDump, hm, if_false, createAllocatorDumpWithGuid]
      by_cases hd : pmd.diverts col (getSharedGlobalAllocatorDumpName col g)
      · have href : (pmd.addAllocatorDumpInternal col ⟨getSharedGlobalAllocatorDumpName col g, g, false⟩).1 =
            .blackHole := by
          simp only [addAllocatorDumpInternal, hd, if_true, getBlackHoleMad]
          split <;> rfl
        have hl := lookup_addAllocatorDumpInternal col pmd ⟨getSharedGlobalAllocatorDumpName col g, g, false⟩
        rw [hnone, if_pos hd] at hl
        rw [href, hnone, if_pos hd]
        exact hl
      · have hl := lookup_addAllocatorDumpInternal col pmd ⟨getSharedGlobalAllocatorDumpName col g, g, false⟩
        rw [hnone, if_neg hd] at hl
        rw [addAllocatorDumpInternal_ref col pmd _ (Bool.eq_false_iff.2 hd), lookup_modifyDump, if_pos rfl, hl,
          hnone, if_neg hd]
        rfl
  | addSuballocation s m =>
    obtain rfl : m ++ "/__" ++ col.guidToString s = n := Option.some.inj hn
    by_cases hb : pmd.levelOfDetail = .background
    · have hpmd : (pmd.step col (.addSuballocation s m)).2 = pmd := by
        simp only [step, addSuballocation, hb, if_true]
      rw [hpmd]
      simp only [Op.createdDump, hb, if_true, ite_self, Option.or_none]
    · have hdumps : (pmd.step col (.addSuballocation s m)).2.allocatorDumps =
          (pmd.createAllocatorDump col (m ++ "/__" ++ col.guidToString s)).2.allocatorDumps := by
        simp only [step, addSuballocation, hb, if_false]
        split <;> rfl
      have hd : pmd.diverts col (m ++ "/__" ++ col.guidToString s) = false := by
        simp only [diverts, beq_false_of_ne hb, Bool.false_and]
      have hl := lookup_addAllocatorDumpInternal col pmd
        ⟨m ++ "/__" ++ col.guidToString s, pmd.getDumpId col (m ++ "/__" ++ col.guidToString s), false⟩
      dsimp only at hl
      rw [hd, if_neg Bool.false_ne_true] at hl
      rw [hdumps, createAllocatorDump, hl, hd, if_neg Bool.false_ne_true]
      simp only [Op.createdDump, hb, if_false]
  | addOwnershipEdge | addOverridableOwnershipEdge | createSharedMemoryOwnershipEdge
    | createWeakSharedMemoryOwnershipEdge => simp [Op.dumpName] at hn

/-- Along every sequence of calls, the dump under each name is the one the
machine `dumpStep` computes, name by name, from the dump there at the start. -/
theorem lookup_run (pmd : ProcessMemoryDump) (ops : List (Op Token)) (n : String) :
    (pmd.run col ops).2.allocatorDumps.lookup n =
      ops.foldl (dumpStep col pmd n) (pmd.allocatorDumps.lookup n) := by
  induction ops generalizing pmd with
  | nil => rfl
  | cons op ops ih =>
    obtain ⟨h₁, h₂⟩ := step_processToken_levelOfDetail col pmd op
    rw [List.foldl_cons, ← lookup_step, ← dumpStep_congr col h₁ h₂]
    exact ih _

end

end ProcessMemoryDump

end BaseLib.TraceEvent
