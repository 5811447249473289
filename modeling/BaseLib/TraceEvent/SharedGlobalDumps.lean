import BaseLib.TraceEvent.WellFormed

/-!
# Shared global dumps

`CreateSharedGlobalAllocatorDump(g)` and `CreateWeakSharedGlobalAllocatorDump(g)`
look for the dump named `global/<g>` and create it, with guid `g`, when it is
missing; the strong one then clears its `WEAK` flag, the weak one sets the flag
only on a dump it has just created. Seen from that one name a run moves a small
state, no dump yet or `g`'s dump with a flag (`sharedStep`), and the code
follows it call for call as long as no other call creates a dump under the name
and the name is not diverted to the black hole (`lookup_run_sharedGlobal`).

So from a dump without the name, the calls for `g` leave exactly one dump
`global/<g>`, with guid `g`; every one of them returns it, and it is weak
exactly when all of them were weak (`sharedGlobalDumps_run`).
-/

namespace BaseLib.TraceEvent

namespace ProcessMemoryDump

section

variable {Token : Type} (col : Collaborators Token)

def Op.sharedGuid : Op Token → Option MemoryAllocatorDumpGuid
  | .createSharedGlobalAllocatorDump g | .createWeakSharedGlobalAllocatorDump g => some g
  | _ => none

def Op.dumpName : Op Token → Option String
  | .createAllocatorDump n | .createAllocatorDumpWithGuid n _ | .getOrCreateAllocatorDump n => some n
  | .createSharedGlobalAllocatorDump g | .createWeakSharedGlobalAllocatorDump g =>
    some (getSharedGlobalAllocatorDumpName col g)
  | .addSuballocation s n => some (n ++ "/__" ++ col.guidToString s)
  | _ => none

/-- The dump under `global/<g>` as the calls for `g` leave it: `none` before the
first one, then its `WEAK` flag. -/
def sharedStep (g : MemoryAllocatorDumpGuid) (o : Option Bool) : Op Token → Option Bool
  | .createSharedGlobalAllocatorDump g' => if g' = g then some false else o
  | .createWeakSharedGlobalAllocatorDump g' => if g' = g then some (o.getD true) else o
  | _ => o

/-- Every call for `g` among `ops` is the weak one. -/
def AllWeak (g : MemoryAllocatorDumpGuid) (ops : List (Op Token)) : Prop :=
  ∀ op ∈ ops, op.sharedGuid = some g → op = .createWeakSharedGlobalAllocatorDump g

-- ---------------------------------------------------------------------------
-- The abstract state
-- ---------------------------------------------------------------------------

theorem sharedStep_of_ne {g : MemoryAllocatorDumpGuid} (o : Option Bool) {op : Op Token}
    (h : op.sharedGuid ≠ some g) : sharedStep g o op = o := by
  cases op <;> simp_all [sharedStep, Op.sharedGuid]

theorem sharedStep_some (g : MemoryAllocatorDumpGuid) (w : Bool) (op : Op Token) :
    ∃ w', sharedStep g (some w) op = some w' ∧
      (w' = true ↔ w = true ∧ (op.sharedGuid = some g → op = .createWeakSharedGlobalAllocatorDump g)) := by
  cases op <;> simp only [sharedStep, Op.sharedGuid] <;> try exact ⟨w, rfl, by simp⟩
  all_goals rename_i g'
  all_goals by_cases hg : g' = g <;> simp [hg]

theorem sharedStep_none {g : MemoryAllocatorDumpGuid} {op : Op Token} (h : op.sharedGuid = some g) :
    ∃ w, sharedStep g none op = some w ∧ (w = true ↔ op = .createWeakSharedGlobalAllocatorDump g) := by
  cases op <;> simp only [Op.sharedGuid, reduceCtorEq, Option.some.injEq] at h <;> subst h <;>
    simp [sharedStep]

theorem foldl_sharedStep_some (g : MemoryAllocatorDumpGuid) (ops : List (Op Token)) (w : Bool) :
    ∃ w', ops.foldl (sharedStep g) (some w) = some w' ∧ (w' = true ↔ w = true ∧ AllWeak g ops) := by
  induction ops generalizing w with
  | nil => exact ⟨w, rfl, by simp [AllWeak]⟩
  | cons op ops ih =>
    obtain ⟨w₁, h₁, hw₁⟩ := sharedStep_some g w op
    obtain ⟨w', h', hw'⟩ := ih w₁
    refine ⟨w', by rw [List.foldl_cons, h₁, h'], ?_⟩
    simp only [AllWeak, List.forall_mem_cons] at hw' ⊢
    rw [hw', hw₁, and_assoc]

theorem foldl_sharedStep_none (g : MemoryAllocatorDumpGuid) (ops : List (Op Token)) :
    (g ∉ ops.filterMap Op.sharedGuid → ops.foldl (sharedStep g) none = none) ∧
    (g ∈ ops.filterMap Op.sharedGuid →
      ∃ w, ops.foldl (sharedStep g) none = some w ∧ (w = true ↔ AllWeak g ops)) := by
  induction ops with
  | nil => simp
  | cons op ops ih =>
    by_cases hop : op.sharedGuid = some g
    · obtain ⟨w₀, h₀, hw₀⟩ := sharedStep_none hop
      obtain ⟨w, h, hw⟩ := foldl_sharedStep_some g ops w₀
      refine ⟨fun hg => absurd (List.mem_filterMap.2 ⟨op, List.mem_cons_self _ _, hop⟩) hg,
        fun _ => ⟨w, by rw [List.foldl_cons, h₀, h], ?_⟩⟩
      simp only [AllWeak, List.forall_mem_cons, hop, forall_const] at hw ⊢
      rw [hw, hw₀]
    · have hmem : g ∈ (op :: ops).filterMap Op.sharedGuid ↔ g ∈ ops.filterMap Op.sharedGuid := by
        simp only [List.mem_filterMap, List.mem_cons, or_and_right, exists_or, exists_eq_left, hop,
          false_or]
      have hall : AllWeak g (op :: ops) ↔ AllWeak g ops := by
        simp [AllWeak, hop]
      rw [hmem, hall, List.foldl_cons, sharedStep_of_ne none hop]
      exact ih

-- ---------------------------------------------------------------------------
-- The code follows it
-- ---------------------------------------------------------------------------

variable {pmd : ProcessMemoryDump}

theorem diverts_step (op : Op Token) (n : String) :
    (pmd.step col op).2.diverts col n = pmd.diverts col n := by
  simp only [diverts, step_levelOfDetail]

theorem addAllocatorDumpInternal_ref_ne (mad : MemoryAllocatorDump) {n : String}
    (h : n ≠ mad.absoluteName) : (pmd.addAllocatorDumpInternal col mad).1 ≠ .allocatorDump n := by
  unfold addAllocatorDumpInternal getBlackHoleMad
  split
  · split <;> exact MadRef.noConfusion
  · split <;> simpa using Ne.symm h

theorem lookup_step_of_dumpName_ne {n : String} (op : Op Token) (h : op.dumpName col ≠ some n) :
    (pmd.step col op).2.allocatorDumps.lookup n = pmd.allocatorDumps.lookup n := by
  cases op with
  | createAllocatorDump m | createAllocatorDumpWithGuid m =>
    exact lookup_addAllocatorDumpInternal_ne col pmd _ fun e => h (by rw [e]; rfl)
  | getOrCreateAllocatorDump m =>
    simp only [step, getOrCreateAllocatorDump]
    split
    · rfl
    · exact lookup_addAllocatorDumpInternal_ne col pmd _ fun e => h (by rw [e]; rfl)
  | createSharedGlobalAllocatorDump g =>
    have hn : n ≠ getSharedGlobalAllocatorDumpName col g := fun e => h (by rw [e]; rfl)
    by_cases hm : getSharedGlobalAllocatorDumpName col g ∈ pmd.allocatorDumps <;>
      simp only [step, createSharedGlobalAllocatorDump, getSharedGlobalAllocatorDump,
        getAllocatorDump, hm, if_true, if_false, ne_eq, reduceCtorEq, not_false_eq_true]
    · rw [lookup_modifyDump, if_neg (by simpa using Ne.symm hn)]
    · exact lookup_addAllocatorDumpInternal_ne col pmd _ hn
  | createWeakSharedGlobalAllocatorDump g =>
    have hn : n ≠ getSharedGlobalAllocatorDumpName col g := fun e => h (by rw [e]; rfl)
    by_cases hm : getSharedGlobalAllocatorDumpName col g ∈ pmd.allocatorDumps <;>
      simp only [step, createWeakSharedGlobalAllocatorDump, getSharedGlobalAllocatorDump,
        createAllocatorDumpWithGuid, getAllocatorDump, hm, if_true, if_false, ne_eq, reduceCtorEq,
        not_false_eq_true]
    rw [lookup_modifyDump,
      if_neg (addAllocatorDumpInternal_ref_ne col ⟨getSharedGlobalAllocatorDumpName col g, g, false⟩ hn)]
    exact lookup_addAllocatorDumpInternal_ne col pmd _ hn
  | addOwnershipEdge | createSharedMemoryOwnershipEdge | createWeakSharedMemoryOwnershipEdge => rfl
  | addOverridableOwnershipEdge s t i =>
    simp only [step, addOverridableOwnershipEdge]
    split <;> rfl
  | addSuballocation s m =>
    have hn : n ≠ m ++ "/__" ++ col.guidToString s := fun e => h (by rw [e]; rfl)
    simp only [step, addSuballocation]
    split
    · rfl
    · split <;> exact lookup_addAllocatorDumpInternal_ne col pmd _ hn

theorem getSharedGlobalAllocatorDumpName_inj {g g' : MemoryAllocatorDumpGuid}
    (h : getSharedGlobalAllocatorDumpName col g = getSharedGlobalAllocatorDumpName col g') :
    col.guidToString g = col.guidToString g' :=
  String.ext (List.append_cancel_left (congrArg String.data h))

theorem step_sharedGlobal {g : MemoryAllocatorDumpGuid} {N : String}
    (hN : getSharedGlobalAllocatorDumpName col g = N) (op : Op Token) (o : Option Bool)
    (hop : op.sharedGuid = some g) (hdiv : pmd.diverts col N = false)
    (h : pmd.allocatorDumps.lookup N = o.map (⟨N, g, ·⟩)) :
    (pmd.step col op).1 = some (.allocatorDump N) ∧
      (pmd.step col op).2.allocatorDumps.lookup N = (sharedStep g o op).map (⟨N, g, ·⟩) := by
  subst hN
  cases op <;> simp only [Op.sharedGuid, Option.some.injEq, reduceCtorEq] at hop
  case createSharedGlobalAllocatorDump g' =>
    subst hop
    cases o with
    | none =>
      have hm := AList.lookup_eq_none.1 h
      simp only [step, createSharedGlobalAllocatorDump, getSharedGlobalAllocatorDump, getAllocatorDump,
        hm, if_false, createAllocatorDumpWithGuid, sharedStep, if_true]
      refine ⟨congrArg some (addAllocatorDumpInternal_ref col pmd _ hdiv), ?_⟩
      rw [addAllocatorDumpInternal_allocatorDumps, if_pos ⟨hdiv, hm⟩, AList.lookup_insert]
      rfl
    | some w =>
      have hm : _ ∈ pmd.allocatorDumps := AList.lookup_isSome.1 (by rw [h]; rfl)
      simp only [step, createSharedGlobalAllocatorDump, getSharedGlobalAllocatorDump, getAllocatorDump,
        hm, if_true, ne_eq, reduceCtorEq, not_false_eq_true, sharedStep, lookup_modifyDump, h]
      exact ⟨trivial, rfl⟩
  case createWeakSharedGlobalAllocatorDump g' =>
    subst hop
    cases o with
    | none =>
      have hm := AList.lookup_eq_none.1 h
      have href := addAllocatorDumpInternal_ref col pmd ⟨getSharedGlobalAllocatorDumpName col g', g', false⟩ hdiv
      simp only [step, createWeakSharedGlobalAllocatorDump, getSharedGlobalAllocatorDump,
        getAllocatorDump, hm, if_false, createAllocatorDumpWithGuid, sharedStep, if_true, href]
      refine ⟨trivial, ?_⟩
      rw [lookup_modifyDump, if_pos rfl, addAllocatorDumpInternal_allocatorDumps, if_pos ⟨hdiv, hm⟩,
        AList.lookup_insert]
      rfl
    | some w =>
      have hm : _ ∈ pmd.allocatorDumps := AList.lookup_isSome.1 (by rw [h]; rfl)
      simp only [step, createWeakSharedGlobalAllocatorDump, getSharedGlobalAllocatorDump,
        getAllocatorDump, hm, if_true, ne_eq, reduceCtorEq, not_false_eq_true, sharedStep]
      exact ⟨trivial, h⟩

theorem run_sharedGlobal {g : MemoryAllocatorDumpGuid} {N : String}
    (hN : getSharedGlobalAllocatorDumpName col g = N) (ops : List (Op Token)) (o : Option Bool)
    (hdiv : pmd.diverts col N = false)
    (hname : ∀ op ∈ ops, op.sharedGuid ≠ some g → op.dumpName col ≠ some N)
    (h : pmd.allocatorDumps.lookup N = o.map (⟨N, g, ·⟩)) :
    (pmd.run col ops).2.allocatorDumps.lookup N = (ops.foldl (sharedStep g) o).map (⟨N, g, ·⟩) ∧
      ∀ p ∈ ops.zip (pmd.run col ops).1, p.1.sharedGuid = some g → p.2 = some (.allocatorDump N) := by
  induction ops generalizing pmd o with
  | nil => exact ⟨h, by simp⟩
  | cons op ops ih =>
    have hstep : (pmd.step col op).2.allocatorDumps.lookup N = (sharedStep g o op).map (⟨N, g, ·⟩) ∧
        (op.sharedGuid = some g → (pmd.step col op).1 = some (.allocatorDump N)) := by
      by_cases hop : op.sharedGuid = some g
      · obtain ⟨h₁, h₂⟩ := step_sharedGlobal col hN op o hop hdiv h
        exact ⟨h₂, fun _ => h₁⟩
      · rw [lookup_step_of_dumpName_ne col op (hname op (List.mem_cons_self _ _) hop),
          sharedStep_of_ne o hop]
        exact ⟨h, fun h' => absurd h' hop⟩
    obtain ⟨ih₁, ih₂⟩ := ih (sharedStep g o op) (by rwa [diverts_step])
      (fun op' h' => hname op' (List.mem_cons_of_mem _ h')) hstep.1
    refine ⟨ih₁, fun p hp hpg => ?_⟩
    simp only [run, List.zip_cons_cons, List.mem_cons] at hp
    rcases hp with rfl | hp
    · exact hstep.2 hpg
    · exact ih₂ p hp hpg

/-- From a dump without their names, the calls for each guid `g` leave one dump
`global/<g>`, with guid `g`, return it every time, and leave it weak exactly
when all of them are weak, whatever other dumps are created around them. -/
theorem sharedGlobalDumps_run (pmd : ProcessMemoryDump) (ops : List (Op Token))
    (hkeyed : pmd.DumpsKeyed)
    (hinj : ∀ g ∈ ops.filterMap Op.sharedGuid, ∀ g' ∈ ops.filterMap Op.sharedGuid,
      col.guidToString g = col.guidToString g' → g = g')
    (hdiv : ∀ g ∈ ops.filterMap Op.sharedGuid,
      pmd.diverts col (getSharedGlobalAllocatorDumpName col g) = false)
    (hfresh : ∀ g ∈ ops.filterMap Op.sharedGuid,
      getSharedGlobalAllocatorDumpName col g ∉ pmd.allocatorDumps)
    (hother : ∀ op ∈ ops, op.sharedGuid = none → ∀ g ∈ ops.filterMap Op.sharedGuid,
      op.dumpName col ≠ some (getSharedGlobalAllocatorDumpName col g))
    (g : MemoryAllocatorDumpGuid) (hg : g ∈ ops.filterMap Op.sharedGuid) :
    ∃ mad, (pmd.run col ops).2.allocatorDumps.lookup (getSharedGlobalAllocatorDumpName col g) =
        some mad ∧
      mad.absoluteName = getSharedGlobalAllocatorDumpName col g ∧ mad.guid = g ∧
      (∀ n d, (pmd.run col ops).2.allocatorDumps.lookup n = some d →
        d.absoluteName = getSharedGlobalAllocatorDumpName col g → d = mad) ∧
      (∀ p ∈ ops.zip (pmd.run col ops).1, p.1.sharedGuid = some g →
        p.2 = some (.allocatorDump (getSharedGlobalAllocatorDumpName col g))) ∧
      (mad.weak = true ↔ AllWeak g ops) := by
  have hname : ∀ op ∈ ops, op.sharedGuid ≠ some g →
      op.dumpName col ≠ some (getSharedGlobalAllocatorDumpName col g) := by
    intro op hop hne
    cases hs : op.sharedGuid with
    | none => exact hother op hop hs g hg
    | some g' =>
      have hg' := hinj g' (List.mem_filterMap.2 ⟨op, hop, hs⟩) g hg
      cases op <;> simp only [Op.sharedGuid, Option.some.injEq, reduceCtorEq] at hs <;> subst hs <;>
        exact fun e => hne (congrArg some (hg' (getSharedGlobalAllocatorDumpName_inj col
          (Option.some.inj e))))
  obtain ⟨hlook, hrefs⟩ := run_sharedGlobal col rfl ops none (hdiv g hg) hname
    (by rw [AList.lookup_eq_none.2 (hfresh g hg)]; rfl)
  obtain ⟨w, hw, hweak⟩ := (foldl_sharedStep_none g ops).2 hg
  rw [hw] at hlook
  refine ⟨_, hlook, rfl, rfl, fun n d hd hn => ?_, hrefs, hweak⟩
  obtain rfl : n = _ := ((hkeyed.run col ops) n d hd).symm.trans hn
  exact Option.some.inj (hd.symm.trans hlook)

end

/-- Weak, strong and weak again for guid `1`, around another dump and a weak
call for guid `2`. -/
def sampleSharedOps : List (Op Nat) :=
  [.createWeakSharedGlobalAllocatorDump ⟨1⟩, .createAllocatorDump "malloc",
    .createSharedGlobalAllocatorDump ⟨1⟩, .createWeakSharedGlobalAllocatorDump ⟨1⟩,
    .createWeakSharedGlobalAllocatorDump ⟨2⟩]

theorem sharedGlobalDumps_run_sample :
    ∃ mad, ((new "p" .detailed).run sampleCollaborators sampleSharedOps).2.allocatorDumps.lookup
          (getSharedGlobalAllocatorDumpName sampleCollaborators ⟨1⟩) = some mad ∧
      mad.absoluteName = getSharedGlobalAllocatorDumpName sampleCollaborators ⟨1⟩ ∧ mad.guid = ⟨1⟩ ∧
      (∀ n d, ((new "p" .detailed).run sampleCollaborators sampleSharedOps).2.allocatorDumps.lookup n =
          some d → d.absoluteName = getSharedGlobalAllocatorDumpName sampleCollaborators ⟨1⟩ → d = mad) ∧
      (∀ p ∈ sampleSharedOps.zip ((new "p" .detailed).run sampleCollaborators sampleSharedOps).1,
        p.1.sharedGuid = some ⟨1⟩ →
          p.2 = some (.allocatorDump (getSharedGlobalAllocatorDumpName sampleCollaborators ⟨1⟩))) ∧
      (mad.weak = true ↔ AllWeak ⟨1⟩ sampleSharedOps) :=
  sharedGlobalDumps_run sampleCollaborators _ _ (wellFormed_of_empty rfl rfl).dumpsKeyed
    (by decide) (by decide) (by decide) (by decide) ⟨1⟩ (by decide)

end ProcessMemoryDump

end BaseLib.TraceEvent
