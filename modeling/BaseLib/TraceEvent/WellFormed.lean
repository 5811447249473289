import BaseLib.TraceEvent.ProcessMemoryDump

/-!
# Reachable dumps are well formed

`allocator_dumps_` is filled only through `AddAllocatorDumpInternal`, which
keys each dump by its own absolute name, and `allocator_dumps_edges_` only
with `allocator_dumps_edges_[edge.source] = edge` or an `emplace` of the same
shape. So in every dump reachable from the constructor by the calls below, each
dump sits under its name and each edge under its source (`WellFormed`); the
flags a call changes through a `MemoryAllocatorDump*` never touch the name.
-/

namespace BaseLib.TraceEvent

namespace ProcessMemoryDump

def DumpsKeyed (pmd : ProcessMemoryDump) : Prop :=
  ∀ n mad, pmd.allocatorDumps.lookup n = some mad → mad.absoluteName = n

def EdgesKeyed (pmd : ProcessMemoryDump) : Prop :=
  ∀ s e, pmd.allocatorDumpsEdges.lookup s = some e → e.source = s

structure WellFormed (pmd : ProcessMemoryDump) : Prop where
  dumpsKeyed : pmd.DumpsKeyed
  edgesKeyed : pmd.EdgesKeyed

section

variable {Token : Type} (col : Collaborators Token) {pmd : ProcessMemoryDump}

theorem DumpsKeyed.of_eq {pmd' : ProcessMemoryDump} (h : pmd.DumpsKeyed)
    (he : pmd'.allocatorDumps = pmd.allocatorDumps) : pmd'.DumpsKeyed := by
  rw [DumpsKeyed, he]
  exact h

theorem EdgesKeyed.of_eq {pmd' : ProcessMemoryDump} (h : pmd.EdgesKeyed)
    (he : pmd'.allocatorDumpsEdges = pmd.allocatorDumpsEdges) : pmd'.EdgesKeyed := by
  rw [EdgesKeyed, he]
  exact h

-- ---------------------------------------------------------------------------
-- Dumps
-- ---------------------------------------------------------------------------

theorem DumpsKeyed.addAllocatorDumpInternal (h : pmd.DumpsKeyed) (mad : MemoryAllocatorDump) :
    (pmd.addAllocatorDumpInternal col mad).2.DumpsKeyed := by
  intro n d hd
  rw [addAllocatorDumpInternal_allocatorDumps] at hd
  split at hd
  · by_cases hn : n = mad.absoluteName
    · subst hn
      rw [AList.lookup_insert] at hd
      cases hd
      rfl
    · exact h n d (by rwa [AList.lookup_insert_ne hn] at hd)
  · exact h n d hd

theorem DumpsKeyed.modifyDump (h : pmd.DumpsKeyed) (f : MemoryAllocatorDump → MemoryAllocatorDump)
    (hf : ∀ d, (f d).absoluteName = d.absoluteName) (ref : MadRef) :
    (pmd.modifyDump f ref).DumpsKeyed := by
  intro n d hd
  rw [lookup_modifyDump] at hd
  split at hd
  · obtain ⟨d₀, hd₀, rfl⟩ := Option.map_eq_some'.1 hd
    rw [hf]
    exact h n d₀ hd₀
  · exact h n d hd

theorem DumpsKeyed.createSharedGlobalAllocatorDump (h : pmd.DumpsKeyed)
    (g : MemoryAllocatorDumpGuid) : (pmd.createSharedGlobalAllocatorDump col g).2.DumpsKeyed := by
  unfold ProcessMemoryDump.createSharedGlobalAllocatorDump
  split
  · split
    · exact h.modifyDump (fun d => { d with weak := false }) (fun _ => rfl) _
    · exact h.addAllocatorDumpInternal col _
  · exact h.addAllocatorDumpInternal col _

theorem DumpsKeyed.createWeakSharedGlobalAllocatorDump (h : pmd.DumpsKeyed)
    (g : MemoryAllocatorDumpGuid) :
    (pmd.createWeakSharedGlobalAllocatorDump col g).2.DumpsKeyed := by
  have hw := (h.addAllocatorDumpInternal col
    ⟨getSharedGlobalAllocatorDumpName col g, g, false⟩).modifyDump (fun d => { d with weak := true })
      (fun _ => rfl) (pmd.createAllocatorDumpWithGuid col (getSharedGlobalAllocatorDumpName col g) g).1
  unfold ProcessMemoryDump.createWeakSharedGlobalAllocatorDump
  split
  · split
    · exact h
    · exact hw
  · exact hw

theorem DumpsKeyed.step (h : pmd.DumpsKeyed) (op : Op Token) : (pmd.step col op).2.DumpsKeyed := by
  cases op with
  | createAllocatorDump | createAllocatorDumpWithGuid => exact h.addAllocatorDumpInternal col _
  | getOrCreateAllocatorDump n =>
    simp only [ProcessMemoryDump.step, getOrCreateAllocatorDump]
    split
    · exact h
    · exact h.addAllocatorDumpInternal col _
  | createSharedGlobalAllocatorDump g => exact h.createSharedGlobalAllocatorDump col g
  | createWeakSharedGlobalAllocatorDump g => exact h.createWeakSharedGlobalAllocatorDump col g
  | addOwnershipEdge | createSharedMemoryOwnershipEdge | createWeakSharedMemoryOwnershipEdge =>
    exact h
  | addOverridableOwnershipEdge s t i =>
    simp only [ProcessMemoryDump.step, ProcessMemoryDump.addOverridableOwnershipEdge]
    split <;> exact h
  | addSuballocation s n =>
    simp only [ProcessMemoryDump.step, addSuballocation]
    split
    · exact h
    · split <;> exact (h.addAllocatorDumpInternal col _).of_eq rfl

theorem DumpsKeyed.run (h : pmd.DumpsKeyed) (ops : List (Op Token)) : (pmd.run col ops).2.DumpsKeyed := by
  induction ops generalizing pmd with
  | nil => exact h
  | cons op ops ih => exact ih (h.step col op)

-- ---------------------------------------------------------------------------
-- Edges
-- ---------------------------------------------------------------------------

theorem EdgesKeyed.addOwnershipEdge (h : pmd.EdgesKeyed) (s t : MemoryAllocatorDumpGuid) (i : Int) :
    (pmd.addOwnershipEdge s t i).EdgesKeyed := by
  intro s' e he
  by_cases hs : s' = s
  · subst hs
    simp only [ProcessMemoryDump.addOwnershipEdge, AList.lookup_insert, Option.some.injEq] at he
    rw [← he]
  · exact h s' e (by rwa [ProcessMemoryDump.addOwnershipEdge, AList.lookup_insert_ne hs] at he)

theorem EdgesKeyed.addOverridableOwnershipEdge (h : pmd.EdgesKeyed) (s t : MemoryAllocatorDumpGuid)
    (i : Int) : (pmd.addOverridableOwnershipEdge s t i).EdgesKeyed := by
  intro s' e he
  unfold ProcessMemoryDump.addOverridableOwnershipEdge at he
  split at he
  · by_cases hs : s' = s
    · subst hs
      simp only [AList.lookup_insert, Option.some.injEq] at he
      rw [← he]
    · exact h s' e (by rwa [AList.lookup_insert_ne hs] at he)
  · exact h s' e he

theorem EdgesKeyed.step (h : pmd.EdgesKeyed) (op : Op Token) : (pmd.step col op).2.EdgesKeyed := by
  cases op with
  | createAllocatorDump n => exact h.of_eq (createAllocatorDump_frame col pmd n).allocatorDumpsEdges
  | createAllocatorDumpWithGuid n g =>
    exact h.of_eq (createAllocatorDumpWithGuid_frame col pmd n g).allocatorDumpsEdges
  | getOrCreateAllocatorDump n =>
    exact h.of_eq (getOrCreateAllocatorDump_frame col pmd n).allocatorDumpsEdges
  | createSharedGlobalAllocatorDump g =>
    exact h.of_eq (createSharedGlobalAllocatorDump_frame col pmd g).allocatorDumpsEdges
  | createWeakSharedGlobalAllocatorDump g =>
    exact h.of_eq (createWeakSharedGlobalAllocatorDump_frame col pmd g).allocatorDumpsEdges
  | addOwnershipEdge s t i => exact h.addOwnershipEdge s t i
  | addOverridableOwnershipEdge s t i => exact h.addOverridableOwnershipEdge s t i
  | createSharedMemoryOwnershipEdge | createWeakSharedMemoryOwnershipEdge =>
    exact (h.addOwnershipEdge _ _ _).addOwnershipEdge _ _ _
  | addSuballocation s n =>
    have hf := createAllocatorDump_frame col pmd (n ++ "/__" ++ col.guidToString s)
    simp only [ProcessMemoryDump.step, addSuballocation]
    split
    · exact h
    · split
      · exact (h.of_eq hf.allocatorDumpsEdges).addOwnershipEdge _ _ _
      · exact h.of_eq hf.allocatorDumpsEdges

theorem EdgesKeyed.union {other : ProcessMemoryDump} (h : pmd.EdgesKeyed) (ho : other.EdgesKeyed) :
    ∀ s e, (pmd.allocatorDumpsEdges ∪ other.allocatorDumpsEdges).lookup s = some e → e.source = s :=
  fun s e he => (AList.lookup_union_eq_some.1 he).elim (h s e) fun ⟨_, he⟩ => ho s e he

-- ---------------------------------------------------------------------------
-- Every reachable dump
-- ---------------------------------------------------------------------------

theorem WellFormed.step (h : pmd.WellFormed) (op : Op Token) : (pmd.step col op).2.WellFormed :=
  ⟨h.dumpsKeyed.step col op, h.edgesKeyed.step col op⟩

theorem WellFormed.run (h : pmd.WellFormed) (ops : List (Op Token)) : (pmd.run col ops).2.WellFormed := by
  induction ops generalizing pmd with
  | nil => exact h
  | cons op ops ih => exact ih (h.step col op)

theorem WellFormed.foldl_addAllocatorDumpInternal {α : Type} (h : pmd.WellFormed) (l : List α)
    (f : α → MemoryAllocatorDump) :
    (l.foldl (fun pmd a => (pmd.addAllocatorDumpInternal col (f a)).2) pmd).WellFormed := by
  induction l generalizing pmd with
  | nil => exact h
  | cons a l ih =>
    exact ih ⟨h.dumpsKeyed.addAllocatorDumpInternal col (f a),
      h.edgesKeyed.of_eq (addAllocatorDumpInternal_frame col pmd (f a)).allocatorDumpsEdges⟩

theorem wellFormed_of_empty {pmd : ProcessMemoryDump} (hd : pmd.allocatorDumps = ∅)
    (he : pmd.allocatorDumpsEdges = ∅) : pmd.WellFormed :=
  ⟨fun n mad h => by simp [hd, AList.lookup_empty] at h,
    fun s e h => by simp [he, AList.lookup_empty] at h⟩

theorem WellFormed.takeAllDumpsFrom {other : ProcessMemoryDump} (h : pmd.WellFormed)
    (ho : other.WellFormed) :
    (pmd.takeAllDumpsFrom col other).1.WellFormed ∧ (pmd.takeAllDumpsFrom col other).2.WellFormed := by
  have hm := h.foldl_addAllocatorDumpInternal col other.allocatorDumps.entries Sigma.snd
  exact ⟨⟨hm.dumpsKeyed, hm.edgesKeyed.union ho.edgesKeyed⟩, wellFormed_of_empty rfl rfl⟩

theorem WellFormed.setAllEdgesForSerialization (h : pmd.WellFormed)
    (edges : List MemoryAllocatorDumpEdge) : (pmd.setAllEdgesForSerialization edges).WellFormed := by
  induction edges generalizing pmd with
  | nil => exact h
  | cons edge edges ih =>
    refine ih ?_
    show (if edge.source ∈ pmd.allocatorDumpsEdges then pmd else _).WellFormed
    split
    · exact h
    · refine ⟨h.dumpsKeyed, fun s e he => ?_⟩
      by_cases hs : s = edge.source
      · subst hs
        simp only [AList.lookup_insert, Option.some.injEq] at he
        rw [← he]
      · exact h.edgesKeyed s e (by rwa [AList.lookup_insert_ne hs] at he)

/-- The dumps that the constructor and the calls of the class reach. -/
inductive Reachable : ProcessMemoryDump → Prop
  | new (processToken : String) (levelOfDetail : MemoryDumpLevelOfDetail) :
      Reachable (ProcessMemoryDump.new processToken levelOfDetail)
  | step {pmd : ProcessMemoryDump} (op : Op Token) : Reachable pmd → Reachable (pmd.step col op).2
  | clear {pmd : ProcessMemoryDump} : Reachable pmd → Reachable pmd.clear
  | takeAllDumpsFrom {pmd other : ProcessMemoryDump} :
      Reachable pmd → Reachable other → Reachable (pmd.takeAllDumpsFrom col other).1
  | takenFrom {pmd other : ProcessMemoryDump} :
      Reachable pmd → Reachable other → Reachable (pmd.takeAllDumpsFrom col other).2
  | setAllocatorDumpsForSerialization {pmd : ProcessMemoryDump} (dumps : List MemoryAllocatorDump) :
      Reachable pmd → Reachable (pmd.setAllocatorDumpsForSerialization col dumps)
  | setAllEdgesForSerialization {pmd : ProcessMemoryDump} (edges : List MemoryAllocatorDumpEdge) :
      Reachable pmd → Reachable (pmd.setAllEdgesForSerialization edges)

/-- In every reachable dump each dump sits under its name and each edge under
its source. -/
theorem Reachable.wellFormed (h : Reachable col pmd) : pmd.WellFormed := by
  induction h with
  | new => exact wellFormed_of_empty rfl rfl
  | step op _ ih => exact ih.step col op
  | clear _ _ => exact wellFormed_of_empty rfl rfl
  | takeAllDumpsFrom _ _ ih ih' => exact (ih.takeAllDumpsFrom col ih').1
  | takenFrom _ _ ih ih' => exact (ih.takeAllDumpsFrom col ih').2
  | setAllocatorDumpsForSerialization dumps _ ih => exact ih.foldl_addAllocatorDumpInternal col dumps id
  | setAllEdgesForSerialization edges _ ih => exact ih.setAllEdgesForSerialization edges

end

theorem takeAllDumpsFrom_sample_wellFormed :
    ((new "a" .detailed).takeAllDumpsFrom sampleCollaborators
      ((new "b" .light).step sampleCollaborators (.createAllocatorDump "malloc")).2).1.WellFormed :=
  Reachable.wellFormed sampleCollaborators (.takeAllDumpsFrom (.new _ _) (.step _ (.new _ _)))

end ProcessMemoryDump

end BaseLib.TraceEvent
