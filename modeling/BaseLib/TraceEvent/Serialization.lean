import BaseLib.TraceEvent.TakeAllDumps

/-!
# Serialisation round trip

`GetAllEdgesForSerialization` lists the edges of the map, and
`SetAllEdgesForSerialization` emplaces each under its source, the first edge of
a source winning over the later ones and over the edge already there. Read back
into a dump with no edges, the edges of a dump that keys them by source give
the same map, and no `emplace` finds its source taken. `SetAllocatorDumpsForSerialization`
hands each dump to `AddAllocatorDumpInternal`; read into an empty dump that
diverts none of the names, the dumps of a keyed map give the same map
(`serialization_roundTrip`).
-/

namespace BaseLib.TraceEvent

namespace ProcessMemoryDump

-- --------------------------------------------------------------------------
-- The maps in key order

theorem dumpsInKeyOrder_perm (pmd : ProcessMemoryDump) :
    pmd.dumpsInKeyOrder.Perm pmd.allocatorDumps.entries :=
  List.perm_insertionSort _ _

theorem edgesInKeyOrder_perm (pmd : ProcessMemoryDump) :
    pmd.edgesInKeyOrder.Perm pmd.allocatorDumpsEdges.entries :=
  List.perm_insertionSort _ _

theorem dlookup_dumpsInKeyOrder (pmd : ProcessMemoryDump) (n : String) :
    pmd.dumpsInKeyOrder.dlookup n = pmd.allocatorDumps.lookup n :=
  List.perm_dlookup n (((dumpsInKeyOrder_perm pmd).map Sigma.fst).nodup_iff.2 pmd.allocatorDumps.nodupKeys)
    pmd.allocatorDumps.nodupKeys (dumpsInKeyOrder_perm pmd)

theorem dlookup_edgesInKeyOrder (pmd : ProcessMemoryDump) (s : MemoryAllocatorDumpGuid) :
    pmd.edgesInKeyOrder.dlookup s = pmd.allocatorDumpsEdges.lookup s :=
  List.perm_dlookup s (((edgesInKeyOrder_perm pmd).map Sigma.fst).nodup_iff.2
    pmd.allocatorDumpsEdges.nodupKeys) pmd.allocatorDumpsEdges.nodupKeys (edgesInKeyOrder_perm pmd)

-- --------------------------------------------------------------------------
-- Reading edges back

theorem setAllEdgesForSerialization_allocatorDumps (pmd : ProcessMemoryDump)
    (edges : List MemoryAllocatorDumpEdge) :
    (pmd.setAllEdgesForSerialization edges).allocatorDumps = pmd.allocatorDumps := by
  induction edges generalizing pmd with
  | nil => rfl
  | cons edge edges ih =>
    refine (ih _).trans ?_
    show (if edge.source ∈ pmd.allocatorDumpsEdges then pmd else _).allocatorDumps = _
    split <;> rfl

theorem lookup_setAllEdgesForSerialization (pmd : ProcessMemoryDump)
    (edges : List MemoryAllocatorDumpEdge) (s : MemoryAllocatorDumpGuid) :
    (pmd.setAllEdgesForSerialization edges).allocatorDumpsEdges.lookup s =
      (pmd.allocatorDumpsEdges.lookup s).or (edges.find? fun edge => edge.source == s) := by
  induction edges generalizing pmd with
  | nil => simp [setAllEdgesForSerialization]
  | cons edge edges ih =>
    refine (ih _).trans ?_
    show ((if edge.source ∈ pmd.allocatorDumpsEdges then pmd else _).allocatorDumpsEdges.lookup s).or _ = _
    rw [List.find?_cons]
    by_cases hs : edge.source = s
    · subst hs
      by_cases hm : edge.source ∈ pmd.allocatorDumpsEdges
      · obtain ⟨e, he⟩ := Option.isSome_iff_exists.1 (AList.lookup_isSome.2 hm)
        simp [hm, he]
      · simp [hm, AList.lookup_eq_none.2 hm]
    · have hne : (edge.source == s) = false := beq_false_of_ne hs
      split <;> simp only [AList.lookup_insert_ne (Ne.symm hs), hne]

theorem find?_source_map_snd (l : List (Σ _ : MemoryAllocatorDumpGuid, MemoryAllocatorDumpEdge))
    (hl : ∀ e ∈ l, e.2.source = e.1) (s : MemoryAllocatorDumpGuid) :
    (l.map fun e => e.2).find? (fun edge => edge.source == s) = l.dlookup s := by
  induction l with
  | nil => rfl
  | cons e l ih =>
    obtain ⟨k, edge⟩ := e
    have he : edge.source = k := hl _ (List.mem_cons_self _ _)
    rw [List.map_cons, List.find?_cons, ih fun e' h' => hl e' (List.mem_cons_of_mem _ h')]
    by_cases hs : s = k
    · subst hs
      simp [he, List.dlookup_cons_eq]
    · rw [he, beq_false_of_ne (Ne.symm hs), List.dlookup_cons_ne l ⟨k, edge⟩ hs]

theorem EdgesKeyed.edgesInKeyOrder {pmd : ProcessMemoryDump} (h : pmd.EdgesKeyed) :
    ∀ e ∈ pmd.edgesInKeyOrder, e.2.source = e.1 :=
  fun e he => h e.1 e.2 (AList.mem_lookup_iff.2 ((edgesInKeyOrder_perm pmd).subset he))

theorem EdgesKeyed.getAllEdgesForSerialization_sources {pmd : ProcessMemoryDump}
    (h : pmd.EdgesKeyed) :
    pmd.getAllEdgesForSerialization.map (fun edge => edge.source) = pmd.edgesInKeyOrder.map Sigma.fst := by
  rw [getAllEdgesForSerialization, List.map_map]
  exact List.map_congr_left h.edgesInKeyOrder

-- --------------------------------------------------------------------------
-- Reading dumps back

theorem lookup_setAllocatorDumpsForSerialization {Token : Type} (col : Collaborators Token)
    (pmd q : ProcessMemoryDump) (hd : q.allocatorDumps = ∅) (hkeyed : pmd.DumpsKeyed)
    (hdiv : ∀ n ∈ pmd.allocatorDumps, q.diverts col n = false) (n : String) :
    (q.setAllocatorDumpsForSerialization col (pmd.dumpsInKeyOrder.map fun e => e.2)).allocatorDumps.lookup n =
      pmd.allocatorDumps.lookup n := by
  rw [setAllocatorDumpsForSerialization, List.foldl_map,
    lookup_foldl_addAllocatorDumpInternal col _ (fun e he => hkeyed e.1 e.2
      (AList.mem_lookup_iff.2 ((dumpsInKeyOrder_perm pmd).subset he))),
    hd, AList.lookup_empty, Option.none_or, dlookup_dumpsInKeyOrder]
  by_cases hn : n ∈ pmd.allocatorDumps
  · rw [hdiv n hn, if_neg Bool.false_ne_true]
  · rw [AList.lookup_eq_none.2 hn, ite_self]

-- --------------------------------------------------------------------------
-- The round trip

/-- A well-formed dump read back into an empty one that diverts none of its
names: the sources `SetAllEdgesForSerialization` emplaces are distinct, and the
dumps and edges are those of the original. -/
theorem serialization_roundTrip {Token : Type} (col : Collaborators Token)
    (pmd q : ProcessMemoryDump) (hw : pmd.WellFormed)
    (hd : q.allocatorDumps = ∅) (he : q.allocatorDumpsEdges = ∅)
    (hdiv : ∀ n ∈ pmd.allocatorDumps, q.diverts col n = false) :
    (pmd.getAllEdgesForSerialization.map fun edge => edge.source).Nodup ∧
    (∀ n, ((q.setAllocatorDumpsForSerialization col (pmd.dumpsInKeyOrder.map fun e => e.2)
      ).setAllEdgesForSerialization pmd.getAllEdgesForSerialization).allocatorDumps.lookup n =
        pmd.allocatorDumps.lookup n) ∧
    ∀ s, ((q.setAllocatorDumpsForSerialization col (pmd.dumpsInKeyOrder.map fun e => e.2)
      ).setAllEdgesForSerialization pmd.getAllEdgesForSerialization).allocatorDumpsEdges.lookup s =
        pmd.allocatorDumpsEdges.lookup s := by
  have hedges : (q.setAllocatorDumpsForSerialization col (pmd.dumpsInKeyOrder.map fun e => e.2)
      ).allocatorDumpsEdges = q.allocatorDumpsEdges :=
    (foldl_addAllocatorDumpInternal_frame col _ id q).allocatorDumpsEdges
  refine ⟨hw.edgesKeyed.getAllEdgesForSerialization_sources ▸
      ((edgesInKeyOrder_perm pmd).map Sigma.fst).nodup_iff.2 pmd.allocatorDumpsEdges.nodupKeys,
    fun n => ?_, fun s => ?_⟩
  · rw [setAllEdgesForSerialization_allocatorDumps]
    exact lookup_setAllocatorDumpsForSerialization col pmd q hd hw.dumpsKeyed hdiv n
  · rw [lookup_setAllEdgesForSerialization, hedges, he,
      AList.lookup_empty, Option.none_or, getAllEdgesForSerialization,
      find?_source_map_snd _ hw.edgesKeyed.edgesInKeyOrder, dlookup_edgesInKeyOrder]

def sampleDump : ProcessMemoryDump :=
  ((new "a" .light).run sampleCollaborators
    [.createAllocatorDump "malloc", .addSuballocation ⟨7⟩ "malloc", .addOwnershipEdge ⟨1⟩ ⟨2⟩ 3]).2

theorem serialization_roundTrip_sample :
    (sampleDump.getAllEdgesForSerialization.map fun edge => edge.source).Nodup ∧
    (∀ n, (((new "b" .detailed).setAllocatorDumpsForSerialization sampleCollaborators
        (sampleDump.dumpsInKeyOrder.map fun e => e.2)).setAllEdgesForSerialization
          sampleDump.getAllEdgesForSerialization).allocatorDumps.lookup n =
        sampleDump.allocatorDumps.lookup n) ∧
    ∀ s, (((new "b" .detailed).setAllocatorDumpsForSerialization sampleCollaborators
        (sampleDump.dumpsInKeyOrder.map fun e => e.2)).setAllEdgesForSerialization
          sampleDump.getAllEdgesForSerialization).allocatorDumpsEdges.lookup s =
        sampleDump.allocatorDumpsEdges.lookup s :=
  serialization_roundTrip sampleCollaborators _ _ ((wellFormed_of_empty rfl rfl).run sampleCollaborators _) rfl rfl
    fun _ _ => rfl

end ProcessMemoryDump

end BaseLib.TraceEvent
