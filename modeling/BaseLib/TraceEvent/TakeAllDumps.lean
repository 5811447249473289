import BaseLib.TraceEvent.WellFormed

/-!
# `TakeAllDumpsFrom`

`this->TakeAllDumpsFrom(other)` hands each dump of `other` to
`AddAllocatorDumpInternal` and inserts `other`'s edges with the range
`std::map::insert`. So `this` keeps its own dump and its own edge wherever both
hold one, and drops into its black hole every dump of `other` that its own level
of detail diverts; `other` is left empty (`takeAllDumpsFrom_merge`). So an edge
of `other` is not replayed on `this`, as the comment `Move all the edges` and
the rule that a strong edge overrides an overridable one would have it: a
strong edge there is lost to an overridable edge here; and a background `this`
destroys the dumps of `other` it does not whitelist
(`takeAllDumpsFrom_keeps_own_edge`).
-/

namespace BaseLib.TraceEvent

namespace ProcessMemoryDump

section

variable {Token : Type} (col : Collaborators Token)

theorem diverts_addAllocatorDumpInternal (pmd : ProcessMemoryDump) (mad : MemoryAllocatorDump)
    (n : String) : (pmd.addAllocatorDumpInternal col mad).2.diverts col n = pmd.diverts col n := by
  simp only [diverts, (addAllocatorDumpInternal_frame col pmd mad).levelOfDetail]

theorem lookup_addAllocatorDumpInternal (pmd : ProcessMemoryDump) (mad : MemoryAllocatorDump) :
    (pmd.addAllocatorDumpInternal col mad).2.allocatorDumps.lookup mad.absoluteName =
      (pmd.allocatorDumps.lookup mad.absoluteName).or
        (if pmd.diverts col mad.absoluteName then none else some mad) := by
  rw [addAllocatorDumpInternal_allocatorDumps]
  by_cases hd : pmd.diverts col mad.absoluteName
  · simp [hd]
  · cases h : pmd.allocatorDumps.lookup mad.absoluteName with
    | none => simp [hd, AList.lookup_eq_none.1 h, AList.lookup_insert]
    | some d => simp [hd, AList.lookup_isSome.1 (by rw [h]; rfl : (pmd.allocatorDumps.lookup _).isSome), h]

theorem lookup_foldl_addAllocatorDumpInternal (l : List (Σ _ : String, MemoryAllocatorDump))
    (hl : ∀ e ∈ l, e.2.absoluteName = e.1) (pmd : ProcessMemoryDump) (n : String) :
    (l.foldl (fun pmd e => (pmd.addAllocatorDumpInternal col e.2).2) pmd).allocatorDumps.lookup n =
      (pmd.allocatorDumps.lookup n).or (if pmd.diverts col n then none else l.dlookup n) := by
  induction l generalizing pmd with
  | nil => simp
  | cons e l ih =>
    obtain ⟨k, mad⟩ := e
    have he : mad.absoluteName = k := hl _ (List.mem_cons_self _ _)
    rw [List.foldl_cons, ih (fun e' h' => hl e' (List.mem_cons_of_mem _ h')),
      diverts_addAllocatorDumpInternal]
    by_cases hn : n = k
    · subst hn he
      rw [lookup_addAllocatorDumpInternal, List.dlookup_cons_eq]
      cases pmd.allocatorDumps.lookup mad.absoluteName <;> split <;> simp
    · rw [lookup_addAllocatorDumpInternal_ne col pmd mad (by rw [he]; exact hn),
        List.dlookup_cons_ne _ _ hn]

theorem foldl_addAllocatorDumpInternal_frame {α : Type} (l : List α) (f : α → MemoryAllocatorDump)
    (pmd : ProcessMemoryDump) :
    DumpFrame pmd (l.foldl (fun pmd a => (pmd.addAllocatorDumpInternal col (f a)).2) pmd) := by
  induction l generalizing pmd with
  | nil => exact .refl pmd
  | cons a l ih => exact (addAllocatorDumpInternal_frame col pmd (f a)).trans (ih _)

/-- What `TakeAllDumpsFrom` does, for an `other` that keys its dumps by name:
`other` ends empty; `this` keeps each dump and edge it holds and takes, for
the rest, `other`'s edge and `other`'s dump unless it diverts the name. -/
theorem takeAllDumpsFrom_merge (pmd other : ProcessMemoryDump) (ho : other.DumpsKeyed) :
    (pmd.takeAllDumpsFrom col other).2.allocatorDumps = ∅ ∧
    (pmd.takeAllDumpsFrom col other).2.allocatorDumpsEdges = ∅ ∧
    (∀ n, (pmd.takeAllDumpsFrom col other).1.allocatorDumps.lookup n =
      (pmd.allocatorDumps.lookup n).or
        (if pmd.diverts col n then none else other.allocatorDumps.lookup n)) ∧
    ∀ s, (pmd.takeAllDumpsFrom col other).1.allocatorDumpsEdges.lookup s =
      (pmd.allocatorDumpsEdges.lookup s).or (other.allocatorDumpsEdges.lookup s) := by
  have hkeyed : ∀ e ∈ other.allocatorDumps.entries, e.2.absoluteName = e.1 :=
    fun e he => ho e.1 e.2 (AList.mem_lookup_iff.2 he)
  have hedges := (foldl_addAllocatorDumpInternal_frame col other.allocatorDumps.entries Sigma.snd
    pmd).allocatorDumpsEdges
  refine ⟨rfl, rfl, lookup_foldl_addAllocatorDumpInternal col _ hkeyed pmd, fun s => ?_⟩
  simp only [takeAllDumpsFrom, hedges]
  by_cases hs : s ∈ pmd.allocatorDumpsEdges
  · obtain ⟨e, he⟩ := Option.isSome_iff_exists.1 (AList.lookup_isSome.2 hs)
    rw [AList.lookup_union_left hs, he]
    rfl
  · rw [AList.lookup_union_right hs, AList.lookup_eq_none.2 hs]
    rfl

end

def overridableA : ProcessMemoryDump := (new "a" .detailed).addOverridableOwnershipEdge ⟨1⟩ ⟨2⟩ 0

def strongB : ProcessMemoryDump := (new "b" .detailed).addOwnershipEdge ⟨1⟩ ⟨2⟩ 5

def mallocB : ProcessMemoryDump :=
  ((new "b" .detailed).step sampleCollaborators (.createAllocatorDump "malloc")).2

/-- `B`'s strong edge from `1` does not override `A`'s overridable one, as
replaying `B`'s call on `A` would; and a background `A` drops `B`'s dump
`malloc` into its black hole. -/
theorem takeAllDumpsFrom_keeps_own_edge :
    (overridableA.takeAllDumpsFrom sampleCollaborators strongB).1.allocatorDumpsEdges.lookup ⟨1⟩ =
        some ⟨⟨1⟩, ⟨2⟩, 0, true⟩ ∧
      (overridableA.addOwnershipEdge ⟨1⟩ ⟨2⟩ 5).allocatorDumpsEdges.lookup ⟨1⟩ =
        some ⟨⟨1⟩, ⟨2⟩, 5, false⟩ ∧
      ((new "a" .background).takeAllDumpsFrom sampleCollaborators mallocB).1.allocatorDumps.lookup
        "malloc" = none ∧
      mallocB.allocatorDumps.lookup "malloc" ≠ none := by
  have hedges := (takeAllDumpsFrom_merge sampleCollaborators overridableA strongB
    ((wellFormed_of_empty rfl rfl).dumpsKeyed.step sampleCollaborators (.addOwnershipEdge ⟨1⟩ ⟨2⟩ 5))).2.2.2
  have hdumps := (takeAllDumpsFrom_merge sampleCollaborators (new "a" .background) mallocB
    ((wellFormed_of_empty rfl rfl).dumpsKeyed.step sampleCollaborators _)).2.2.1
  refine ⟨by rw [hedges]; decide, by decide, by rw [hdumps]; decide, by decide⟩

end ProcessMemoryDump

end BaseLib.TraceEvent
