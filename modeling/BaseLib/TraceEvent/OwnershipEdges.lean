import BaseLib.TraceEvent.ProcessMemoryDump

/-!
# The law of ownership edges

`AddOwnershipEdge` writes a strong edge, keeping the largest importance seen
for its source; `AddOverridableOwnershipEdge` writes an edge only for a source
that has none. `CreateSharedMemoryOwnershipEdge` and `AddSuballocation` are
made of strong calls. Read as the list of these calls, a run from a cleared
dump leaves for each source `s` what `EdgeLaw` says:

* an edge exactly when some call named `s`, with `s` as its source;
* a strong edge exactly when some call on `s` was strong, and then the largest
  of the strong calls' importances and of the first call's when that one was
  overridable, with the target all calls on `s` share;
* otherwise the edge of the first call on `s`.

The map depends on the calls only through these, so a reordering of them that
keeps each source's leading overridable call leaves it as it is.
-/

namespace BaseLib.TraceEvent

/-- A call of `AddOwnershipEdge` (strong) or of `AddOverridableOwnershipEdge`. -/
inductive EdgeCall
  | strong (source target : MemoryAllocatorDumpGuid) (importance : Int)
  | overridable (source target : MemoryAllocatorDumpGuid) (importance : Int)
  deriving DecidableEq, Repr

namespace EdgeCall

def source : EdgeCall → MemoryAllocatorDumpGuid
  | .strong s _ _ | .overridable s _ _ => s
def target : EdgeCall → MemoryAllocatorDumpGuid
  | .strong _ t _ | .overridable _ t _ => t
def importance : EdgeCall → Int
  | .strong _ _ i | .overridable _ _ i => i
def isStrong : EdgeCall → Bool
  | .strong .. => true
  | .overridable .. => false
def toEdge (c : EdgeCall) : MemoryAllocatorDumpEdge :=
  ⟨c.source, c.target, c.importance, !c.isStrong⟩
@[simp] theorem isStrong_strong : (EdgeCall.strong s t i).isStrong = true := rfl
@[simp] theorem isStrong_overridable : (EdgeCall.overridable s t i).isStrong = false := rfl
@[simp] theorem importance_strong : (EdgeCall.strong s t i).importance = i := rfl
@[simp] theorem importance_overridable : (EdgeCall.overridable s t i).importance = i := rfl
end EdgeCall

def callsOn (s : MemoryAllocatorDumpGuid) (calls : List EdgeCall) : List EdgeCall :=
  calls.filter (·.source = s)

/-- The first call on `s`, when it is overridable. -/
def leadingOverridable (s : MemoryAllocatorDumpGuid) (calls : List EdgeCall) : Option EdgeCall :=
  (callsOn s calls).head?.filter (!·.isStrong)

def strongImportances (l : List EdgeCall) : List Int :=
  l.filterMap fun c => if c.isStrong then some c.importance else none

/-- The importances a strong edge takes the largest of: those of the strong
calls, and that of the first call when it is overridable. -/
def mergedImportances (l : List EdgeCall) : List Int :=
  strongImportances l ++ ((l.head?.filter (!·.isStrong)).map EdgeCall.importance).toList

/-- What the edge map holds for the source `s` after the calls `l` on it. -/
def EdgeLaw (s : MemoryAllocatorDumpGuid) (l : List EdgeCall) :
    Option MemoryAllocatorDumpEdge → Prop
  | none => l = []
  | some e => l ≠ [] ∧ e.source = s ∧ (e.overridable = false ↔ ∃ c ∈ l, c.isStrong) ∧
      ((∃ c ∈ l, c.isStrong) → e.importance ∈ mergedImportances l ∧
        (∀ i ∈ mergedImportances l, i ≤ e.importance) ∧ ∀ c ∈ l, e.target = c.target) ∧
      ((¬∃ c ∈ l, c.isStrong) → l.head?.map EdgeCall.toEdge = some e)

-- ---------------------------------------------------------------------------
-- One call on the source
-- ---------------------------------------------------------------------------

section

variable {s t : MemoryAllocatorDumpGuid} {i : Int} {l : List EdgeCall}

theorem mergedImportances_append (hl : l ≠ []) (c : EdgeCall) :
    mergedImportances (l ++ [c]) = strongImportances l ++ strongImportances [c] ++
      ((l.head?.filter (!·.isStrong)).map EdgeCall.importance).toList := by
  have hh : (l ++ [c]).head? = l.head? := by cases l <;> simp_all
  simp only [mergedImportances, strongImportances, List.filterMap_append, hh, List.append_assoc]

theorem mem_mergedImportances_append_strong (hl : l ≠ []) {x : Int} :
    x ∈ mergedImportances (l ++ [.strong s t i]) ↔ x ∈ mergedImportances l ∨ x = i := by
  rw [mergedImportances_append hl, mergedImportances]
  simp only [List.mem_append, strongImportances, List.filterMap_cons, EdgeCall.isStrong_strong,
    if_true, EdgeCall.importance_strong, List.filterMap_nil, List.mem_singleton]
  tauto

theorem mergedImportances_append_overridable (hl : l ≠ []) :
    mergedImportances (l ++ [.overridable s t i]) = mergedImportances l := by
  rw [mergedImportances_append hl, mergedImportances]
  simp [strongImportances]

theorem EdgeLaw.importance_max {e : MemoryAllocatorDumpEdge} (h : EdgeLaw s l (some e)) :
    e.importance ∈ mergedImportances l ∧ ∀ x ∈ mergedImportances l, x ≤ e.importance := by
  obtain ⟨hl, -, -, hstrong, hweak⟩ := h
  by_cases hs : ∃ c ∈ l, c.isStrong
  · exact ⟨(hstrong hs).1, (hstrong hs).2.1⟩
  · have hnil : strongImportances l = [] :=
      List.filterMap_eq_nil_iff.2 fun c hc => by simp [Bool.eq_false_iff.2 fun h => hs ⟨c, hc, h⟩]
    obtain ⟨c, l', rfl⟩ := List.exists_cons_of_ne_nil hl
    have hc : c.isStrong = false := by simpa using fun h => hs ⟨c, by simp, h⟩
    have he := hweak hs
    simp only [List.head?_cons, Option.map_some', Option.some.injEq] at he
    subst he
    have hm : mergedImportances (c :: l') = [c.importance] := by
      simp [mergedImportances, hnil, Option.filter, hc]
    simp [hm, EdgeCall.toEdge]

theorem EdgeLaw.append_strong {o : Option MemoryAllocatorDumpEdge} (h : EdgeLaw s l o)
    (ht : ∀ c ∈ l, c.target = t) :
    EdgeLaw s (l ++ [.strong s t i]) (some ⟨s, t, o.elim i (max i ·.importance), false⟩) := by
  cases o with
  | none =>
    subst h
    simp [EdgeLaw, mergedImportances, strongImportances, EdgeCall.target]
  | some e =>
    have hl : l ≠ [] := h.1
    obtain ⟨hmem, hub⟩ := h.importance_max
    have hc : ∃ c ∈ l ++ [.strong s t i], c.isStrong :=
      ⟨_, List.mem_append_right _ (List.mem_singleton_self _), rfl⟩
    refine ⟨by simp, rfl, iff_of_true rfl hc, fun _ => ⟨?_, ?_, ?_⟩, fun hs => absurd hc hs⟩
    · rw [mem_mergedImportances_append_strong hl]
      have : max i e.importance = i ∨ max i e.importance = e.importance := by omega
      rcases this with hm | hm <;> simp [hm, hmem]
    · intro x hx
      show x ≤ max i e.importance
      rcases (mem_mergedImportances_append_strong hl).1 hx with hx | rfl
      · have := hub x hx; omega
      · omega
    · intro c hc
      rcases List.mem_append.1 hc with hc | hc
      · exact (ht c hc).symm
      · rw [List.mem_singleton.1 hc]; rfl

theorem EdgeLaw.append_overridable {o : Option MemoryAllocatorDumpEdge} (h : EdgeLaw s l o)
    (ht : ∀ c ∈ l, c.target = t) :
    EdgeLaw s (l ++ [.overridable s t i]) (o.or (some ⟨s, t, i, true⟩)) := by
  cases o with
  | none =>
    subst h
    simp [EdgeLaw, EdgeCall.toEdge, EdgeCall.source, EdgeCall.target]
  | some e =>
    obtain ⟨hl, hsrc, hov, hstrong, hweak⟩ := h
    have hs : (∃ c ∈ l ++ [.overridable s t i], c.isStrong) ↔ ∃ c ∈ l, c.isStrong := by
      simp [or_and_right, exists_or]
    refine ⟨by simp, hsrc, hov.trans hs.symm, fun h => ?_, fun h => ?_⟩
    · obtain ⟨hmem, hub, htgt⟩ := hstrong (hs.1 h)
      rw [mergedImportances_append_overridable hl]
      refine ⟨hmem, hub, fun c hc => ?_⟩
      rcases List.mem_append.1 hc with hc | hc
      · exact htgt c hc
      · obtain ⟨c₀, hc₀⟩ := List.exists_mem_of_ne_nil _ hl
        rw [List.mem_singleton.1 hc]
        exact (htgt c₀ hc₀).trans (ht c₀ hc₀)
    · obtain ⟨c, l', rfl⟩ := List.exists_cons_of_ne_nil hl
      simpa using hweak (fun h' => h (hs.2 h'))

theorem EdgeLaw.unique {l₁ l₂ : List EdgeCall} {o₁ o₂ : Option MemoryAllocatorDumpEdge}
    (h₁ : EdgeLaw s l₁ o₁) (h₂ : EdgeLaw s l₂ o₂) (hp : l₁.Perm l₂)
    (hlead : l₁.head?.filter (!·.isStrong) = l₂.head?.filter (!·.isStrong)) : o₁ = o₂ := by
  cases o₁ with
  | none => cases o₂ with
    | none => rfl
    | some e₂ => subst h₁; exact absurd hp.nil_eq.symm h₂.1
  | some e₁ => cases o₂ with
    | none => subst h₂; exact absurd hp.eq_nil h₁.1
    | some e₂ =>
      obtain ⟨hl₁, hs₁, hov₁, hst₁, hw₁⟩ := h₁
      obtain ⟨-, hs₂, hov₂, hst₂, hw₂⟩ := h₂
      have hiff : (∃ c ∈ l₁, c.isStrong) ↔ ∃ c ∈ l₂, c.isStrong := by simp only [hp.mem_iff]
      by_cases hs : ∃ c ∈ l₁, c.isStrong
      · obtain ⟨m₁, u₁, t₁⟩ := hst₁ hs
        obtain ⟨m₂, u₂, t₂⟩ := hst₂ (hiff.1 hs)
        have hm : ∀ x, x ∈ mergedImportances l₁ ↔ x ∈ mergedImportances l₂ := fun x => by
          simp only [mergedImportances, List.mem_append, strongImportances,
            (hp.filterMap _).mem_iff, hlead]
        obtain ⟨c₀, hc₀⟩ := List.exists_mem_of_ne_nil _ hl₁
        obtain ⟨src₁, tgt₁, imp₁, ov₁⟩ := e₁
        obtain ⟨src₂, tgt₂, imp₂, ov₂⟩ := e₂
        have hi : imp₁ = imp₂ := le_antisymm (u₂ _ ((hm _).1 m₁)) (u₁ _ ((hm _).2 m₂))
        have hov₁ := hov₁.2 hs
        have hov₂ := hov₂.2 (hiff.1 hs)
        simp only at hs₁ hs₂ hov₁ hov₂ hi t₁ t₂
        rw [hs₁, hs₂, hi, hov₁, hov₂, t₁ c₀ hc₀, t₂ c₀ (hp.subset hc₀)]
      · have e₁_eq := hw₁ hs
        have e₂_eq := hw₂ (fun h => hs (hiff.2 h))
        obtain ⟨c₁, l₁', rfl⟩ := List.exists_cons_of_ne_nil hl₁
        obtain ⟨c₂, l₂', rfl⟩ := List.exists_cons_of_ne_nil
          (show l₂ ≠ [] from fun h => hl₁ (by subst h; exact hp.eq_nil))
        have hc₁ : c₁.isStrong = false := Bool.eq_false_iff.2 fun h => hs ⟨c₁, by simp, h⟩
        have hc₂ : c₂.isStrong = false :=
          Bool.eq_false_iff.2 fun h => hs (hiff.2 ⟨c₂, by simp, h⟩)
        simp only [List.head?_cons, Option.filter, hc₁, hc₂, Bool.not_false, ite_true,
          Option.some.injEq] at hlead
        simp only [List.head?_cons, Option.map_some', Option.some.injEq] at e₁_eq e₂_eq
        rw [← e₁_eq, ← e₂_eq, hlead]

end

namespace ProcessMemoryDump

def applyEdgeCall (pmd : ProcessMemoryDump) : EdgeCall → ProcessMemoryDump
  | .strong s t i => pmd.addOwnershipEdge s t i
  | .overridable s t i => pmd.addOverridableOwnershipEdge s t i

theorem lookup_addOwnershipEdge (pmd : ProcessMemoryDump) (s t : MemoryAllocatorDumpGuid) (i : Int) :
    (pmd.addOwnershipEdge s t i).allocatorDumpsEdges.lookup s =
      some ⟨s, t, (pmd.allocatorDumpsEdges.lookup s).elim i (max i ·.importance), false⟩ := by
  rw [addOwnershipEdge, AList.lookup_insert]
  cases pmd.allocatorDumpsEdges.lookup s <;> rfl

theorem lookup_addOverridableOwnershipEdge (pmd : ProcessMemoryDump)
    (s t : MemoryAllocatorDumpGuid) (i : Int) :
    (pmd.addOverridableOwnershipEdge s t i).allocatorDumpsEdges.lookup s =
      (pmd.allocatorDumpsEdges.lookup s).or (some ⟨s, t, i, true⟩) := by
  unfold addOverridableOwnershipEdge
  split
  · rename_i h
    rw [AList.lookup_insert, AList.lookup_eq_none.2 h]
    rfl
  · rename_i h
    obtain ⟨e, he⟩ := Option.isSome_iff_exists.1 (AList.lookup_isSome.2 (not_not.1 h))
    rw [he]
    rfl

theorem lookup_applyEdgeCall_ne (pmd : ProcessMemoryDump) {c : EdgeCall}
    {s : MemoryAllocatorDumpGuid} (h : c.source ≠ s) :
    (pmd.applyEdgeCall c).allocatorDumpsEdges.lookup s = pmd.allocatorDumpsEdges.lookup s := by
  cases c with
  | strong s' t i => exact AList.lookup_insert_ne (Ne.symm h)
  | overridable s' t i =>
    show (pmd.addOverridableOwnershipEdge s' t i).allocatorDumpsEdges.lookup s = _
    unfold addOverridableOwnershipEdge
    split
    · exact AList.lookup_insert_ne (Ne.symm h)
    · rfl

theorem edgeLaw_foldl (pmd : ProcessMemoryDump) (hpmd : pmd.allocatorDumpsEdges = ∅)
    (calls : List EdgeCall)
    (htarget : ∀ c ∈ calls, ∀ c' ∈ calls, c.source = c'.source → c.target = c'.target)
    (s : MemoryAllocatorDumpGuid) :
    EdgeLaw s (callsOn s calls) ((calls.foldl applyEdgeCall pmd).allocatorDumpsEdges.lookup s) := by
  induction calls using List.reverseRecOn with
  | nil => simp [EdgeLaw, callsOn, hpmd, AList.lookup_empty]
  | append_singleton l c ih =>
    have ih := ih fun a ha b hb => htarget a (by simp [ha]) b (by simp [hb])
    rw [List.foldl_append, List.foldl_cons, List.foldl_nil]
    by_cases hc : c.source = s
    · have hcalls : callsOn s (l ++ [c]) = callsOn s l ++ [c] := by simp [callsOn, hc]
      have ht : ∀ c' ∈ callsOn s l, c'.target = c.target := fun c' h' =>
        htarget c' (by simp [(List.mem_filter.1 h').1]) c (by simp)
          (by rw [hc]; simpa using (List.mem_filter.1 h').2)
      rw [hcalls]
      cases c with
      | strong s' t i =>
        obtain rfl : s' = s := hc
        rw [applyEdgeCall, lookup_addOwnershipEdge]
        exact ih.append_strong ht
      | overridable s' t i =>
        obtain rfl : s' = s := hc
        rw [applyEdgeCall, lookup_addOverridableOwnershipEdge]
        exact ih.append_overridable ht
    · have hcalls : callsOn s (l ++ [c]) = callsOn s l := by simp [callsOn, hc]
      rw [hcalls, lookup_applyEdgeCall_ne _ hc]
      exact ih

theorem applyEdgeCall_edges {p q : ProcessMemoryDump}
    (h : p.allocatorDumpsEdges = q.allocatorDumpsEdges) (c : EdgeCall) :
    (p.applyEdgeCall c).allocatorDumpsEdges = (q.applyEdgeCall c).allocatorDumpsEdges := by
  cases c with
  | strong s t i => simp only [applyEdgeCall, addOwnershipEdge, h]
  | overridable s t i =>
    simp only [applyEdgeCall, addOverridableOwnershipEdge, h]
    split
    · rfl
    · exact h

theorem foldl_applyEdgeCall_edges {p q : ProcessMemoryDump}
    (h : p.allocatorDumpsEdges = q.allocatorDumpsEdges) (l : List EdgeCall) :
    (l.foldl applyEdgeCall p).allocatorDumpsEdges = (l.foldl applyEdgeCall q).allocatorDumpsEdges := by
  induction l generalizing p q with
  | nil => exact h
  | cons c l ih => exact ih (applyEdgeCall_edges h c)

-- ---------------------------------------------------------------------------
-- Runs as edge calls
-- ---------------------------------------------------------------------------

section

variable {Token : Type} (col : Collaborators Token)

/-- The edge calls one call makes, in order. `CreateSharedMemoryOwnershipEdge`
makes two strong ones; `AddSuballocation` makes one, to the guid of the dump it
creates, unless the dump is a background one. -/
def edgeCalls (pmd : ProcessMemoryDump) : Op Token → List EdgeCall
  | .addOwnershipEdge s t i => [.strong s t i]
  | .addOverridableOwnershipEdge s t i => [.overridable s t i]
  | .createSharedMemoryOwnershipEdge c m i | .createWeakSharedMemoryOwnershipEdge c m i =>
    [.strong c (pmd.getDumpId col (col.dumpNameForTracing m)) i,
      .strong (pmd.getDumpId col (col.dumpNameForTracing m)) (col.globalDumpIdForTracing m) i]
  | .addSuballocation s n =>
    if pmd.levelOfDetail = .background then []
    else
      let targetChildMad := pmd.createAllocatorDump col (n ++ "/__" ++ col.guidToString s)
      ((targetChildMad.2.deref targetChildMad.1).map fun mad => .strong s mad.guid 0).toList
  | _ => []

def runEdgeCalls (pmd : ProcessMemoryDump) : List (Op Token) → List EdgeCall
  | [] => []
  | op :: ops => pmd.edgeCalls col op ++ (pmd.step col op).2.runEdgeCalls ops

theorem step_edges (pmd : ProcessMemoryDump) (op : Op Token) :
    (pmd.step col op).2.allocatorDumpsEdges =
      ((pmd.edgeCalls col op).foldl applyEdgeCall pmd).allocatorDumpsEdges := by
  cases op with
  | createAllocatorDump n => exact (createAllocatorDump_frame col pmd n).allocatorDumpsEdges
  | createAllocatorDumpWithGuid n g =>
    exact (createAllocatorDumpWithGuid_frame col pmd n g).allocatorDumpsEdges
  | getOrCreateAllocatorDump n => exact (getOrCreateAllocatorDump_frame col pmd n).allocatorDumpsEdges
  | createSharedGlobalAllocatorDump g =>
    exact (createSharedGlobalAllocatorDump_frame col pmd g).allocatorDumpsEdges
  | createWeakSharedGlobalAllocatorDump g =>
    exact (createWeakSharedGlobalAllocatorDump_frame col pmd g).allocatorDumpsEdges
  | addOwnershipEdge | addOverridableOwnershipEdge | createSharedMemoryOwnershipEdge
  | createWeakSharedMemoryOwnershipEdge => rfl
  | addSuballocation s n =>
    have hf := (createAllocatorDump_frame col pmd (n ++ "/__" ++ col.guidToString s))
    simp only [step, addSuballocation, edgeCalls]
    split
    · rfl
    · cases (pmd.createAllocatorDump col _).2.deref (pmd.createAllocatorDump col _).1 with
      | none => exact hf.allocatorDumpsEdges
      | some mad => exact applyEdgeCall_edges hf.allocatorDumpsEdges (.strong s mad.guid 0)

theorem run_edges (pmd : ProcessMemoryDump) (ops : List (Op Token)) :
    (pmd.run col ops).2.allocatorDumpsEdges =
      ((pmd.runEdgeCalls col ops).foldl applyEdgeCall pmd).allocatorDumpsEdges := by
  induction ops generalizing pmd with
  | nil => rfl
  | cons op ops ih =>
    rw [run, runEdgeCalls, List.foldl_append, ih]
    exact foldl_applyEdgeCall_edges (step_edges col pmd op) _

theorem edgeLaw_run (pmd : ProcessMemoryDump) (ops : List (Op Token))
    (htarget : ∀ c ∈ pmd.clear.runEdgeCalls col ops, ∀ c' ∈ pmd.clear.runEdgeCalls col ops,
      c.source = c'.source → c.target = c'.target) (s : MemoryAllocatorDumpGuid) :
    EdgeLaw s (callsOn s (pmd.clear.runEdgeCalls col ops))
      ((pmd.clear.run col ops).2.allocatorDumpsEdges.lookup s) := by
  rw [run_edges]
  exact edgeLaw_foldl _ rfl _ htarget s

/-- The edge law of a run since the last `Clear`, and the reorderings it
allows: another run whose edge calls are these in another order, with the same
first call on each source when that one is overridable, leaves the same edges. -/
theorem ownershipEdges_since_clear (pmd : ProcessMemoryDump) (ops : List (Op Token))
    (htarget : ∀ c ∈ pmd.clear.runEdgeCalls col ops, ∀ c' ∈ pmd.clear.runEdgeCalls col ops,
      c.source = c'.source → c.target = c'.target) :
    (∀ s, EdgeLaw s (callsOn s (pmd.clear.runEdgeCalls col ops))
      ((pmd.clear.run col ops).2.allocatorDumpsEdges.lookup s)) ∧
    ∀ ops' : List (Op Token),
      (pmd.clear.runEdgeCalls col ops').Perm (pmd.clear.runEdgeCalls col ops) →
      (∀ s, leadingOverridable s (pmd.clear.runEdgeCalls col ops') =
        leadingOverridable s (pmd.clear.runEdgeCalls col ops)) →
      ∀ s, (pmd.clear.run col ops').2.allocatorDumpsEdges.lookup s =
        (pmd.clear.run col ops).2.allocatorDumpsEdges.lookup s := by
  refine ⟨edgeLaw_run col pmd ops htarget, fun ops' hp hlead s => ?_⟩
  have htarget' : ∀ c ∈ pmd.clear.runEdgeCalls col ops', ∀ c' ∈ pmd.clear.runEdgeCalls col ops',
      c.source = c'.source → c.target = c'.target := by
    simpa only [hp.mem_iff] using htarget
  exact (edgeLaw_run col pmd ops' htarget' s).unique (edgeLaw_run col pmd ops htarget s)
    (hp.filter _) (hlead s)

end

def sampleEdgeOps : List (Op Nat) :=
  [.addOverridableOwnershipEdge ⟨1⟩ ⟨2⟩ 10, .addOwnershipEdge ⟨1⟩ ⟨2⟩ 1,
    .createSharedMemoryOwnershipEdge ⟨5⟩ 7 2, .addSuballocation ⟨9⟩ "malloc"]

theorem ownershipEdges_since_clear_sample :
    (∀ s, EdgeLaw s (callsOn s ((new "p" .detailed).clear.runEdgeCalls sampleCollaborators sampleEdgeOps))
      (((new "p" .detailed).clear.run sampleCollaborators sampleEdgeOps).2.allocatorDumpsEdges.lookup s)) ∧
    ∀ ops' : List (Op Nat),
      ((new "p" .detailed).clear.runEdgeCalls sampleCollaborators ops').Perm
        ((new "p" .detailed).clear.runEdgeCalls sampleCollaborators sampleEdgeOps) →
      (∀ s, leadingOverridable s ((new "p" .detailed).clear.runEdgeCalls sampleCollaborators ops') =
        leadingOverridable s ((new "p" .detailed).clear.runEdgeCalls sampleCollaborators sampleEdgeOps)) →
      ∀ s, ((new "p" .detailed).clear.run sampleCollaborators ops').2.allocatorDumpsEdges.lookup s =
        ((new "p" .detailed).clear.run sampleCollaborators sampleEdgeOps).2.allocatorDumpsEdges.lookup s :=
  ownershipEdges_since_clear sampleCollaborators _ _ (by decide)

/-- The strong calls on `1` and on `3` trade places around the overridable call
on `3`. First the overridable edge's importance `10` is merged into the strong
edge; after the swap the strong call comes first, the overridable call is
dropped, and the edge keeps importance `1`. -/
theorem strong_reorder_changes_edge :
    ((new "p" .detailed).run sampleCollaborators
        [.addOwnershipEdge ⟨1⟩ ⟨2⟩ 0, .addOverridableOwnershipEdge ⟨3⟩ ⟨4⟩ 10,
          .addOwnershipEdge ⟨3⟩ ⟨4⟩ 1]).2.allocatorDumpsEdges.lookup ⟨3⟩ =
      some ⟨⟨3⟩, ⟨4⟩, 10, false⟩ ∧
    ((new "p" .detailed).run sampleCollaborators
        [.addOwnershipEdge ⟨3⟩ ⟨4⟩ 1, .addOverridableOwnershipEdge ⟨3⟩ ⟨4⟩ 10,
          .addOwnershipEdge ⟨1⟩ ⟨2⟩ 0]).2.allocatorDumpsEdges.lookup ⟨3⟩ =
      some ⟨⟨3⟩, ⟨4⟩, 1, false⟩ := by
  decide

end ProcessMemoryDump

end BaseLib.TraceEvent
