import Mathlib.Data.List.AList
import Mathlib.Data.List.Sort
import Mathlib.Data.String.Basic

/-!
# `ProcessMemoryDump`

The allocator dumps and ownership edges of one process's memory dump.
`allocator_dumps_` maps each absolute name to its dump and
`allocator_dumps_edges_` maps a source guid to its one outgoing edge. Both are
`std::map`s; an association list with unique keys stands for each, with the
lookups, insertions and range insertion of the map. A `MemoryAllocatorDump*`
the code hands out is a `MadRef`: the entry under a name, or the black-hole
dump that a background dump diverts unlisted names to.

Where the code walks a map, into a vector or a trace, it does so in the map's
key order: `dumpsInKeyOrder` and `edgesInKeyOrder` sort the entries.
`TakeAllDumpsFrom` also walks `other`'s dumps in key order, but hands each to
`AddAllocatorDumpInternal` under its own name, so the order of the walk does
not show in the result and the model takes the entries as they are.

`MemoryAllocatorDumpGuid`, `MemoryAllocatorDump`, the background whitelist
and `SharedMemoryTracker` are declared outside this source; `Collaborators`
takes the functions the code calls on them as parameters. `DCHECK`s are
compiled out, as in a release build, and the theorems assume what they check.
Heap usage and the creation of the process token are not modelled.
-/

namespace BaseLib.TraceEvent

/-- A `MemoryAllocatorDumpGuid`, compared through `ToUint64()`. -/
structure MemoryAllocatorDumpGuid where
  toUint64 : UInt64
  deriving DecidableEq, Repr

inductive MemoryDumpLevelOfDetail
  | background
  | light
  | detailed
  deriving DecidableEq, Repr

/-- The functions of other components the dump calls; `Token` is the type of
`UnguessableToken`. -/
structure Collaborators (Token : Type) where
  /-- `MemoryAllocatorDumpGuid::ToString`. -/
  guidToString : MemoryAllocatorDumpGuid → String
  /-- `MemoryAllocatorDumpGuid(const std::string&)`: the guid hashed from a string. -/
  guidOfString : String → MemoryAllocatorDumpGuid
  /-- `IsMemoryAllocatorDumpNameWhitelisted`. -/
  isWhitelisted : String → Bool
  /-- `SharedMemoryTracker::GetDumpNameForTracing`. -/
  dumpNameForTracing : Token → String
  /-- `SharedMemoryTracker::GetGlobalDumpIdForTracing`. -/
  globalDumpIdForTracing : Token → MemoryAllocatorDumpGuid

/-- What the dump reads and writes of a `MemoryAllocatorDump`: its name, its
guid and the `WEAK` bit of its flags. -/
structure MemoryAllocatorDump where
  absoluteName : String
  guid : MemoryAllocatorDumpGuid
  weak : Bool
  deriving DecidableEq, Repr

structure MemoryAllocatorDumpEdge where
  source : MemoryAllocatorDumpGuid
  target : MemoryAllocatorDumpGuid
  importance : Int
  overridable : Bool
  deriving DecidableEq, Repr

/-- A `MemoryAllocatorDump*`: the dump under a name in `allocator_dumps_`, or
`black_hole_mad_`. -/
inductive MadRef
  | allocatorDump (absoluteName : String)
  | blackHole
  deriving DecidableEq, Repr

abbrev AllocatorDumps := AList fun _ : String => MemoryAllocatorDump

abbrev AllocatorDumpsEdges := AList fun _ : MemoryAllocatorDumpGuid => MemoryAllocatorDumpEdge

structure ProcessMemoryDump where
  /-- `process_token_.ToString()`, the prefix of every `GetDumpId`. -/
  processToken : String
  levelOfDetail : MemoryDumpLevelOfDetail
  allocatorDumps : AllocatorDumps
  allocatorDumpsEdges : AllocatorDumpsEdges
  blackHoleMad : Option MemoryAllocatorDump

/-- The calls `SerializeAllocatorDumpsInto` makes on its `TracedValue`;
`MemoryAllocatorDump::AsValueInto`, declared outside this source, is one. -/
inductive TracedValueCall
  | beginDictionary (name : String)
  | beginDictionaryInArray
  | endDictionary
  | beginArray (name : String)
  | endArray
  | setString (name value : String)
  | setInteger (name : String) (value : Int)
  | asValueInto (mad : MemoryAllocatorDump)
  deriving DecidableEq, Repr

def kEdgeTypeOwnership : String := "ownership"

section

variable {Token : Type} (col : Collaborators Token)

def getSharedGlobalAllocatorDumpName (guid : MemoryAllocatorDumpGuid) : String :=
  "global/" ++ col.guidToString guid

namespace ProcessMemoryDump

def new (processToken : String) (levelOfDetail : MemoryDumpLevelOfDetail) : ProcessMemoryDump :=
  ⟨processToken, levelOfDetail, ∅, ∅, none⟩

def getDumpId (pmd : ProcessMemoryDump) (absoluteName : String) : MemoryAllocatorDumpGuid :=
  col.guidOfString (pmd.processToken ++ ":" ++ absoluteName)

def getBlackHoleMad (pmd : ProcessMemoryDump) : MadRef × ProcessMemoryDump :=
  match pmd.blackHoleMad with
  | some _ => (.blackHole, pmd)
  | none => (.blackHole, { pmd with blackHoleMad := some ⟨"discarded", pmd.getDumpId col "discarded", false⟩ })

/-- Whether `AddAllocatorDumpInternal` hands a dump of this name to the black
hole: a background dump with a name not on the whitelist. -/
def diverts (pmd : ProcessMemoryDump) (absoluteName : String) : Bool :=
  pmd.levelOfDetail == .background && !col.isWhitelisted absoluteName

/-- On a duplicate name the map keeps the dump it holds and returns it. -/
def addAllocatorDumpInternal (pmd : ProcessMemoryDump) (mad : MemoryAllocatorDump) :
    MadRef × ProcessMemoryDump :=
  if pmd.diverts col mad.absoluteName then pmd.getBlackHoleMad col
  else if mad.absoluteName ∈ pmd.allocatorDumps then (.allocatorDump mad.absoluteName, pmd)
  else (.allocatorDump mad.absoluteName,
    { pmd with allocatorDumps := pmd.allocatorDumps.insert mad.absoluteName mad })

def createAllocatorDump (pmd : ProcessMemoryDump) (absoluteName : String) :
    MadRef × ProcessMemoryDump :=
  pmd.addAllocatorDumpInternal col ⟨absoluteName, pmd.getDumpId col absoluteName, false⟩

def createAllocatorDumpWithGuid (pmd : ProcessMemoryDump) (absoluteName : String)
    (guid : MemoryAllocatorDumpGuid) : MadRef × ProcessMemoryDump :=
  pmd.addAllocatorDumpInternal col ⟨absoluteName, guid, false⟩

def getAllocatorDump (pmd : ProcessMemoryDump) (absoluteName : String) : Option MadRef :=
  if absoluteName ∈ pmd.allocatorDumps then some (.allocatorDump absoluteName) else none

def getOrCreateAllocatorDump (pmd : ProcessMemoryDump) (absoluteName : String) :
    MadRef × ProcessMemoryDump :=
  match pmd.getAllocatorDump absoluteName with
  | some mad => (mad, pmd)
  | none => pmd.createAllocatorDump col absoluteName

def getSharedGlobalAllocatorDump (pmd : ProcessMemoryDump) (guid : MemoryAllocatorDumpGuid) :
    Option MadRef :=
  pmd.getAllocatorDump (getSharedGlobalAllocatorDumpName col guid)

def deref (pmd : ProcessMemoryDump) : MadRef → Option MemoryAllocatorDump
  | .allocatorDump n => pmd.allocatorDumps.lookup n
  | .blackHole => pmd.blackHoleMad

def modifyDump (pmd : ProcessMemoryDump) (f : MemoryAllocatorDump → MemoryAllocatorDump) :
    MadRef → ProcessMemoryDump
  | .allocatorDump n => match pmd.allocatorDumps.lookup n with
    | some mad => { pmd with allocatorDumps := pmd.allocatorDumps.insert n (f mad) }
    | none => pmd
  | .blackHole => { pmd with blackHoleMad := pmd.blackHoleMad.map f }

def createSharedGlobalAllocatorDump (pmd : ProcessMemoryDump) (guid : MemoryAllocatorDumpGuid) :
    MadRef × ProcessMemoryDump :=
  match pmd.getSharedGlobalAllocatorDump col guid with
  | some mad =>
    if mad ≠ .blackHole then (mad, pmd.modifyDump (fun d => { d with weak := false }) mad)
    else pmd.createAllocatorDumpWithGuid col (getSharedGlobalAllocatorDumpName col guid) guid
  | none => pmd.createAllocatorDumpWithGuid col (getSharedGlobalAllocatorDumpName col guid) guid

def createWeakSharedGlobalAllocatorDump (pmd : ProcessMemoryDump)
    (guid : MemoryAllocatorDumpGuid) : MadRef × ProcessMemoryDump :=
  let created := pmd.createAllocatorDumpWithGuid col (getSharedGlobalAllocatorDumpName col guid) guid
  let weak := (created.1, created.2.modifyDump (fun d => { d with weak := true }) created.1)
  match pmd.getSharedGlobalAllocatorDump col guid with
  | some mad => if mad ≠ .blackHole then (mad, pmd) else weak
  | none => weak

def setAllocatorDumpsForSerialization (pmd : ProcessMemoryDump) (dumps : List MemoryAllocatorDump) :
    ProcessMemoryDump :=
  dumps.foldl (fun pmd mad => (pmd.addAllocatorDumpInternal col mad).2) pmd

def dumpsInKeyOrder (pmd : ProcessMemoryDump) : List (Σ _ : String, MemoryAllocatorDump) :=
  pmd.allocatorDumps.entries.insertionSort fun a b => a.1 ≤ b.1

/-- The entries of `allocator_dumps_edges_` in the map's order: by
`MemoryAllocatorDumpGuid::operator<`, which compares `ToUint64()`. -/
def edgesInKeyOrder (pmd : ProcessMemoryDump) :
    List (Σ _ : MemoryAllocatorDumpGuid, MemoryAllocatorDumpEdge) :=
  pmd.allocatorDumpsEdges.entries.insertionSort fun a b => a.1.toUint64 ≤ b.1.toUint64

def getAllEdgesForSerialization (pmd : ProcessMemoryDump) : List MemoryAllocatorDumpEdge :=
  pmd.edgesInKeyOrder.map (·.2)

/-- `emplace(edge.source, edge)` for each edge: the first edge of a source wins. -/
def setAllEdgesForSerialization (pmd : ProcessMemoryDump) (edges : List MemoryAllocatorDumpEdge) :
    ProcessMemoryDump :=
  edges.foldl (fun pmd edge => if edge.source ∈ pmd.allocatorDumpsEdges then pmd
    else { pmd with allocatorDumpsEdges := pmd.allocatorDumpsEdges.insert edge.source edge }) pmd

def serializeAllocatorDumpsInto (pmd : ProcessMemoryDump) : List TracedValueCall :=
  (if pmd.allocatorDumps.entries.length > 0 then
      .beginDictionary "allocators" :: pmd.dumpsInKeyOrder.map (fun it => .asValueInto it.2) ++
        [.endDictionary]
    else []) ++
  .beginArray "allocators_graph" :: pmd.edgesInKeyOrder.flatMap (fun it =>
      [.beginDictionaryInArray, .setString "source" (col.guidToString it.2.source),
        .setString "target" (col.guidToString it.2.target), .setInteger "importance" it.2.importance,
        .setString "type" kEdgeTypeOwnership, .endDictionary]) ++
    [.endArray]

def clear (pmd : ProcessMemoryDump) : ProcessMemoryDump :=
  { pmd with allocatorDumps := ∅, allocatorDumpsEdges := ∅ }

/-- `this->TakeAllDumpsFrom(other)`: the new `this`, then the new `other`. The
edges move by `std::map::insert` of a range, which keeps the edge `this`
holds for a source both have. -/
def takeAllDumpsFrom (pmd other : ProcessMemoryDump) : ProcessMemoryDump × ProcessMemoryDump :=
  let pmd := other.allocatorDumps.entries.foldl
    (fun pmd entry => (pmd.addAllocatorDumpInternal col entry.2).2) pmd
  ({ pmd with allocatorDumpsEdges := pmd.allocatorDumpsEdges ∪ other.allocatorDumpsEdges },
    { other with allocatorDumps := ∅, allocatorDumpsEdges := ∅ })

def addOwnershipEdge (pmd : ProcessMemoryDump) (source target : MemoryAllocatorDumpGuid)
    (importance : Int) : ProcessMemoryDump :=
  let maxImportance := match pmd.allocatorDumpsEdges.lookup source with
    | some edge => max importance edge.importance
    | none => importance
  { pmd with allocatorDumpsEdges :=
      pmd.allocatorDumpsEdges.insert source ⟨source, target, maxImportance, false⟩ }

def addOverridableOwnershipEdge (pmd : ProcessMemoryDump) (source target : MemoryAllocatorDumpGuid)
    (importance : Int) : ProcessMemoryDump :=
  if source ∉ pmd.allocatorDumpsEdges then
    { pmd with allocatorDumpsEdges :=
        pmd.allocatorDumpsEdges.insert source ⟨source, target, importance, true⟩ }
  else pmd

/-- Both edges are strong; `is_weak` is not used yet (a `TODO` in the source). -/
def createSharedMemoryOwnershipEdgeInternal (pmd : ProcessMemoryDump)
    (clientLocalDumpGuid : MemoryAllocatorDumpGuid) (sharedMemoryGuid : Token) (importance : Int)
    (_isWeak : Bool) : ProcessMemoryDump :=
  let localShmGuid := pmd.getDumpId col (col.dumpNameForTracing sharedMemoryGuid)
  let globalShmGuid := col.globalDumpIdForTracing sharedMemoryGuid
  (pmd.addOwnershipEdge clientLocalDumpGuid localShmGuid importance).addOwnershipEdge
    localShmGuid globalShmGuid importance

def createSharedMemoryOwnershipEdge (pmd : ProcessMemoryDump)
    (clientLocalDumpGuid : MemoryAllocatorDumpGuid) (sharedMemoryGuid : Token) (importance : Int) :
    ProcessMemoryDump :=
  pmd.createSharedMemoryOwnershipEdgeInternal col clientLocalDumpGuid sharedMemoryGuid importance false

def createWeakSharedMemoryOwnershipEdge (pmd : ProcessMemoryDump)
    (clientLocalDumpGuid : MemoryAllocatorDumpGuid) (sharedMemoryGuid : Token) (importance : Int) :
    ProcessMemoryDump :=
  pmd.createSharedMemoryOwnershipEdgeInternal col clientLocalDumpGuid sharedMemoryGuid importance true

/-- The dump the suballocation creates is read back through its pointer for
its guid; a dangling pointer, which `createAllocatorDump` never returns,
would leave the dump as it is. -/
def addSuballocation (pmd : ProcessMemoryDump) (source : MemoryAllocatorDumpGuid)
    (targetNodeName : String) : ProcessMemoryDump :=
  if pmd.levelOfDetail = .background then pmd
  else
    let childMadName := targetNodeName ++ "/__" ++ col.guidToString source
    let targetChildMad := pmd.createAllocatorDump col childMadName
    match targetChildMad.2.deref targetChildMad.1 with
    | some mad => targetChildMad.2.addOwnershipEdge source mad.guid 0
    | none => targetChildMad.2

-- ---------------------------------------------------------------------------
-- Frames
-- ---------------------------------------------------------------------------

/-- `pmd'` differs from `pmd` at most in its dumps and its black hole: what a
call that only creates or flags dumps may change. -/
structure DumpFrame (pmd pmd' : ProcessMemoryDump) : Prop where
  processToken : pmd'.processToken = pmd.processToken
  levelOfDetail : pmd'.levelOfDetail = pmd.levelOfDetail
  allocatorDumpsEdges : pmd'.allocatorDumpsEdges = pmd.allocatorDumpsEdges

theorem DumpFrame.refl (pmd : ProcessMemoryDump) : DumpFrame pmd pmd := ⟨rfl, rfl, rfl⟩

theorem DumpFrame.config {pmd pmd' : ProcessMemoryDump} (h : DumpFrame pmd pmd') :
    pmd'.processToken = pmd.processToken ∧ pmd'.levelOfDetail = pmd.levelOfDetail :=
  ⟨h.processToken, h.levelOfDetail⟩

theorem DumpFrame.trans {p₁ p₂ p₃ : ProcessMemoryDump} (h₁ : DumpFrame p₁ p₂) (h₂ : DumpFrame p₂ p₃) :
    DumpFrame p₁ p₃ :=
  ⟨h₂.processToken.trans h₁.processToken, h₂.levelOfDetail.trans h₁.levelOfDetail,
    h₂.allocatorDumpsEdges.trans h₁.allocatorDumpsEdges⟩

theorem getBlackHoleMad_frame (pmd : ProcessMemoryDump) : DumpFrame pmd (pmd.getBlackHoleMad col).2 := by
  unfold getBlackHoleMad
  split <;> exact ⟨rfl, rfl, rfl⟩

theorem addAllocatorDumpInternal_frame (pmd : ProcessMemoryDump) (mad : MemoryAllocatorDump) :
    DumpFrame pmd (pmd.addAllocatorDumpInternal col mad).2 := by
  unfold addAllocatorDumpInternal
  split
  · exact getBlackHoleMad_frame col pmd
  · split <;> exact ⟨rfl, rfl, rfl⟩

theorem modifyDump_frame (pmd : ProcessMemoryDump) (f : MemoryAllocatorDump → MemoryAllocatorDump)
    (ref : MadRef) : DumpFrame pmd (pmd.modifyDump f ref) := by
  cases ref with
  | allocatorDump n =>
    simp only [modifyDump]
    cases pmd.allocatorDumps.lookup n <;> exact ⟨rfl, rfl, rfl⟩
  | blackHole => exact ⟨rfl, rfl, rfl⟩

theorem createAllocatorDump_frame (pmd : ProcessMemoryDump) (n : String) :
    DumpFrame pmd (pmd.createAllocatorDump col n).2 :=
  addAllocatorDumpInternal_frame col pmd _

theorem createAllocatorDumpWithGuid_frame (pmd : ProcessMemoryDump) (n : String)
    (g : MemoryAllocatorDumpGuid) : DumpFrame pmd (pmd.createAllocatorDumpWithGuid col n g).2 :=
  addAllocatorDumpInternal_frame col pmd _

theorem getOrCreateAllocatorDump_frame (pmd : ProcessMemoryDump) (n : String) :
    DumpFrame pmd (pmd.getOrCreateAllocatorDump col n).2 := by
  unfold getOrCreateAllocatorDump
  split
  · exact .refl pmd
  · exact createAllocatorDump_frame col pmd n

theorem createSharedGlobalAllocatorDump_frame (pmd : ProcessMemoryDump) (g : MemoryAllocatorDumpGuid) :
    DumpFrame pmd (pmd.createSharedGlobalAllocatorDump col g).2 := by
  unfold createSharedGlobalAllocatorDump
  split
  · split
    · exact modifyDump_frame pmd _ _
    · exact createAllocatorDumpWithGuid_frame col pmd _ g
  · exact createAllocatorDumpWithGuid_frame col pmd _ g

theorem createWeakSharedGlobalAllocatorDump_frame (pmd : ProcessMemoryDump)
    (g : MemoryAllocatorDumpGuid) : DumpFrame pmd (pmd.createWeakSharedGlobalAllocatorDump col g).2 := by
  have hw := (createAllocatorDumpWithGuid_frame col pmd (getSharedGlobalAllocatorDumpName col g) g).trans
    (modifyDump_frame _ (fun d => { d with weak := true })
      (pmd.createAllocatorDumpWithGuid col (getSharedGlobalAllocatorDumpName col g) g).1)
  unfold createWeakSharedGlobalAllocatorDump
  split
  · split
    · exact .refl pmd
    · exact hw
  · exact hw

-- ---------------------------------------------------------------------------
-- The dump map
-- ---------------------------------------------------------------------------

@[simp] theorem getBlackHoleMad_allocatorDumps (pmd : ProcessMemoryDump) :
    (pmd.getBlackHoleMad col).2.allocatorDumps = pmd.allocatorDumps := by
  unfold getBlackHoleMad
  split <;> rfl

theorem addAllocatorDumpInternal_allocatorDumps (pmd : ProcessMemoryDump)
    (mad : MemoryAllocatorDump) :
    (pmd.addAllocatorDumpInternal col mad).2.allocatorDumps =
      if pmd.diverts col mad.absoluteName = false ∧ mad.absoluteName ∉ pmd.allocatorDumps then
        pmd.allocatorDumps.insert mad.absoluteName mad
      else pmd.allocatorDumps := by
  unfold addAllocatorDumpInternal
  by_cases hd : pmd.diverts col mad.absoluteName <;>
    by_cases hm : mad.absoluteName ∈ pmd.allocatorDumps <;> simp [hd, hm]

theorem addAllocatorDumpInternal_ref (pmd : ProcessMemoryDump) (mad : MemoryAllocatorDump)
    (h : pmd.diverts col mad.absoluteName = false) :
    (pmd.addAllocatorDumpInternal col mad).1 = .allocatorDump mad.absoluteName := by
  unfold addAllocatorDumpInternal
  simp only [h, Bool.false_eq_true, if_false]
  split <;> rfl

theorem lookup_addAllocatorDumpInternal_ne (pmd : ProcessMemoryDump) (mad : MemoryAllocatorDump)
    {n : String} (h : n ≠ mad.absoluteName) :
    (pmd.addAllocatorDumpInternal col mad).2.allocatorDumps.lookup n =
      pmd.allocatorDumps.lookup n := by
  rw [addAllocatorDumpInternal_allocatorDumps]
  split
  · exact AList.lookup_insert_ne h
  · rfl

theorem lookup_modifyDump (pmd : ProcessMemoryDump) (f : MemoryAllocatorDump → MemoryAllocatorDump)
    (ref : MadRef) (n : String) :
    (pmd.modifyDump f ref).allocatorDumps.lookup n =
      if ref = .allocatorDump n then (pmd.allocatorDumps.lookup n).map f
      else pmd.allocatorDumps.lookup n := by
  cases ref with
  | blackHole => rfl
  | allocatorDump m =>
    simp only [modifyDump, MadRef.allocatorDump.injEq]
    by_cases hmn : m = n
    · subst hmn
      cases h : pmd.allocatorDumps.lookup m <;> simp [h, AList.lookup_insert]
    · cases pmd.allocatorDumps.lookup m <;> simp [hmn, AList.lookup_insert_ne (Ne.symm hmn)]

-- ---------------------------------------------------------------------------
-- Calls on one dump
-- ---------------------------------------------------------------------------

/-- The calls that add dumps and edges to one dump. The two-argument
`AddOwnershipEdge(source, target)` is `addOwnershipEdge source target 0`. -/
inductive Op (Token : Type)
  | createAllocatorDump (absoluteName : String)
  | createAllocatorDumpWithGuid (absoluteName : String) (guid : MemoryAllocatorDumpGuid)
  | getOrCreateAllocatorDump (absoluteName : String)
  | createSharedGlobalAllocatorDump (guid : MemoryAllocatorDumpGuid)
  | createWeakSharedGlobalAllocatorDump (guid : MemoryAllocatorDumpGuid)
  | addOwnershipEdge (source target : MemoryAllocatorDumpGuid) (importance : Int)
  | addOverridableOwnershipEdge (source target : MemoryAllocatorDumpGuid) (importance : Int)
  | createSharedMemoryOwnershipEdge (clientLocalDumpGuid : MemoryAllocatorDumpGuid)
      (sharedMemoryGuid : Token) (importance : Int)
  | createWeakSharedMemoryOwnershipEdge (clientLocalDumpGuid : MemoryAllocatorDumpGuid)
      (sharedMemoryGuid : Token) (importance : Int)
  | addSuballocation (source : MemoryAllocatorDumpGuid) (targetNodeName : String)

def step (pmd : ProcessMemoryDump) : Op Token → Option MadRef × ProcessMemoryDump
  | .createAllocatorDump n => (some (pmd.createAllocatorDump col n).1, (pmd.createAllocatorDump col n).2)
  | .createAllocatorDumpWithGuid n g =>
    (some (pmd.createAllocatorDumpWithGuid col n g).1, (pmd.createAllocatorDumpWithGuid col n g).2)
  | .getOrCreateAllocatorDump n =>
    (some (pmd.getOrCreateAllocatorDump col n).1, (pmd.getOrCreateAllocatorDump col n).2)
  | .createSharedGlobalAllocatorDump g =>
    (some (pmd.createSharedGlobalAllocatorDump col g).1, (pmd.createSharedGlobalAllocatorDump col g).2)
  | .createWeakSharedGlobalAllocatorDump g =>
    (some (pmd.createWeakSharedGlobalAllocatorDump col g).1,
      (pmd.createWeakSharedGlobalAllocatorDump col g).2)
  | .addOwnershipEdge s t i => (none, pmd.addOwnershipEdge s t i)
  | .addOverridableOwnershipEdge s t i => (none, pmd.addOverridableOwnershipEdge s t i)
  | .createSharedMemoryOwnershipEdge c m i => (none, pmd.createSharedMemoryOwnershipEdge col c m i)
  | .createWeakSharedMemoryOwnershipEdge c m i =>
    (none, pmd.createWeakSharedMemoryOwnershipEdge col c m i)
  | .addSuballocation s n => (none, pmd.addSuballocation col s n)

def run (pmd : ProcessMemoryDump) : List (Op Token) → List (Option MadRef) × ProcessMemoryDump
  | [] => ([], pmd)
  | op :: ops => ((pmd.step col op).1 :: ((pmd.step col op).2.run ops).1,
      ((pmd.step col op).2.run ops).2)

theorem step_processToken_levelOfDetail (pmd : ProcessMemoryDump) (op : Op Token) :
    (pmd.step col op).2.processToken = pmd.processToken ∧
      (pmd.step col op).2.levelOfDetail = pmd.levelOfDetail := by
  cases op with
  | createAllocatorDump n => exact (createAllocatorDump_frame col pmd n).config
  | createAllocatorDumpWithGuid n g => exact (createAllocatorDumpWithGuid_frame col pmd n g).config
  | getOrCreateAllocatorDump n => exact (getOrCreateAllocatorDump_frame col pmd n).config
  | createSharedGlobalAllocatorDump g => exact (createSharedGlobalAllocatorDump_frame col pmd g).config
  | createWeakSharedGlobalAllocatorDump g =>
    exact (createWeakSharedGlobalAllocatorDump_frame col pmd g).config
  | addOwnershipEdge | createSharedMemoryOwnershipEdge | createWeakSharedMemoryOwnershipEdge =>
    exact ⟨rfl, rfl⟩
  | addOverridableOwnershipEdge s t i =>
    simp only [step, addOverridableOwnershipEdge]
    split <;> exact ⟨rfl, rfl⟩
  | addSuballocation s n =>
    simp only [step, addSuballocation]
    split
    · exact ⟨rfl, rfl⟩
    · split <;> exact (createAllocatorDump_frame col pmd _).config

theorem step_levelOfDetail (pmd : ProcessMemoryDump) (op : Op Token) :
    (pmd.step col op).2.levelOfDetail = pmd.levelOfDetail :=
  (step_processToken_levelOfDetail col pmd op).2

end ProcessMemoryDump

def sampleCollaborators : Collaborators Nat where
  guidToString g := toString g.toUint64.toNat
  guidOfString n := ⟨n.length.toUInt64⟩
  isWhitelisted _ := false
  dumpNameForTracing m := "shared_memory/" ++ toString m
  globalDumpIdForTracing m := ⟨m.toUInt64⟩

end

end BaseLib.TraceEvent
