import Mathlib.Data.List.Basic

/-!
# `InitializeICU` with the data in a file

`icu_util.cpp` built with `ICU_UTIL_DATA_IMPL == ICU_UTIL_DATA_FILE`, with
`DCHECK`s compiled out. The globals of its anonymous namespace are a record;
each entry point takes them and returns them, or ends the process through a
failed `CHECK` or a `wcscpy_s` that does not fit: `Except.error` holds the
globals the crash dump then sees. What a call sees of the rest of the system (`PathService`,
`File`, `MemoryMappedFile`, ICU's `udata_*`) is an `IcuEnv` of its own, so a
run may see the system change between calls.

From any state the program reaches, `InitializeICU` ends the process or
returns `true` with the data file mapped; once it is mapped, later calls
return `true` and change nothing but `g_debug_icu_load`
(`initializeICU_idempotent`). A handle once opened and a file once mapped are
never replaced, over any run of the entry points (`run_keeps_data_file`).
-/

namespace BaseLib.I18n

/-- A `PlatformFile` other than `kInvalidPlatformFile`. -/
structure PlatformFile where
  handle : Nat
  deriving DecidableEq, Repr

/-- A `const uint8_t*`. -/
abbrev DataPtr := Nat

structure Region where
  offset : Int
  size : Nat
  deriving DecidableEq, Repr

/-- `MemoryMappedFile::Region::kWholeFile`, declared outside these sources:
its value here is a stand-in. The code only stores it in `g_icudtl_region` and
hands it to `MemoryMappedFile::Initialize`, an oracle of the model, so no
result depends on it. -/
def Region.kWholeFile : Region := ⟨0, 18446744073709551615⟩

def kIcuDataFileName : String := "icudtl.dat"

/-- `_MAX_PATH`, the size of the `wchar_t` buffers kept for crash dumps. -/
def maxPath : Nat := 260

/-- The `wchar_t` units of a string: UTF-16, two for a character outside the
Basic Multilingual Plane. -/
def wcharCount (s : String) : Nat :=
  s.toList.foldl (fun n c => n + if c.toNat < 0x10000 then 1 else 2) 0

/-- `wcscpy_s` into a `wchar_t[_MAX_PATH]`: a source that does not fit with
its terminator makes the invalid-parameter handler end the process. -/
def wcscpyS (src : String) : Option String :=
  if wcharCount src < maxPath then some src else none

structure IcuEnv where
  /-- `PathService::Get(DIR_ASSETS, &data_path)`. -/
  assetsDir : Option String
  /-- `FilePath::AppendASCII`. -/
  appendASCII : String → String → String
  /-- `File(path, FLAG_OPEN | FLAG_READ)`: its platform file, or
  `::GetLastError()` and `error_details()`. -/
  openFile : String → Except (Int × Int) PlatformFile
  /-- `MemoryMappedFile::Initialize(File(fd), region)`: the address of the
  data when it succeeds. -/
  mapFile : PlatformFile → Region → Option DataPtr
  /-- The `UErrorCode` `udata_setCommonData(data, &err)` leaves in a
  `U_ZERO_ERROR`. -/
  setCommonData : DataPtr → Int
  /-- The `UErrorCode` `udata_setFileAccess(UDATA_ONLY_PACKAGES, &err)` leaves. -/
  setFileAccess : Int → Int

/-- The globals of `icu_util.cpp`, and the data ICU has been handed. -/
structure IcuGlobals where
  debugIcuLastError : Int
  debugIcuLoad : Int
  debugIcuPfErrorDetails : Int
  debugIcuPfLastError : Int
  debugIcuPfFilename : String
  /-- `g_icudtl_pf`; `none` is `kInvalidPlatformFile`. -/
  icudtlPf : Option PlatformFile
  /-- `g_icudtl_mapped_file`, by the address of its data. -/
  icudtlMappedFile : Option DataPtr
  icudtlRegion : Region
  /-- The data handed to `udata_setCommonData`, oldest first. -/
  commonData : List DataPtr
  deriving Repr

def IcuGlobals.initial : IcuGlobals := ⟨0, 0, 0, 0, "", none, none, ⟨0, 0⟩, []⟩

def lazyInitIcuDataFile (env : IcuEnv) (g : IcuGlobals) : Except IcuGlobals IcuGlobals :=
  if g.icudtlPf.isSome then .ok g
  else match env.assetsDir with
  | none => .ok g
  | some dir =>
    let dataPath := env.appendASCII dir kIcuDataFileName
    -- the copies into `tmp_buffer` and `tmp_buffer2`
    if (wcscpyS dir).isNone || (wcscpyS dataPath).isNone then .error g
    else match env.openFile dataPath with
    | .ok fd => .ok { g with
        debugIcuPfLastError := 0
        debugIcuPfErrorDetails := 0
        debugIcuPfFilename := ""
        icudtlPf := some fd
        icudtlRegion := Region.kWholeFile }
    -- `dataPath` fits `g_debug_icu_pf_filename`, as it fit `tmp_buffer2`
    | .error (lastError, errorDetails) => .ok { g with
        debugIcuPfLastError := lastError
        debugIcuPfErrorDetails := errorDetails
        debugIcuPfFilename := dataPath }

def initializeICUWithFileDescriptorInternal (env : IcuEnv) (dataFd : Option PlatformFile)
    (dataRegion : Region) (g : IcuGlobals) : Bool × IcuGlobals :=
  if g.icudtlMappedFile.isSome then (true, { g with debugIcuLoad := 0 })
  else match dataFd with
  | none => (false, { g with debugIcuLoad := 1 })
  | some fd => match env.mapFile fd dataRegion with
    | none => (false, { g with debugIcuLoad := 2 })
    | some data =>
      let err := env.setCommonData data
      let g := { g with icudtlMappedFile := some data, commonData := g.commonData ++ [data] }
      let g := if err ≠ 0 then { g with debugIcuLoad := 3, debugIcuLastError := err } else g
      (env.setFileAccess err == 0, g)

def getRawIcuMemory (g : IcuGlobals) : Except IcuGlobals (DataPtr × IcuGlobals) :=
  match g.icudtlMappedFile with
  | some data => .ok (data, g)
  | none => .error g

def initializeICUFromRawMemory (env : IcuEnv) (rawMemory : DataPtr) (g : IcuGlobals) :
    Bool × IcuGlobals :=
  (env.setFileAccess (env.setCommonData rawMemory) == 0,
    { g with commonData := g.commonData ++ [rawMemory] })

/-- The locals copied for `debug::Alias` change no global; `CHECK(result)`
ends the process on `false`. -/
def initializeICU (env : IcuEnv) (g : IcuGlobals) : Except IcuGlobals (Bool × IcuGlobals) := do
  let g ← lazyInitIcuDataFile env g
  let (result, g) := initializeICUWithFileDescriptorInternal env g.icudtlPf g.icudtlRegion g
  if result then pure (true, g) else throw g

-- ---------------------------------------------------------------------------
-- Runs
-- ---------------------------------------------------------------------------

inductive IcuCall
  | initializeICU (env : IcuEnv)
  | initializeICUFromRawMemory (env : IcuEnv) (rawMemory : DataPtr)
  | getRawIcuMemory

inductive IcuReply
  | result (ok : Bool)
  | rawMemory (data : DataPtr)
  deriving DecidableEq, Repr

def call (g : IcuGlobals) : IcuCall → Except IcuGlobals (IcuReply × IcuGlobals)
  | .initializeICU env => (initializeICU env g).map fun r => (.result r.1, r.2)
  | .initializeICUFromRawMemory env raw =>
    .ok (.result (initializeICUFromRawMemory env raw g).1, (initializeICUFromRawMemory env raw g).2)
  | .getRawIcuMemory => (getRawIcuMemory g).map fun r => (.rawMemory r.1, r.2)

def run (g : IcuGlobals) : List IcuCall → Except IcuGlobals (List IcuReply × IcuGlobals)
  | [] => .ok ([], g)
  | c :: cs => do
    let (r, g) ← call g c
    let (rs, g) ← run g cs
    pure (r :: rs, g)

inductive Reachable : IcuGlobals → Prop
  | initial : Reachable IcuGlobals.initial
  | call {g g' : IcuGlobals} {r : IcuReply} (c : IcuCall) :
      Reachable g → call g c = .ok (r, g') → Reachable g'

-- ---------------------------------------------------------------------------
-- One call
-- ---------------------------------------------------------------------------

def Keeps {β : Type} (f : IcuGlobals → Option β) (g g' : IcuGlobals) : Prop :=
  ∀ b, f g = some b → f g' = some b

theorem Keeps.refl {β : Type} (f : IcuGlobals → Option β) (g : IcuGlobals) : Keeps f g g :=
  fun _ h => h

theorem Keeps.trans {β : Type} {f : IcuGlobals → Option β} {g g' g'' : IcuGlobals}
    (h : Keeps f g g') (h' : Keeps f g' g'') : Keeps f g g'' :=
  fun b hb => h' b (h b hb)

theorem keeps_of_none {β : Type} {f : IcuGlobals → Option β} {g : IcuGlobals} (h : (f g).isSome = false)
    (g' : IcuGlobals) : Keeps f g g' :=
  fun _ hb => by simp only [hb, Option.isSome_some, Bool.true_eq_false] at h

theorem lazyInitIcuDataFile_keeps {env : IcuEnv} {g g' : IcuGlobals}
    (h : lazyInitIcuDataFile env g = .ok g') :
    Keeps (·.icudtlPf) g g' ∧ g'.icudtlMappedFile = g.icudtlMappedFile := by
  unfold lazyInitIcuDataFile at h
  split at h
  · cases h
    exact ⟨Keeps.refl _ _, rfl⟩
  · rename_i hpf
    have hkeep := keeps_of_none (Bool.not_eq_true _ ▸ hpf) g'
    split at h
    · cases h
      exact ⟨hkeep, rfl⟩
    · dsimp only at h
      split at h
      · cases h
      · split at h <;> cases h <;> exact ⟨hkeep, rfl⟩

theorem initializeICUWithFileDescriptorInternal_spec (env : IcuEnv) (dataFd : Option PlatformFile)
    (dataRegion : Region) (g : IcuGlobals) :
    (initializeICUWithFileDescriptorInternal env dataFd dataRegion g).2.icudtlPf = g.icudtlPf ∧
    Keeps (·.icudtlMappedFile) g (initializeICUWithFileDescriptorInternal env dataFd dataRegion g).2 ∧
    ((initializeICUWithFileDescriptorInternal env dataFd dataRegion g).1 = true →
      (initializeICUWithFileDescriptorInternal env dataFd dataRegion g).2.icudtlMappedFile.isSome) ∧
    ((initializeICUWithFileDescriptorInternal env dataFd dataRegion g).2.icudtlMappedFile.isSome →
      g.icudtlMappedFile.isSome ∨ dataFd.isSome) := by
  unfold initializeICUWithFileDescriptorInternal
  split
  · rename_i hm
    exact ⟨rfl, Keeps.refl _ _, fun _ => hm, fun _ => .inl hm⟩
  · rename_i hm
    have hkeep := keeps_of_none (Bool.not_eq_true _ ▸ hm)
    split
    · exact ⟨rfl, hkeep _, fun h => absurd h Bool.false_ne_true, .inl⟩
    · split
      · exact ⟨rfl, hkeep _, fun h => absurd h Bool.false_ne_true, .inl⟩
      · dsimp only
        split <;> exact ⟨rfl, hkeep _, fun _ => rfl, fun _ => .inr rfl⟩

theorem initializeICU_eq_ok {env : IcuEnv} {g g' : IcuGlobals} {r : Bool} :
    initializeICU env g = .ok (r, g') ↔ r = true ∧ ∃ g₁, lazyInitIcuDataFile env g = .ok g₁ ∧
      initializeICUWithFileDescriptorInternal env g₁.icudtlPf g₁.icudtlRegion g₁ = (true, g') := by
  unfold initializeICU
  cases lazyInitIcuDataFile env g with
  | error _ => simp [bind, Except.bind]
  | ok g₁ =>
    cases hi : initializeICUWithFileDescriptorInternal env g₁.icudtlPf g₁.icudtlRegion g₁ with
    | mk b g₂ => cases b <;> simp [hi, bind, Except.bind, pure, Except.pure, throw, throwThe,
      MonadExceptOf.throw]

theorem initializeICU_keeps {env : IcuEnv} {g g' : IcuGlobals} {r : Bool}
    (h : initializeICU env g = .ok (r, g')) :
    Keeps (·.icudtlPf) g g' ∧ Keeps (·.icudtlMappedFile) g g' := by
  obtain ⟨-, g₁, hl, hi⟩ := initializeICU_eq_ok.1 h
  obtain ⟨hpf, hmapped⟩ := lazyInitIcuDataFile_keeps hl
  obtain ⟨hpf', hmapped', -⟩ := initializeICUWithFileDescriptorInternal_spec env g₁.icudtlPf g₁.icudtlRegion g₁
  rw [hi] at hpf' hmapped'
  exact ⟨fun b hb => hpf'.trans (hpf b hb), fun b hb => hmapped' b (hmapped.trans hb)⟩

theorem initializeICU_ok {env : IcuEnv} {g g' : IcuGlobals} {r : Bool}
    (h : initializeICU env g = .ok (r, g')) : r = true ∧ g'.icudtlMappedFile.isSome := by
  obtain ⟨hr, g₁, -, hi⟩ := initializeICU_eq_ok.1 h
  have hmapped := (initializeICUWithFileDescriptorInternal_spec env g₁.icudtlPf g₁.icudtlRegion g₁).2.2.1
  rw [hi] at hmapped
  exact ⟨hr, hmapped rfl⟩

theorem call_cases {g g' : IcuGlobals} {c : IcuCall} {r : IcuReply} (h : call g c = .ok (r, g')) :
    (∃ env, c = .initializeICU env ∧ initializeICU env g = .ok (true, g')) ∨
    (∃ env raw, c = .initializeICUFromRawMemory env raw ∧
      g' = { g with commonData := g.commonData ++ [raw] }) ∨
    (c = .getRawIcuMemory ∧ g' = g) := by
  cases c with
  | initializeICU env =>
    cases hi : initializeICU env g with
    | error _ => simp only [call, hi, Except.map] at h; cases h
    | ok p =>
      simp only [call, hi, Except.map, Except.ok.injEq, Prod.mk.injEq] at h
      obtain ⟨-, rfl⟩ := h
      exact .inl ⟨env, rfl, (initializeICU_ok hi).1 ▸ hi⟩
  | initializeICUFromRawMemory env raw =>
    simp only [call, Except.ok.injEq, Prod.mk.injEq] at h
    exact .inr (.inl ⟨env, raw, rfl, h.2.symm⟩)
  | getRawIcuMemory =>
    simp only [call, getRawIcuMemory] at h
    split at h <;> simp only [Except.map, Except.ok.injEq, Prod.mk.injEq, reduceCtorEq] at h
    exact .inr (.inr ⟨rfl, h.2.symm⟩)

theorem call_keeps {g g' : IcuGlobals} {c : IcuCall} {r : IcuReply} (h : call g c = .ok (r, g')) :
    Keeps (·.icudtlPf) g g' ∧ Keeps (·.icudtlMappedFile) g g' := by
  rcases call_cases h with ⟨env, -, hi⟩ | ⟨env, raw, -, rfl⟩ | ⟨-, rfl⟩
  · exact initializeICU_keeps hi
  · exact ⟨Keeps.refl (·.icudtlPf) g, Keeps.refl (·.icudtlMappedFile) g⟩
  · exact ⟨Keeps.refl _ _, Keeps.refl _ _⟩

-- ---------------------------------------------------------------------------
-- Reachable states
-- ---------------------------------------------------------------------------

def MappedHasFile (g : IcuGlobals) : Prop := g.icudtlMappedFile.isSome → g.icudtlPf.isSome

theorem mappedHasFile_initializeICU {env : IcuEnv} {g g' : IcuGlobals} {r : Bool}
    (h : initializeICU env g = .ok (r, g')) (hg : MappedHasFile g) : MappedHasFile g' := by
  obtain ⟨-, g₁, hl, hi⟩ := initializeICU_eq_ok.1 h
  obtain ⟨hpf, hmapped⟩ := lazyInitIcuDataFile_keeps hl
  obtain ⟨hpf', -, -, hfrom⟩ := initializeICUWithFileDescriptorInternal_spec env g₁.icudtlPf g₁.icudtlRegion g₁
  rw [hi] at hpf' hfrom
  intro hm
  rw [hpf']
  rcases hfrom hm with hm₁ | hfd
  · obtain ⟨b, hb⟩ := Option.isSome_iff_exists.1 (hg (hmapped ▸ hm₁))
    exact Option.isSome_iff_exists.2 ⟨b, hpf b hb⟩
  · exact hfd

theorem Reachable.mappedHasFile {g : IcuGlobals} (h : Reachable g) : MappedHasFile g := by
  induction h with
  | initial => exact fun h => absurd h Bool.false_ne_true
  | call c _ hc ih =>
    rcases call_cases hc with ⟨env, -, hi⟩ | ⟨env, raw, -, rfl⟩ | ⟨-, rfl⟩
    · exact mappedHasFile_initializeICU hi ih
    · exact ih
    · exact ih

theorem initializeICU_of_mapped (env : IcuEnv) {g : IcuGlobals} (hg : MappedHasFile g)
    (hm : g.icudtlMappedFile.isSome) :
    initializeICU env g = .ok (true, { g with debugIcuLoad := 0 }) :=
  initializeICU_eq_ok.2 ⟨rfl, g, by simp only [lazyInitIcuDataFile, hg hm, if_true],
    by simp only [initializeICUWithFileDescriptorInternal, hm, if_true]⟩

/-- From any state the program reaches, `InitializeICU` ends the process or
returns `true` with the data file mapped; once the file is mapped, it returns
`true` whatever it would see of the system, hands ICU nothing and changes no
global but `g_debug_icu_load`, which it sets to `0`. -/
theorem initializeICU_idempotent {g : IcuGlobals} (hg : Reachable g) (env : IcuEnv) :
    (∀ r g', initializeICU env g = .ok (r, g') → r = true ∧ g'.icudtlMappedFile.isSome) ∧
    (g.icudtlMappedFile.isSome → initializeICU env g = .ok (true, { g with debugIcuLoad := 0 })) :=
  ⟨fun _ _ h => initializeICU_ok h, initializeICU_of_mapped env hg.mappedHasFile⟩

def sampleIcuEnv : IcuEnv where
  assetsDir := some "C:\\app"
  appendASCII dir name := dir ++ "\\" ++ name
  openFile _ := .ok ⟨3⟩
  mapFile _ _ := some 4096
  setCommonData _ := 0
  setFileAccess err := err

/-- The globals after a first `InitializeICU` on `sampleIcuEnv`. -/
def mappedGlobals : IcuGlobals := ⟨0, 0, 0, 0, "", some ⟨3⟩, some 4096, Region.kWholeFile, [4096]⟩

/-- After a first `InitializeICU` on `sampleIcuEnv`, a second one that would
not even find the assets directory. -/
theorem initializeICU_idempotent_sample :
    (∀ r g', initializeICU { sampleIcuEnv with assetsDir := none } mappedGlobals = .ok (r, g') →
      r = true ∧ g'.icudtlMappedFile.isSome) ∧
    (mappedGlobals.icudtlMappedFile.isSome →
      initializeICU { sampleIcuEnv with assetsDir := none } mappedGlobals =
        .ok (true, { mappedGlobals with debugIcuLoad := 0 })) :=
  initializeICU_idempotent (@Reachable.call _ mappedGlobals (.result true) (.initializeICU sampleIcuEnv) .initial rfl) _

/-- Along any run of the entry points that does not end the process, a data
file handle once opened and a data file once mapped are never replaced. -/
theorem run_keeps_data_file {g g' : IcuGlobals} {cs : List IcuCall} {rs : List IcuReply}
    (h : run g cs = .ok (rs, g')) :
    (∀ fd, g.icudtlPf = some fd → g'.icudtlPf = some fd) ∧
    (∀ data, g.icudtlMappedFile = some data → g'.icudtlMappedFile = some data) := by
  induction cs generalizing g rs with
  | nil =>
    simp only [run, Except.ok.injEq, Prod.mk.injEq] at h
    obtain ⟨-, rfl⟩ := h
    exact ⟨Keeps.refl _ _, Keeps.refl _ _⟩
  | cons c cs ih =>
    cases hc : call g c with
    | error _ => simp [run, hc, bind, Except.bind] at h
    | ok p =>
      cases hr : run p.2 cs with
      | error _ => simp [run, hc, hr, bind, Except.bind] at h
      | ok q =>
        simp only [run, hc, hr, bind, Except.bind, pure, Except.pure, Except.ok.injEq,
          Prod.mk.injEq] at h
        obtain ⟨-, rfl⟩ := h
        obtain ⟨hpf, hmapped⟩ := call_keeps hc
        obtain ⟨hpf', hmapped'⟩ := ih hr
        exact ⟨hpf.trans hpf', hmapped.trans hmapped'⟩

theorem run_keeps_data_file_sample :
    (∀ fd, mappedGlobals.icudtlPf = some fd →
      { mappedGlobals with commonData := [4096, 8192] }.icudtlPf = some fd) ∧
    (∀ data, mappedGlobals.icudtlMappedFile = some data →
      { mappedGlobals with commonData := [4096, 8192] }.icudtlMappedFile = some data) :=
  @run_keeps_data_file _ _
    [.initializeICU { sampleIcuEnv with assetsDir := none }, .initializeICUFromRawMemory sampleIcuEnv 8192,
      .getRawIcuMemory]
    [.result true, .result true, .rawMemory 4096] rfl

end BaseLib.I18n
