import Mathlib.Data.List.AList
import Mathlib.Data.List.Induction
import ThermalSimd.Binary64
import ThermalSimd.Moments

/-!
# Baseline history

A baseline for each socket: samples are folded into running moments, and every update writes the
whole store to a temporary file and renames it over the previous one.
-/

namespace ThermalSimd
namespace History

/-- A socket's running baseline, with times in nanoseconds of the system clock. The source's count
is a `uint64_t`, which wraps after `2 ^ 64` samples; here it does not. -/
structure BaselineRecord where
  baseline : ℚ := 0
  varianceAccumulator : ℚ := 0
  sampleCount : ℕ := 0
  lastUpdate : ℤ := 0
  valid : Bool := false
  deriving DecidableEq

namespace BaselineRecord

def initial : BaselineRecord := {}

variable (record : BaselineRecord)

/-- `update` of one record. -/
def add (now : ℤ) (sampleValue : ℚ) : BaselineRecord :=
  let folded :=
    if record.sampleCount = 0 then
      { record with sampleCount := 1, baseline := sampleValue, varianceAccumulator := 0 }
    else
      let sampleCount := record.sampleCount + 1
      let delta := sampleValue - record.baseline
      let baseline := record.baseline + delta / (sampleCount : ℕ)
      let delta2 := sampleValue - baseline
      { record with
        sampleCount, baseline, varianceAccumulator := record.varianceAccumulator + delta * delta2 }
  { folded with lastUpdate := now, valid := true }

def moments : Moments ℚ :=
  ⟨record.sampleCount, record.baseline, record.varianceAccumulator⟩

theorem moments_add (now sampleValue) :
    (record.add now sampleValue).moments = record.moments.push sampleValue := by
  by_cases fresh : record.sampleCount = 0
  · rw [Moments.push_of_count_eq_zero fresh]
    simp only [add, moments, if_pos fresh]
  · rw [Moments.push_of_count_ne_zero fresh]
    simp only [add, moments, if_neg fresh]

end BaselineRecord

def paddedDigits (value : ℕ) : ℕ → List Char
  | 0 => []
  | digits + 1 => paddedDigits (value / 10) digits ++ [Nat.digitChar (value % 10)]

def fixedText (value : ℚ) : List Char :=
  let scaled := (Binary64.roundHalfEven (|value| * 10 ^ 17)).toNat
  (if value < 0 then ['-'] else []) ++ Nat.toDigits 10 (scaled / 10 ^ 17) ++
    ['.'] ++ paddedDigits (scaled % 10 ^ 17) 17

def intText (value : ℤ) : List Char :=
  (if value < 0 then ['-'] else []) ++ Nat.toDigits 10 value.natAbs

def recordLine (socket : ℤ) (record : BaselineRecord) : List Char :=
  intText socket ++ [' '] ++ fixedText record.baseline ++ [' '] ++
    fixedText record.varianceAccumulator ++ [' '] ++ Nat.toDigits 10 record.sampleCount ++ [' '] ++
    intText (record.lastUpdate.tdiv 1000000000) ++ ['\n']

/-- The store in memory; `records` are in the order of the map's iteration. -/
structure HistoryStore where
  path : List Char
  records : AList fun _ : ℤ => BaselineRecord

/-- The stored and the temporary file. -/
structure Files where
  stored : Option (List Char)
  temporary : Option (List Char)
  deriving DecidableEq

/-- What the file system does. -/
structure Faults where
  opened : Bool
  written : ℕ
  renamed : Bool
  removed : Bool
  renamedAgain : Bool
  removedTemporary : Bool
  deriving DecidableEq

namespace Files

def rename (files : Files) : Files := ⟨files.temporary, none⟩

end Files

namespace HistoryStore

def create (path : List Char) : HistoryStore := ⟨path, ∅⟩

variable (store : HistoryStore)

def get (socket : ℤ) : BaselineRecord :=
  (store.records.lookup socket).getD .initial

def text : List Char :=
  store.records.entries.flatMap fun entry => recordLine entry.1 entry.2

/-- The stream is not checked; a failed rename is tried again without the stored file. -/
def flushUnlocked (faults : Faults) (files : Files) : Files :=
  if store.path = [] then files
  else if !faults.opened then files
  else
    let files := { files with temporary := some (store.text.take faults.written) }
    if faults.renamed then files.rename
    else
      let files := if faults.removed then { files with stored := none } else files
      if faults.renamedAgain then files.rename
      else if faults.removedTemporary then { files with temporary := none }
      else files

def update (now : ℤ) (socket : ℤ) (sampleValue : ℚ) (faults : Faults) (files : Files) :
    HistoryStore × Files :=
  let record := (store.get socket).add now sampleValue
  let store := { store with records := store.records.insert socket record }
  (store, store.flushUnlocked faults files)

end HistoryStore

/-- One call of `update`, with the clock and the filesystem it met. -/
structure Update where
  now : ℤ
  socket : ℤ
  sampleValue : ℚ
  faults : Faults

def samplesOf (socket : ℤ) (updates : List Update) : List ℚ :=
  (updates.filter fun update => update.socket = socket).map Update.sampleValue

namespace HistoryStore

def run (start : HistoryStore × Files) (updates : List Update) : HistoryStore × Files :=
  updates.foldl (fun (store, files) call =>
    store.update call.now call.socket call.sampleValue call.faults files) start

theorem run_append_singleton (start updates call) :
    run start (updates ++ [call]) =
      (run start updates).1.update call.now call.socket call.sampleValue call.faults
        (run start updates).2 :=
  List.foldl_append

variable (store : HistoryStore)

theorem get_update_self (now socket sampleValue faults files) :
    (store.update now socket sampleValue faults files).1.get socket =
      (store.get socket).add now sampleValue := by
  rw [get, update, AList.lookup_insert, Option.getD_some]

theorem get_update_of_ne (now) {socket other} (different : other ≠ socket)
    (sampleValue faults files) :
    (store.update now socket sampleValue faults files).1.get other = store.get other := by
  rw [get, update, AList.lookup_insert_ne different, get]

theorem run_describes (path files updates socket) :
    ((run (create path, files) updates).1.get socket).moments.Describes
      (samplesOf socket updates) := by
  -- The induction adds an update at the end, where the store folds its sample in.
  induction updates using List.reverseRecOn with
  | nil => exact Moments.describes_empty
  | append_singleton updates call ih =>
    rw [run_append_singleton]
    by_cases own : call.socket = socket
    · have samples : samplesOf socket (updates ++ [call]) =
          samplesOf socket updates ++ [call.sampleValue] := by
        simp [samplesOf, own]
      rw [samples, own, get_update_self, BaselineRecord.moments_add]
      exact ih.push call.sampleValue
    · have samples : samplesOf socket (updates ++ [call]) = samplesOf socket updates := by
        simp [samplesOf, own]
      rw [samples, get_update_of_ne _ _ (Ne.symm own)]
      exact ih

/-- Count, mean and squared deviation of the samples. -/
structure ExactBaseline (record : BaselineRecord) (samples : List ℚ) : Prop where
  sampleCount : record.sampleCount = samples.length
  baseline : record.baseline = samples.sum / samples.length
  varianceAccumulator : record.varianceAccumulator =
    (samples.map fun sample => (sample - samples.sum / samples.length) ^ 2).sum
  nonneg : 0 ≤ record.varianceAccumulator

theorem exactBaseline_of_describes {record samples} (describes : record.moments.Describes samples)
    (ne : samples ≠ []) : ExactBaseline record samples := by
  have baseline := describes.mean_eq ne
  have spread : record.varianceAccumulator = Moments.spread record.baseline samples :=
    describes.deviation_eq
  refine ⟨describes.count, baseline, ?_, ?_⟩
  · rw [spread, Moments.spread]
    exact congrArg (fun mean => (samples.map fun sample => (sample - mean) ^ 2).sum) baseline
  · rw [spread]
    exact Moments.spread_nonneg _ _

/-- Every socket's record is the exact count, mean and squared deviation of its own samples, in
whatever order. -/
theorem baselines_exact (path : List Char) (files : Files) (updates : List Update) :
    (∀ socket, samplesOf socket updates ≠ [] →
      ExactBaseline ((run (create path, files) updates).1.get socket) (samplesOf socket updates) ∧
      ∀ (otherPath : List Char) (otherFiles : Files) (others : List Update),
        (samplesOf socket updates).Perm (samplesOf socket others) →
        ((run (create otherPath, otherFiles) others).1.get socket).moments =
          ((run (create path, files) updates).1.get socket).moments) ∧
    ∀ (call : Update) (socket : ℤ), call.socket ≠ socket →
      (run (create path, files) (updates ++ [call])).1.get socket =
        (run (create path, files) updates).1.get socket := by
  refine ⟨fun socket nonempty => ⟨?_, fun otherPath otherFiles others permuted => ?_⟩,
    fun call socket different => ?_⟩
  · exact exactBaseline_of_describes (run_describes path files updates socket) nonempty
  · have same := (run_describes otherPath otherFiles others socket).perm permuted.symm
    exact same.unique (run_describes path files updates socket) nonempty
  · rw [run_append_singleton, get_update_of_ne _ _ (Ne.symm different)]

def interleavedUpdates : List Update :=
  let faults : Faults := ⟨true, 0, true, true, true, true⟩
  [⟨1, 0, 50, faults⟩, ⟨2, 1, 90, faults⟩, ⟨3, 0, 70, faults⟩]

theorem baselines_exact_interleaved :
    ExactBaseline ((run (create ['h'], ⟨none, none⟩) interleavedUpdates).1.get 0) [50, 70] :=
  ((baselines_exact ['h'] ⟨none, none⟩ interleavedUpdates).1 0 (by decide)).1

/-- The path holds what it held before, or the whole text of the store. -/
def Atomic (before after : Files) : Prop :=
  after.stored = before.stored ∨ after.stored = some store.text
  deriving Decidable

theorem stored_flushUnlocked {store : HistoryStore} (named : store.path ≠ []) {faults}
    (opened : faults.opened) (files) :
    (store.flushUnlocked faults files).stored =
      if faults.renamed || faults.renamedAgain then some (store.text.take faults.written)
      else if faults.removed then none
      else files.stored := by
  obtain ⟨_, written, renamed, removed, renamedAgain, removedTemporary⟩ := faults
  cases opened
  cases renamed <;> cases removed <;> cases renamedAgain <;> cases removedTemporary <;>
    simp [flushUnlocked, named, Files.rename]

/-- A rename follows a complete write, or one to a path that held what was written, and the stored
file is removed only if a rename follows or there was none. -/
def Survives (faults : Faults) (files : Files) : Prop :=
  store.path = [] ∨ faults.opened = false ∨
    if faults.renamed || faults.renamedAgain then
      store.text.length ≤ faults.written ∨ files.stored = some (store.text.take faults.written)
    else faults.removed = false ∨ files.stored = none
  deriving Decidable

theorem atomic_flush_iff (store : HistoryStore) (faults : Faults) (files : Files) :
    store.Atomic files (store.flushUnlocked faults files) ↔ store.Survives faults files := by
  by_cases named : store.path = []
  · exact iff_of_true (.inl (by rw [flushUnlocked, if_pos named])) (.inl named)
  by_cases opened : faults.opened = false
  · exact iff_of_true (.inl (by rw [flushUnlocked, if_neg named, if_pos (by simpa using opened)]))
      (.inr (.inl opened))
  have opened' : faults.opened = true := by simpa using opened
  rw [Atomic, Survives, stored_flushUnlocked named opened' files, or_iff_right named,
    or_iff_right opened]
  -- A truncated text is never the whole one; a missing file never a text.
  split
  · rw [Option.some_inj, List.take_eq_self_iff, or_comm]
    exact or_congr_right eq_comm
  · cases faults.removed
    · simp
    · simp [eq_comm]

end HistoryStore

def oneRecord : HistoryStore :=
  ⟨['h'], AList.insert 0 (BaselineRecord.initial.add 0 50) ∅⟩

def diskFull : Faults where
  opened := true
  written := 3
  renamed := true
  removed := false
  renamedAgain := false
  removedTemporary := false

def renameRefused : Faults where
  opened := true
  written := 100
  renamed := false
  removed := true
  renamedAgain := false
  removedTemporary := true

/-- A full disk replaces the stored history by a few bytes, and a refused rename by nothing. -/
theorem history_truncated_or_lost :
    let files : Files := ⟨some ['9', '\n'], none⟩
    (oneRecord.flushUnlocked diskFull files).stored = some ['0', ' ', '5'] ∧
    (oneRecord.flushUnlocked renameRefused files).stored = none ∧
    ¬ oneRecord.Atomic files (oneRecord.flushUnlocked diskFull files) ∧
    ¬ oneRecord.Atomic files (oneRecord.flushUnlocked renameRefused files) := by
  decide +kernel

end History
end ThermalSimd
