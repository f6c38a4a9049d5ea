import ThermalSimd.Perf

/-!
# Exact reads of a counter

`tsd_perf_read_exact` against a descriptor whose reads may be short, interrupted, at the end of the
file or failing. The kernel's side keeps what it has delivered and was asked for.
-/

namespace ThermalSimd.ReadExact

/-- How a `read` of `count` bytes ends. -/
inductive Outcome (count : ℕ)
  | delivers (bytes : ℕ) (pos : 0 < bytes) (fits : bytes ≤ count)
  | interrupted
  | endOfFile
  | fails

namespace Outcome

variable {count : ℕ}

def bytes : Outcome count → ℕ
  | delivers bytes _ _ => bytes
  | _ => 0

/-- The end of the file or an error other than `EINTR`. -/
def Stops : Outcome count → Prop
  | endOfFile | fails => True
  | _ => False

instance : (outcome : Outcome count) → Decidable outcome.Stops
  | endOfFile | fails => .isTrue trivial
  | delivers _ _ _ | interrupted => .isFalse id

theorem bytes_le (out : Outcome count) : out.bytes ≤ count := by
  cases out with
  | delivers bytes _ fits => exact fits
  | _ => exact Nat.zero_le _

end Outcome

/-- The bytes of a descriptor, and how its reads end. -/
structure Device where
  stream : ℕ → UInt8
  outcome : ℕ → (count : ℕ) → Outcome count

/-- A `read`, with the bytes delivered before it. -/
structure Request where
  address : ℕ
  count : ℕ
  delivered : ℕ

/-- The memory, and the kernel's side. -/
structure World where
  memory : ℕ → UInt8
  delivered : ℕ
  requests : List Request

def World.start (memory : ℕ → UInt8) : World := ⟨memory, 0, []⟩

/-- What a `read` returns: a number of bytes, or -1 and `errno`. -/
inductive Returned
  | bytes (count : ℕ) | eintr | error

namespace Device

/-- `tsd_perf_sys_read`. -/
def perfSysRead (device : Device) (world : World) (address count : ℕ) : Returned × World :=
  let asked := { world with requests := world.requests ++ [⟨address, count, world.delivered⟩] }
  match device.outcome world.requests.length count with
  | .delivers bytes _ _ =>
    (.bytes bytes,
      { asked with
        delivered := world.delivered + bytes
        memory := fun location =>
          if address ≤ location ∧ location < address + bytes then
            device.stream (world.delivered + (location - address))
          else world.memory location })
  | .interrupted => (.eintr, asked)
  | .endOfFile => (.bytes 0, asked)
  | .fails => (.error, asked)

/-- The loop of `tsd_perf_read_exact`, for at most `fuel` turns. -/
def readLoop (device : Device) (buf size : ℕ) : ℕ → ℕ → World → Option ℤ × World
  | 0, _, world => (none, world)
  | fuel + 1, total, world =>
    if total < size then
      match device.perfSysRead world (buf + total) (size - total) with
      | (.eintr, world) => device.readLoop buf size fuel total world
      | (.error, world) => (some (-1), world)
      | (.bytes count, world) =>
        if count = 0 then (some (-1), world)
        else device.readLoop buf size fuel (total + count) world
    else (some 0, world)

/-- `tsd_perf_read_exact`, unless it still reads after `fuel` turns. -/
def perfReadExact (device : Device) (fd : ℤ) (buf : Option ℕ) (size fuel : ℕ) (world : World) :
    Option ℤ × World :=
  match buf with
  | none => (some (-1), world)
  | some buf =>
    if fd < 0 ∨ size = 0 then (some (-1), world) else device.readLoop buf size fuel 0 world

/-- The bytes of the first reads, when each asks for what is missing. -/
def delivered (device : Device) (size : ℕ) : ℕ → ℕ
  | 0 => 0
  | read + 1 =>
    device.delivered size read + (device.outcome read (size - device.delivered size read)).bytes

def answer (device : Device) (size read : ℕ) : Outcome (size - device.delivered size read) :=
  device.outcome read (size - device.delivered size read)

def DeliversAll (device : Device) (size : ℕ) : Prop :=
  ∃ reads, device.delivered size reads = size ∧ ∀ read < reads, ¬ (device.answer size read).Stops

variable {device : Device} {buf size reads fuel : ℕ} {memory : ℕ → UInt8} {world : World}

theorem delivered_le (device : Device) (size reads) : device.delivered size reads ≤ size := by
  induction reads with
  | zero => exact Nat.zero_le _
  | succ read =>
    have := (device.answer size read).bytes_le
    rw [delivered]
    unfold answer at this
    omega

/-- The buffer holds what was delivered, nothing else has changed, and no request was too long. -/
structure Holds (device : Device) (buf size : ℕ) (memory : ℕ → UInt8) (reads : ℕ) (world : World) :
    Prop where
  delivered : world.delivered = device.delivered size reads
  count : world.requests.length = reads
  content : ∀ offset < device.delivered size reads,
    world.memory (buf + offset) = device.stream offset
  frame : ∀ location, location < buf ∨ buf + size ≤ location →
    world.memory location = memory location
  requests : ∀ request ∈ world.requests, request.count ≤ size - request.delivered ∧
    buf ≤ request.address ∧ request.address + request.count ≤ buf + size

theorem Holds.start (device buf size memory) :
    Holds device buf size memory 0 (.start memory) where
  delivered := rfl
  count := rfl
  content _ inside := absurd inside (Nat.not_lt_zero _)
  frame _ _ := rfl
  requests := by simp [World.start]

section

variable (holds : Holds device buf size memory reads world)
include holds

theorem Holds.perfSysRead :
    Holds device buf size memory (reads + 1)
      (device.perfSysRead world (buf + device.delivered size reads)
        (size - device.delivered size reads)).2 := by
  have bound := device.delivered_le size reads
  have asked : ∀ request ∈ world.requests ++ [⟨buf + device.delivered size reads,
      size - device.delivered size reads, world.delivered⟩],
      request.count ≤ size - request.delivered ∧
        buf ≤ request.address ∧ request.address + request.count ≤ buf + size := by
    intro request mem
    rcases List.mem_append.mp mem with earlier | last
    · exact holds.requests request earlier
    · obtain rfl := List.mem_singleton.mp last
      dsimp only
      rw [holds.delivered]
      omega
  unfold Device.perfSysRead
  rw [holds.count]
  cases out : device.outcome reads (size - device.delivered size reads) with
  | delivers bytes =>
    have next : device.delivered size (reads + 1) = device.delivered size reads + bytes := by
      rw [Device.delivered, out]
      rfl
    refine ⟨?_, by simp [holds.count], fun offset inside => ?_, fun location outside => ?_, asked⟩
    · exact (congrArg (· + bytes) holds.delivered).trans next.symm
    · dsimp only
      rw [holds.delivered]
      split
      · congr 1
        omega
      · exact holds.content offset (by omega)
    · dsimp only
      rw [if_neg (by omega), holds.frame location outside]
  | _ =>
    have next : device.delivered size (reads + 1) = device.delivered size reads := by
      rw [Device.delivered, out]
      rfl
    refine ⟨?_, by simp [holds.count], ?_, holds.frame, asked⟩
    · rw [next, ← holds.delivered]
    · rw [next]
      exact holds.content

theorem Holds.readLoop_succ (fuel) (missing : device.delivered size reads < size) :
    device.readLoop buf size (fuel + 1) (device.delivered size reads) world =
      let after := (device.perfSysRead world (buf + device.delivered size reads)
        (size - device.delivered size reads)).2
      if (device.answer size reads).Stops then (some (-1), after)
      else device.readLoop buf size fuel (device.delivered size (reads + 1)) after := by
  rw [readLoop, if_pos missing]
  unfold Device.perfSysRead answer
  rw [holds.count]
  cases out : device.outcome reads (size - device.delivered size reads) with
  | delivers bytes positive fits =>
    have next : device.delivered size (reads + 1) = device.delivered size reads + bytes := by
      rw [Device.delivered, out]
      rfl
    dsimp only
    rw [if_neg positive.ne', if_neg (id : ¬ (Outcome.delivers bytes positive fits).Stops), next]
  | interrupted =>
    have next : device.delivered size (reads + 1) = device.delivered size reads := by
      rw [Device.delivered, out]
      rfl
    rw [if_neg (id : ¬ (Outcome.interrupted : Outcome _).Stops), next]
  | endOfFile | fails => rfl

theorem Holds.readLoop (fuel) :
    ∃ last, Holds device buf size memory last
        (device.readLoop buf size fuel (device.delivered size reads) world).2 ∧
      ∀ code, (device.readLoop buf size fuel (device.delivered size reads) world).1 = some code →
        code = 0 ∧ device.delivered size last = size ∧
            (∀ read, reads ≤ read → read < last → ¬ (device.answer size read).Stops) ∨
          code = -1 ∧ ∃ read ≥ reads, device.delivered size read < size ∧
            (device.answer size read).Stops ∧
            (∀ earlier, reads ≤ earlier → earlier < read →
              ¬ (device.answer size earlier).Stops) := by
  induction fuel generalizing reads world with
  | zero => exact ⟨reads, holds, fun code returned => by cases returned⟩
  | succ fuel ih =>
    by_cases missing : device.delivered size reads < size
    · rw [holds.readLoop_succ fuel missing]
      by_cases stops : (device.answer size reads).Stops
      · rw [if_pos stops]
        refine ⟨reads + 1, holds.perfSysRead, fun code returned => .inr ?_⟩
        cases returned
        exact ⟨rfl, reads, le_rfl, missing, stops, fun earlier _ _ => by omega⟩
      · rw [if_neg stops]
        obtain ⟨last, after, ends⟩ := ih holds.perfSysRead
        have here {bound}
            (later : ∀ read, reads + 1 ≤ read → read < bound → ¬ (device.answer size read).Stops) :
            ∀ read, reads ≤ read → read < bound → ¬ (device.answer size read).Stops := by
          intro read start stop
          rcases start.eq_or_lt with rfl | behind
          · exact stops
          · exact later read behind stop
        refine ⟨last, after, fun code returned => (ends code returned).imp ?_ ?_⟩
        · exact fun ⟨zero, all, later⟩ => ⟨zero, all, here later⟩
        · rintro ⟨failed, read, start, short, stop, later⟩
          exact ⟨failed, read, by omega, short, stop, here later⟩
    · have all := le_antisymm (device.delivered_le size reads) (not_lt.mp missing)
      rw [Device.readLoop, if_neg missing]
      refine ⟨reads, holds, fun code returned => .inl ?_⟩
      cases returned
      exact ⟨rfl, all, fun read start stop => by omega⟩

theorem Holds.readLoop_returns {last}
    (settled : ∀ read ≥ last, device.answer size read ≠ .interrupted)
    (enough : last - reads + (size - device.delivered size reads) < fuel) :
    ∃ code, (device.readLoop buf size fuel (device.delivered size reads) world).1 = some code := by
  induction fuel generalizing reads world with
  | zero => omega
  | succ fuel ih =>
    by_cases missing : device.delivered size reads < size
    · rw [holds.readLoop_succ fuel missing]
      by_cases stops : (device.answer size reads).Stops
      · rw [if_pos stops]
        exact ⟨-1, rfl⟩
      · rw [if_neg stops]
        refine ih holds.perfSysRead ?_
        have next : device.delivered size (reads + 1) =
          device.delivered size reads + (device.answer size reads).bytes := rfl
        cases answered : device.answer size reads with
        | delivers bytes =>
          rw [answered] at next
          simp only [Outcome.bytes] at next
          omega
        | interrupted =>
          have early : reads < last := by
            by_contra late
            exact settled reads (not_lt.mp late) answered
          omega
        | endOfFile | fails =>
          rw [answered] at stops
          exact absurd trivial stops
    · rw [Device.readLoop, if_neg missing]
      exact ⟨0, rfl⟩

end

theorem not_deliversAll {read} (short : device.delivered size read < size)
    (stops : (device.answer size read).Stops) : ¬ device.DeliversAll size := by
  rintro ⟨reads, _, clean⟩
  rcases Nat.lt_or_ge read reads with before | behind
  · exact clean read before stops
  · have more := monotone_nat_of_le_succ (f := device.delivered size)
      (fun _ => Nat.le_add_right _ _) behind
    omega

section

variable {fd : ℤ} (opened : 0 ≤ fd) (positive : 1 ≤ size)
include opened positive

theorem perfReadExact_eq (fuel) :
    device.perfReadExact fd (some buf) size fuel world = device.readLoop buf size fuel 0 world := by
  rw [perfReadExact, if_neg (by omega)]

theorem perfReadExact_returns (buf memory)
    (settles : ∃ last, ∀ read ≥ last, device.answer size read ≠ .interrupted) :
    ∃ enough, ∀ fuel ≥ enough,
      (device.perfReadExact fd (some buf) size fuel (.start memory)).1 = some 0 ∧
          device.DeliversAll size ∨
        (device.perfReadExact fd (some buf) size fuel (.start memory)).1 = some (-1) ∧
          ¬ device.DeliversAll size := by
  have begins := Holds.start device buf size memory
  obtain ⟨last, settled⟩ := settles
  refine ⟨last + size + 1, fun fuel enough => ?_⟩
  rw [perfReadExact_eq opened positive]
  obtain ⟨code, returned⟩ := begins.readLoop_returns settled
    (show last - 0 + (size - 0) < fuel by omega)
  obtain ⟨reads, -, ends⟩ := begins.readLoop fuel
  refine (ends code returned).imp ?_ ?_
  · rintro ⟨rfl, all, clean⟩
    exact ⟨returned, reads, all, fun read before => clean read (Nat.zero_le _) before⟩
  · rintro ⟨rfl, read, -, short, stops, -⟩
    exact ⟨returned, not_deliversAll short stops⟩

theorem perfReadExact_content
    (returned : (device.perfReadExact fd (some buf) size fuel (.start memory)).1 = some 0)
    {offset} (inside : offset < size) :
    (device.perfReadExact fd (some buf) size fuel (.start memory)).2.memory (buf + offset) =
      device.stream offset := by
  rw [perfReadExact_eq opened positive] at returned ⊢
  obtain ⟨_, holds, ends⟩ := (Holds.start device buf size memory).readLoop fuel
  rcases ends 0 returned with ⟨-, all, -⟩ | ⟨failed, -⟩
  · exact holds.content offset (inside.trans_eq all.symm)
  · cases failed

end

/-- With finitely many interruptions it returns: 0 with all bytes in the buffer in order, or -1 if
an end of file or an error comes before. Nothing else is written. -/
theorem read_exact_delivers_stream (device : Device) (fd : ℤ) (buf size : ℕ) (memory : ℕ → UInt8)
    (opened : 0 ≤ fd) (positive : 1 ≤ size)
    (settles : ∃ last, ∀ read ≥ last, device.answer size read ≠ .interrupted) :
    (∃ enough, ∀ fuel ≥ enough,
      (device.perfReadExact fd (some buf) size fuel (.start memory)).1 = some 0 ∧
          device.DeliversAll size ∨
        (device.perfReadExact fd (some buf) size fuel (.start memory)).1 = some (-1) ∧
          ¬ device.DeliversAll size) ∧
    ∀ fuel,
      ((device.perfReadExact fd (some buf) size fuel (.start memory)).1 = some 0 →
        ∀ offset < size,
          (device.perfReadExact fd (some buf) size fuel (.start memory)).2.memory (buf + offset) =
            device.stream offset) ∧
      (∀ location, location < buf ∨ buf + size ≤ location →
        (device.perfReadExact fd (some buf) size fuel (.start memory)).2.memory location =
          memory location) ∧
      ∀ request ∈ (device.perfReadExact fd (some buf) size fuel (.start memory)).2.requests,
        request.count ≤ size - request.delivered := by
  refine ⟨perfReadExact_returns opened positive buf memory settles, fun fuel => ?_⟩
  obtain ⟨_, holds, -⟩ := (Holds.start device buf size memory).readLoop fuel
  refine ⟨fun returned offset => perfReadExact_content opened positive returned, ?_⟩
  rw [perfReadExact_eq opened positive]
  exact ⟨holds.frame, fun request mem => (holds.requests request mem).1⟩

end Device

/-- A descriptor that is interrupted once and then delivers one byte at a time. -/
def stutteringDevice : Device where
  stream offset := UInt8.ofNat offset
  outcome read count :=
    if read = 0 then .interrupted
    else if wanted : 1 ≤ count then .delivers 1 Nat.one_pos wanted
    else .endOfFile

theorem read_exact_delivers_stream_stuttering :
    ∃ enough, ∀ fuel ≥ enough,
      (stutteringDevice.perfReadExact 3 (some 100) 2 fuel (.start fun _ => 0)).1 = some 0 := by
  have all : stutteringDevice.DeliversAll 2 := ⟨3, rfl, by decide⟩
  have settles : ∀ read ≥ 1, stutteringDevice.answer 2 read ≠ .interrupted := by
    intro read _
    simp only [Device.answer, stutteringDevice, if_neg (show read ≠ 0 by omega)]
    split <;> simp
  obtain ⟨enough, returns⟩ := (stutteringDevice.read_exact_delivers_stream 3 100 2 (fun _ => 0)
    (by decide) (by decide) ⟨1, settles⟩).1
  refine ⟨enough, fun fuel more => ?_⟩
  exact ((returns fuel more).resolve_right fun failed => failed.2 all).1

open Classical in
/-- The bytes that a read of `size` of them delivers. -/
noncomputable def Device.content (device : Device) (size : ℕ) : Option (List UInt8) :=
  if device.DeliversAll size then some ((List.range size).map device.stream) else none

theorem readExact_content (device : Device) (fd buf) {size} (memory) (positive : 1 ≤ size)
    (settles : ∃ last, ∀ read ≥ last, device.answer size read ≠ .interrupted) :
    ∃ enough, ∀ fuel ≥ enough,
      readExact fd (device.content size) =
        let after := device.perfReadExact fd (some buf) size fuel (.start memory)
        if after.1 = some 0 then
          some ((List.range size).map fun offset => after.2.memory (buf + offset))
        else none := by
  rcases lt_or_ge fd 0 with closed | opened
  · exact ⟨0, fun fuel _ => by simp [readExact, Device.perfReadExact, closed]⟩
  · obtain ⟨enough, returns⟩ := Device.perfReadExact_returns opened positive buf memory settles
    refine ⟨enough, fun fuel more => ?_⟩
    rw [readExact, if_neg (not_lt.mpr opened), Device.content]
    rcases returns fuel more with ⟨returned, all⟩ | ⟨returned, short⟩
    · rw [if_pos all, if_pos returned]
      refine congrArg some (List.map_congr_left fun offset inside => ?_)
      exact (Device.perfReadExact_content opened positive returned (List.mem_range.mp inside)).symm
    · rw [if_neg short, if_neg (by rw [returned]; decide)]

end ThermalSimd.ReadExact
