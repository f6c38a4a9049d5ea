import Mathlib.Data.Nat.Bitwise
import Mathlib.Order.MinMax
import ThermalSimd.Base64

/-!
# Credentials on the wire

How the exporter decodes the credentials of a request, with a bit accumulator that collects sextets
and emits bytes, and compares them with the configured ones.
-/

namespace ThermalSimd
namespace Http

open Base64

abbrev Bytes : Type := List UInt8

def ascii (text : List Char) : Bytes := text.map Char.toUInt8

/-- `isspace` in the classic locale. -/
def isSpace (byte : UInt8) : Bool := byte = 32 || (9 ≤ byte && byte ≤ 13)

/-- `tolower` in the classic locale. -/
def toLower (byte : UInt8) : UInt8 := if 65 ≤ byte ∧ byte ≤ 90 then byte + 32 else byte

/-- The bit accumulator of `base64_decode`. -/
structure Accumulator where
  val : ℕ := 0
  valb : ℤ := -8
  output : Bytes := []

namespace Accumulator

/-- Six more bits; `val` is a 32-bit word. -/
def push (state : Accumulator) (pos : ℕ) : Accumulator :=
  let val := (state.val <<< 6 ||| pos) % 2 ^ 32
  let valb := state.valb + 6
  if 0 ≤ valb then
    ⟨val, valb - 8, state.output ++ [UInt8.ofNat (val >>> valb.toNat &&& 0xFF)]⟩
  else ⟨val, valb, state.output⟩

/-- The loop of `base64_decode`. -/
def decode (state : Accumulator) : Bytes → Bytes
  | [] => state.output
  | byte :: rest =>
    if isSpace byte then decode state rest
    else if byte = pad then state.output
    else
      match alphabet.idxOf? byte with
      | none => []
      | some pos => decode (state.push pos) rest

end Accumulator

/-- `base64_decode`. -/
def base64Decode (input : Bytes) : Bytes := Accumulator.decode {} input

namespace Accumulator

variable {output : Bytes} {state : Accumulator}

theorem decode_filter (state : Accumulator) (text) :
    state.decode (text.filter fun byte => !isSpace byte) = state.decode text := by
  induction text generalizing state with
  | nil => rfl
  | cons byte _ ih =>
    cases space : isSpace byte with
    | true =>
      rw [List.filter_cons_of_neg (by simp [space]), ih, decode, if_pos space]
    | false =>
      have unspaced : ¬ isSpace byte = true := by simp [space]
      rw [List.filter_cons_of_pos (by simp [space]), decode, decode, if_neg unspaced,
        if_neg unspaced]
      split
      · rfl
      · split
        · rfl
        · exact ih _

theorem isSpace_char {sextet} (bound : sextet < 64) : isSpace (char sextet) = false := by
  have all : ∀ sextet : Fin 64, isSpace (char sextet) = false := by decide
  exact all ⟨sextet, bound⟩

theorem decode_map_char {sextets : List ℕ} (bound : ∀ sextet ∈ sextets, sextet < 64) (state rest) :
    state.decode (sextets.map char ++ rest) = (sextets.foldl push state).decode rest := by
  induction sextets generalizing state with
  | nil => rfl
  | cons sextet sextets ih =>
    have small := bound sextet List.mem_cons_self
    rw [List.map_cons, List.cons_append, decode,
      if_neg (Bool.eq_false_iff.mp (isSpace_char small)), if_neg (char_ne_pad small),
      idxOf?_char small, List.foldl_cons]
    exact ih (fun other mem => bound other (List.mem_cons_of_mem _ mem)) _

theorem push_eq (state : Accumulator) {pos} (bound : pos < 64) :
    state.push pos =
      if 0 ≤ state.valb + 6 then
        ⟨(64 * state.val + pos) % 2 ^ 32, state.valb - 2, state.output ++
          [UInt8.ofNat ((64 * state.val + pos) % 2 ^ 32 / 2 ^ (state.valb + 6).toNat % 256)]⟩
      else ⟨(64 * state.val + pos) % 2 ^ 32, state.valb + 6, state.output⟩ := by
  have word : (state.val <<< 6 ||| pos) = 64 * state.val + pos := by
    rw [← Nat.shiftLeft_add_eq_or_of_lt bound, Nat.shiftLeft_eq, Nat.mul_comm]
  have byte (v) : v &&& 0xFF = v % 256 := Nat.and_two_pow_sub_one_eq_mod v 8
  have lower : state.valb + 6 - 8 = state.valb - 2 := by omega
  simp only [push, word, byte, lower, Nat.shiftRight_eq_div_pow]

/-- The bits not yet written. -/
structure Pending (state : Accumulator) (bits low : ℕ) (output : Bytes) : Prop where
  valb : state.valb = bits - 8
  low : state.val % 2 ^ bits = low
  output : state.output = output

theorem Pending.fill (pending : Pending state 0 0 output) {pos} (bound : pos < 64) :
    Pending (state.push pos) 6 pos output := by
  have valb := pending.valb
  rw [push_eq state bound, if_neg (by omega)]
  exact ⟨by simp only; omega, by simp only; omega, pending.output⟩

theorem Pending.emit {bits low} (pending : Pending state bits low output)
    (groups : bits = 2 ∨ bits = 4 ∨ bits = 6) {pos} (bound : pos < 64) :
    Pending (state.push pos) (bits - 2) (pos % 2 ^ (bits - 2))
      (output ++ [UInt8.ofNat (low * 2 ^ (8 - bits) + pos / 2 ^ (bits - 2))]) := by
  obtain ⟨valb, rfl, rfl⟩ := pending
  have shift : (state.valb + 6).toNat = bits - 2 := by omega
  rw [push_eq state bound, if_pos (by omega), shift]
  rcases groups with rfl | rfl | rfl
  all_goals
    refine ⟨by simp only; omega, by simp only; omega, ?_⟩
    refine congrArg (fun byte => state.output ++ [UInt8.ofNat byte]) ?_
    omega

theorem output_foldl_push_sextets (bytes : Bytes) (ready : Pending state 0 0 output) :
    ((sextets bytes).foldl push state).output = output ++ bytes := by
  -- Each group of four sextets is one cycle of the accumulator.
  have byte {v} {byte} (same : v = byte.toNat) : UInt8.ofNat v = byte := by
    rw [same, UInt8.ofNat_toNat]
  fun_induction sextets bytes generalizing state output with
  | case1 => exact ready.output.trans (List.append_nil _).symm
  | case2 a =>
    have := a.toNat_lt
    have done := (ready.fill (show a.toNat / 4 < 64 by omega)).emit (by decide)
      (show a.toNat % 4 * 16 < 64 by omega)
    rw [byte (show _ = a.toNat by omega)] at done
    exact done.output
  | case3 a b =>
    have := a.toNat_lt
    have := b.toNat_lt
    have first := (ready.fill (show a.toNat / 4 < 64 by omega)).emit (by decide)
      (show a.toNat % 4 * 16 + b.toNat / 16 < 64 by omega)
    rw [byte (show _ = a.toNat by omega)] at first
    have second := first.emit (by decide) (show b.toNat % 16 * 4 < 64 by omega)
    rw [byte (show _ = b.toNat by omega)] at second
    exact second.output.trans (List.append_assoc ..)
  | case4 a b c _ ih =>
    have := a.toNat_lt
    have := b.toNat_lt
    have := c.toNat_lt
    have first := (ready.fill (show a.toNat / 4 < 64 by omega)).emit (by decide)
      (show a.toNat % 4 * 16 + b.toNat / 16 < 64 by omega)
    rw [byte (show _ = a.toNat by omega)] at first
    have second := first.emit (by decide) (show b.toNat % 16 * 4 + c.toNat / 64 < 64 by omega)
    rw [byte (show _ = b.toNat by omega)] at second
    have third := second.emit (by decide) (show c.toNat % 64 < 64 by omega)
    rw [byte (show _ = c.toNat by omega),
      show c.toNat % 64 % 2 ^ (6 - 2 - 2 - 2) = 0 from Nat.mod_one _] at third
    have tail := ih third
    rw [List.foldl_cons, List.foldl_cons, List.foldl_cons, List.foldl_cons, tail]
    simp

end Accumulator

theorem base64Decode_encode {bytes text : Bytes}
    (spelled : text.filter (fun byte => !isSpace byte) = encode bytes ∨
      text.filter (fun byte => !isSpace byte) = encodeUnpadded bytes) :
    base64Decode text = bytes := by
  have ready : Accumulator.Pending {} 0 0 [] := ⟨rfl, rfl, rfl⟩
  have bound : ∀ sextet ∈ sextets bytes, sextet < 64 := fun _ mem => lt_of_mem_sextets mem
  have output := Accumulator.output_foldl_push_sextets bytes ready
  rw [base64Decode, ← Accumulator.decode_filter]
  rcases spelled with padded | unpadded
  · rw [padded, encode, encodeUnpadded, Accumulator.decode_map_char bound]
    -- Padding ends the loop, and so does its absence.
    cases rest : padding bytes with
    | nil => exact output
    | cons byte =>
      have isPad : byte = pad := List.eq_of_mem_replicate
        (rest ▸ List.mem_cons_self : byte ∈ padding bytes)
      subst isPad
      exact output
  · rw [unpadded, encodeUnpadded, ← List.append_nil ((sextets bytes).map char),
      Accumulator.decode_map_char bound]
    exact output

theorem Accumulator.length_decode_le (state : Accumulator) (text) :
    (state.decode text).length ≤ state.output.length + text.length := by
  induction text generalizing state with
  | nil => exact Nat.le_refl _
  | cons _ _ ih =>
    have push (pos) : (state.push pos).output.length ≤ state.output.length + 1 := by
      unfold Accumulator.push
      dsimp only
      split
      · rw [List.length_append]
        exact Nat.le_refl _
      · exact Nat.le_succ _
    rw [decode, List.length_cons]
    split
    · have := ih state
      omega
    · split
      · omega
      · split
        · exact Nat.zero_le _
        · next pos _ =>
          have := ih (state.push pos)
          have := push pos
          omega

theorem length_base64Decode_le (text) : (base64Decode text).length ≤ text.length := by
  have := Accumulator.length_decode_le {} text
  rwa [show ([] : Bytes).length = 0 from rfl, Nat.zero_add] at this

/-- `constant_time_equal`: the lengths and all bytes are folded into one word. -/
def constantTimeEqual (a b : Bytes) : Bool :=
  let diff := (List.range (max a.length b.length)).foldl
    (fun diff i => diff ||| ((a.getD i 0).toNat ^^^ (b.getD i 0).toNat))
    ((a.length ^^^ b.length) % 2 ^ 32)
  diff = 0

theorem foldl_or_eq_zero {Index} (term : Index → ℕ) (indices : List Index) (start) :
    indices.foldl (fun diff i => diff ||| term i) start = 0 ↔
      start = 0 ∧ ∀ i ∈ indices, term i = 0 := by
  induction indices generalizing start with
  | nil => simp
  | cons i indices ih =>
    rw [List.foldl_cons, ih, Nat.or_eq_zero_iff, List.forall_mem_cons, and_assoc]

theorem constantTimeEqual_iff {a b} (short : a.length < 2 ^ 32) (clean : (0 : UInt8) ∉ b) :
    constantTimeEqual a b = true ↔ a = b := by
  unfold constantTimeEqual
  rw [decide_eq_true_iff, foldl_or_eq_zero]
  constructor
  · rintro ⟨lengths, bytes⟩
    have agree : ∀ i < max a.length b.length, a.getD i 0 = b.getD i 0 := by
      intro i bound
      exact UInt8.toNat_inj.mp (Nat.xor_eq_zero_iff.mp (bytes i (List.mem_range.mpr bound)))
    have length : a.length = b.length := by
      rcases Nat.lt_trichotomy a.length b.length with less | same | more
      · -- The first byte that `a` lacks would be a zero of `b`.
        have zero := agree a.length (lt_max_of_lt_right less)
        rw [List.getD_eq_default _ _ le_rfl, List.getD_eq_getElem _ _ less] at zero
        exact absurd (zero ▸ List.getElem_mem less) clean
      · exact same
      · have small : a.length ^^^ b.length < 2 ^ 32 := Nat.xor_lt_two_pow short (more.trans short)
        rw [Nat.mod_eq_of_lt small] at lengths
        exact Nat.xor_eq_zero_iff.mp lengths
    refine List.ext_getElem length fun i left right => ?_
    have same := agree i (lt_max_of_lt_left left)
    rwa [List.getD_eq_getElem _ _ left, List.getD_eq_getElem _ _ right] at same
  · rintro rfl
    refine ⟨by rw [Nat.xor_self, Nat.zero_mod], fun i _ => Nat.xor_self _⟩

end Http
end ThermalSimd
