import Mathlib.Data.List.Basic

/-!
# Base64

The bits of a byte string regrouped in sixes, each spelled by a character of the alphabet, and
padding up to a multiple of four characters.
-/

namespace Base64

def alphabet : List UInt8 :=
  ['A', 'B', 'C', 'D', 'E', 'F', 'G', 'H', 'I', 'J', 'K', 'L', 'M', 'N', 'O', 'P', 'Q', 'R', 'S',
    'T', 'U', 'V', 'W', 'X', 'Y', 'Z', 'a', 'b', 'c', 'd', 'e', 'f', 'g', 'h', 'i', 'j', 'k', 'l',
    'm', 'n', 'o', 'p', 'q', 'r', 's', 't', 'u', 'v', 'w', 'x', 'y', 'z', '0', '1', '2', '3', '4',
    '5', '6', '7', '8', '9', '+', '/'].map Char.toUInt8

def pad : UInt8 := '='.toUInt8

def char (sextet : ℕ) : UInt8 := alphabet.getD sextet pad

def sextets : List UInt8 → List ℕ
  | [] => []
  | [a] => [a.toNat / 4, a.toNat % 4 * 16]
  | [a, b] => [a.toNat / 4, a.toNat % 4 * 16 + b.toNat / 16, b.toNat % 16 * 4]
  | a :: b :: c :: rest =>
    a.toNat / 4 :: (a.toNat % 4 * 16 + b.toNat / 16) :: (b.toNat % 16 * 4 + c.toNat / 64) ::
      (c.toNat % 64) :: sextets rest

def encodeUnpadded (bytes : List UInt8) : List UInt8 := (sextets bytes).map char

def padding (bytes : List UInt8) : List UInt8 :=
  List.replicate ((3 - bytes.length % 3) % 3) pad

def encode (bytes : List UInt8) : List UInt8 := encodeUnpadded bytes ++ padding bytes

theorem lt_of_mem_sextets {bytes sextet} (mem : sextet ∈ sextets bytes) : sextet < 64 := by
  fun_induction sextets bytes with
  | case1 => exact absurd mem List.not_mem_nil
  | case2 a =>
    have := a.toNat_lt
    simp only [List.mem_cons, List.not_mem_nil, or_false] at mem
    omega
  | case3 a b =>
    have := a.toNat_lt
    have := b.toNat_lt
    simp only [List.mem_cons, List.not_mem_nil, or_false] at mem
    omega
  | case4 a b c _ ih =>
    have := a.toNat_lt
    have := b.toNat_lt
    have := c.toNat_lt
    simp only [List.mem_cons] at mem
    rcases mem with first | second | third | fourth | later
    · omega
    · omega
    · omega
    · omega
    · exact ih later

theorem idxOf?_char {sextet} (bound : sextet < 64) :
    alphabet.idxOf? (char sextet) = some sextet := by
  have all : ∀ sextet : Fin 64, alphabet.idxOf? (char sextet) = some sextet.val := by decide
  exact all ⟨sextet, bound⟩

theorem char_ne_pad {sextet} (bound : sextet < 64) : char sextet ≠ pad := by
  have all : ∀ sextet : Fin 64, char sextet ≠ pad := by decide
  exact all ⟨sextet, bound⟩

end Base64
