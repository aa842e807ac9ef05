import SchemaNaming.Identifier.Basic
import Mathlib.Data.Nat.Bitwise

/-!
Sets of code points as numbers with a bit for each code point. Two tables of characters are compared
by one operation on such numbers, whatever the tables' sizes.
-/

namespace SchemaNaming.Text
open Identifier

def bitsOf (points : List Nat) : Nat := points.foldr (fun n bits => 1 <<< n ||| bits) 0

namespace Ranges

def bits : Ranges → Nat
  | [] => 0
  | (lo, hi) :: rest => (2 ^ (hi + 1 - lo) - 1) <<< lo ||| bits rest

theorem testBit_bits_iff (ranges : Ranges) (n : Nat) :
    ranges.bits.testBit n = true ↔ ∃ r ∈ ranges, r.1 ≤ n ∧ n ≤ r.2 := by
  induction ranges with
  | nil => simp [bits]
  | cons r rest ih =>
    obtain ⟨lo, hi⟩ := r
    simp only [bits, Nat.testBit_or, Bool.or_eq_true, ih, Nat.testBit_shiftLeft,
      Nat.testBit_two_pow_sub_one, Bool.and_eq_true, decide_eq_true_eq, List.mem_cons,
      exists_eq_or_imp]
    refine or_congr_left ?_
    omega

theorem testBit_bits {ranges : Ranges} (ascending : ranges.Ascending) (n : Nat) :
    ranges.bits.testBit n = ranges.has n := by
  rw [Bool.eq_iff_iff, testBit_bits_iff, has_iff ascending]

end Ranges

theorem testBit_bitsOf (points : List Nat) (n : Nat) :
    (bitsOf points).testBit n = true ↔ n ∈ points := by
  induction points with
  | nil => simp [bitsOf]
  | cons m rest ih =>
    have first : (1 <<< m).testBit n = true ↔ n = m := by
      rw [Nat.shiftLeft_eq, one_mul, Nat.testBit_two_pow, decide_eq_true_eq, eq_comm]
    simp only [bitsOf, List.foldr_cons, Nat.testBit_or, Bool.or_eq_true, List.mem_cons, first]
    exact or_congr_right ih

theorem testBit_of_land_eq {inner outer : Nat} (inside : inner &&& outer = inner)
    (member : inner.testBit n = true) : outer.testBit n = true := by
  rw [← inside, Nat.testBit_and, Bool.and_eq_true] at member
  exact member.2

theorem not_testBit_of_land_eq_zero {left right : Nat} (apart : left &&& right = 0)
    (member : left.testBit n = true) : right.testBit n = false := by
  have none : (left &&& right).testBit n = false := by rw [apart, Nat.zero_testBit]
  simpa [Nat.testBit_and, member] using none

def startBits : Nat := identifierStartRanges.bits
def partBits : Nat := identifierPartRanges.bits
def digitBits : Nat := digitRanges.bits
def letterBits : Nat := letterRanges.bits

theorem testBit_startBits (c : Char) : startBits.testBit c.toNat = isIdentifierStart c :=
  Ranges.testBit_bits identifierStartRanges_ascending c.toNat

theorem testBit_partBits (c : Char) : partBits.testBit c.toNat = isIdentifierPart c :=
  Ranges.testBit_bits identifierPartRanges_ascending c.toNat

theorem testBit_digitBits (c : Char) : digitBits.testBit c.toNat = isDigit c :=
  Ranges.testBit_bits digitRanges_ascending c.toNat

theorem testBit_letterBits (c : Char) : letterBits.testBit c.toNat = isLetter c :=
  Ranges.testBit_bits letterRanges_ascending c.toNat

theorem isIdentifierPart_of_isIdentifierStart {c : Char} (start : isIdentifierStart c = true) :
    isIdentifierPart c = true := by
  rw [← testBit_startBits] at start
  rw [← testBit_partBits]
  exact testBit_of_land_eq (by decide +kernel) start

theorem not_isLetter_of_isDigit {c : Char} (digit : isDigit c = true) : isLetter c = false := by
  rw [← testBit_digitBits] at digit
  rw [← testBit_letterBits]
  exact not_testBit_of_land_eq_zero (by decide +kernel) digit

theorem isIdentifierPart_of_isSegmentStart {c : Char} (start : isSegmentStart c = true) :
    isIdentifierPart c = true := by
  simp only [isSegmentStart, Bool.or_eq_true, Bool.and_eq_true] at start
  rcases start with start | ⟨_, part⟩
  · exact isIdentifierPart_of_isIdentifierStart start
  · exact part

/-- A letter that may head a segment is no digit, so it may start an identifier. -/
theorem isIdentifierStart_of_isLetter {c : Char} (start : isSegmentStart c = true)
    (letter : isLetter c = true) : isIdentifierStart c = true := by
  simp only [isSegmentStart, Bool.or_eq_true, Bool.and_eq_true] at start
  rcases start with start | ⟨digit, _⟩
  · exact start
  · simp [not_isLetter_of_isDigit digit] at letter

end SchemaNaming.Text
