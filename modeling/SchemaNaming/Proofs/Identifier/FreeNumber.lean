import SchemaNaming.Identifier.Unique
import SchemaNaming.Proofs.Normalizer.Names
import Mathlib.Data.Finset.Card
import Mathlib.Order.Interval.Finset.Nat

/-!
Numbers behind taken names. Different numbers make different names, so among as many numbers as
there are used names one is free: the name itself is used too and takes one of the places.
-/

namespace SchemaNaming.Identifier
open Text

theorem toList_numbered (base : String) (k : Nat) :
    (numbered base k).toList = base.toList ++ Nat.toDigits 10 k := by
  rw [numbered, String.toList_append, Nat.toString_eq_repr, Nat.toList_repr]

theorem numbered_injective (base : String) : Function.Injective (numbered base) := by
  intro j k same
  have texts := congrArg String.toList same
  simp only [toList_numbered, List.append_cancel_left_eq] at texts
  have numbers := congrArg (Nat.ofDigitChars 10 · 0) texts
  simpa only [Nat.ofDigitChars_toDigits (show 1 < 10 by omega) (show 10 ≤ 10 by omega)]
    using numbers

theorem numbered_ne (base : String) (k : Nat) : numbered base k ≠ base := by
  intro same
  have texts := congrArg String.toList same
  simp [toList_numbered, Nat.toDigits_ne_nil] at texts

/-- Numbers from 2 on that are all taken are less many than the used names, since the name itself is
one of these. -/
theorem le_card_of_occupied {base : String} {used : List String} (taken : base ∈ used)
    (occupied : ∀ j, 2 ≤ j → j < k → numbered base j ∈ used) : k ≤ used.toFinset.card + 1 := by
  let names := (Finset.Ico 2 k).image (numbered base)
  have count : names.card = k - 2 := by
    rw [Finset.card_image_of_injective _ (numbered_injective base), Nat.card_Ico]
  have outside : base ∉ names := by
    intro member
    obtain ⟨j, _, same⟩ := Finset.mem_image.mp member
    exact numbered_ne base j same
  have inside : insert base names ⊆ used.toFinset := by
    refine Finset.insert_subset (List.mem_toFinset.mpr taken) fun name member => ?_
    obtain ⟨j, between, rfl⟩ := Finset.mem_image.mp member
    obtain ⟨low, high⟩ := Finset.mem_Ico.mp between
    exact List.mem_toFinset.mpr (occupied j low high)
  have larger := Finset.card_le_card inside
  rw [Finset.card_insert_of_notMem outside, count] at larger
  omega

theorem exists_free_number {base : String} {used : List String} (taken : base ∈ used) :
    ∃ i ∈ List.range used.length, numbered base (i + 2) ∉ used := by
  by_contra full
  simp only [not_exists, not_and, not_not] at full
  have occupied : ∀ j, 2 ≤ j → j < used.length + 2 → numbered base j ∈ used := by
    intro j low high
    have listed : j - 2 ∈ List.range used.length := List.mem_range.mpr (by omega)
    simpa only [Nat.sub_add_cancel low] using full (j - 2) listed
  have larger := (le_card_of_occupied taken occupied).trans
    (Nat.add_le_add_right (List.toFinset_card_le used) 1)
  omega

/-- The least number from 2 on that makes a name off the used ones. -/
structure IsFirstFree (base : String) (used : List String) (k : Nat) : Prop where
  two_le : 2 ≤ k
  free : numbered base k ∉ used
  least : ∀ j, 2 ≤ j → j < k → numbered base j ∈ used

theorem IsFirstFree.congr {base : String} {used others : List String}
    (first : IsFirstFree base used k) (same : ∀ name, name ∈ used ↔ name ∈ others) :
    IsFirstFree base others k where
  two_le := first.two_le
  free member := first.free ((same _).mpr member)
  least j low high := (same _).mp (first.least j low high)

theorem IsFirstFree.unique {base : String} {used : List String} {j k : Nat}
    (one : IsFirstFree base used j) (other : IsFirstFree base used k) : j = k := by
  rcases Nat.lt_trichotomy j k with less | same | more
  · exact absurd (other.least j one.two_le less) one.free
  · exact same
  · exact absurd (one.least k other.two_le more) other.free

theorem uniqueName_of_free {base : String} {used : List String} (free : base ∉ used) :
    uniqueName base used = base := by
  rw [uniqueName, if_neg (by simpa using free)]

theorem uniqueName_of_taken {base : String} {used : List String} (taken : base ∈ used) :
    ∃ k, IsFirstFree base used k ∧ uniqueName base used = numbered base k := by
  obtain ⟨i, small, free⟩ := exists_free_number taken
  rw [uniqueName, if_pos (by simpa using taken)]
  cases found : (List.range used.length).find?
      (fun i => !used.contains (numbered base (i + 2))) with
  | none =>
    have occupied := List.find?_eq_none.mp found i small
    simp [free] at occupied
  | some i =>
    obtain ⟨unused, _, before⟩ := List.find?_range_eq_some.mp found
    refine ⟨i + 2, ⟨by omega, by simpa using unused, fun j low high => ?_⟩, rfl⟩
    have occupied := before (j - 2) (by omega)
    rw [Nat.sub_add_cancel low] at occupied
    simpa using occupied

/-- A unique name is the name itself while that is free, and else the name with a free number. -/
theorem uniqueName_cases (base : String) (used : List String) :
    uniqueName base used = base ∧ base ∉ used ∨
      ∃ k, uniqueName base used = numbered base k ∧ numbered base k ∉ used := by
  by_cases taken : base ∈ used
  · obtain ⟨k, first, same⟩ := uniqueName_of_taken taken
    exact .inr ⟨k, same, first.free⟩
  · exact .inl ⟨uniqueName_of_free taken, taken⟩

theorem uniqueName_notMem_used (base : String) (used : List String) :
    uniqueName base used ∉ used := by
  rcases uniqueName_cases base used with ⟨same, free⟩ | ⟨k, same, free⟩ <;> rwa [same]

theorem isIdentifierPart_of_isDigit {c : Char} (digit : c.isDigit = true) :
    isIdentifierPart c = true := by
  have digits :
      ((List.range 10).map (fun i => Char.ofNat (48 + i))).all isIdentifierPart = true := by
    decide +kernel
  refine List.all_eq_true.mp digits c (List.mem_map.mpr ⟨c.toNat - 48, ?_⟩)
  simp only [Char.isDigit, Bool.and_eq_true, decide_eq_true_eq, ge_iff_le,
    UInt32.le_iff_toNat_le] at digit
  have low : 48 ≤ c.toNat := digit.1
  have high : c.toNat ≤ 57 := digit.2
  exact ⟨List.mem_range.mpr (by omega), by rw [Nat.add_sub_cancel' low, Char.ofNat_toNat]⟩

theorem isIdentifierPart_number (k : Nat) :
    ∀ c ∈ Nat.toDigits 10 k, isIdentifierPart c = true := fun _ member =>
  isIdentifierPart_of_isDigit (Nat.isDigit_of_mem_toDigits (by omega) (by omega) member)

/-- A number keeps a name an identifier, and brings no low line. -/
theorem uniqueName_eq_append (base : String) (used : List String) :
    ∃ number, (uniqueName base used).toList = base.toList ++ number ∧
      (∀ c ∈ number, isIdentifierPart c = true) ∧ '_' ∉ number := by
  rcases uniqueName_cases base used with ⟨same, _⟩ | ⟨k, same, _⟩
  · exact ⟨[], by simp [same]⟩
  · exact ⟨Nat.toDigits 10 k, by rw [same, toList_numbered], isIdentifierPart_number k,
      Nat.underscore_not_in_toDigits⟩

end SchemaNaming.Identifier
