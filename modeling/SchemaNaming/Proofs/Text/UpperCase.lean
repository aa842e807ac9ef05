import SchemaNaming.Text.Case
import SchemaNaming.Proofs.Text.CodePoints

/-!
What upper case does to the head of a segment: it stays made of identifier characters, and its first
character is its own upper case. A character outside the tables of letter case is its own upper
case; the entries of the tables are checked as sets of code points.
-/

namespace SchemaNaming.Text
open Identifier

namespace CaseSpan

def size (span : CaseSpan) : Nat := (span.hi - span.lo) / span.step + 1

/-- The code points of a span. -/
def points (span : CaseSpan) : List Nat :=
  (List.range span.size).map (fun i => span.lo + span.step * i)

/-- What they are mapped to. -/
def images (span : CaseSpan) : List Nat :=
  (List.range span.size).map (fun i => span.target + span.step * i)

theorem map?_members {span : CaseSpan} (mapped : span.map? n = some m) :
    n ∈ span.points ∧ m ∈ span.images := by
  simp only [map?] at mapped
  split at mapped
  · rename_i inside
    obtain rfl := Option.some.inj mapped
    simp only [Bool.and_eq_true, decide_eq_true_eq, beq_iff_eq] at inside
    obtain ⟨⟨low, high⟩, aligned⟩ := inside
    have steps := Nat.div_add_mod (n - span.lo) span.step
    have bound : (n - span.lo) / span.step ≤ (span.hi - span.lo) / span.step :=
      Nat.div_le_div_right (by omega)
    have within : (n - span.lo) / span.step ∈ List.range span.size :=
      List.mem_range.mpr (by simp only [size]; omega)
    exact ⟨List.mem_map.mpr ⟨_, within, by omega⟩, List.mem_map.mpr ⟨_, within, by omega⟩⟩
  · contradiction

end CaseSpan

/-- What is looked up in a table is one of its entries. -/
theorem mem_of_lookup_eq_some {α β : Type} [BEq α] [LawfulBEq α] {table : List (α × β)} {key : α}
    {value : β} (found : table.lookup key = some value) : (key, value) ∈ table := by
  obtain ⟨before, behind, rfl, _⟩ := List.lookup_eq_some_iff.mp found
  exact List.mem_append_right before List.mem_cons_self

/-- The code points with an upper case of their own. -/
def upperPoints : List Nat := upperSpans.flatMap CaseSpan.points ++ upperExpansions.map (·.1)

theorem upper_eq_self {c : Char} (plain : c.toNat ∉ upperPoints) : upper c = [c] := by
  simp only [upperPoints, List.mem_append, List.mem_flatMap, List.mem_map, not_or] at plain
  obtain ⟨spans, expansions⟩ := plain
  have unmapped : upperSpans.findSome? (fun span => span.map? c.toNat) = none := by
    refine List.findSome?_eq_none_iff.mpr fun span listed => ?_
    cases mapped : span.map? c.toNat with
    | none => rfl
    | some target => exact absurd ⟨span, listed, (CaseSpan.map?_members mapped).1⟩ spans
  have unexpanded : upperExpansions.lookup c.toNat = none := by
    refine List.lookup_eq_none_iff.mpr fun entry listed => ?_
    simp only [bne_iff_ne, ne_eq]
    exact fun same => expansions ⟨entry, listed, same.symm⟩
  simp only [upper, unmapped, unexpanded]

example : upper '_' = ['_'] ∧ upper 'ß' = ['S', 'S'] := by decide +kernel

/-- The first code points of upper cases, those of the spans and those of the expansions. -/
def upperHeads : List Nat :=
  upperSpans.flatMap CaseSpan.images ++ upperExpansions.flatMap (·.2.take 1)

/-- The code points of expansions behind the first one. -/
def upperTails : List Nat := upperExpansions.flatMap (·.2.drop 1)

/-- What has a bit here is a character; the rest are surrogates and numbers beyond the last one. -/
def characterBits : Nat := Ranges.bits [(0, 0xd7ff), (0xe000, 0x10ffff)]

theorem upperHeads_characters :
    bitsOf (upperHeads ++ upperTails) &&& characterBits = bitsOf (upperHeads ++ upperTails) := by
  decide +kernel

theorem upperHeads_steady : bitsOf upperHeads &&& bitsOf upperPoints = 0 := by decide +kernel

theorem upperHeads_plain : '_'.toNat ∉ upperHeads ++ upperTails := by
  rw [← testBit_bitsOf]
  decide +kernel

theorem upperTails_part : bitsOf upperTails &&& partBits = bitsOf upperTails := by decide +kernel

/-- Only circled letters have upper cases that start no identifier, and they head no segment. -/
theorem upperSpans_start : upperSpans.all (fun span =>
    bitsOf span.images &&& startBits == bitsOf span.images ||
      bitsOf span.points &&& (startBits ||| digitBits) == 0) = true := by decide +kernel

theorem upperExpansions_start : upperExpansions.all (fun entry => !entry.2.isEmpty &&
    bitsOf (entry.2.take 1) &&& startBits == bitsOf (entry.2.take 1)) = true := by decide +kernel

theorem upper_ne_nil (c : Char) : upper c ≠ [] := by
  rw [upper]
  split
  · simp
  · split
    · rename_i points found
      have checked := List.all_eq_true.mp upperExpansions_start _ (mem_of_lookup_eq_some found)
      rw [Bool.and_eq_true, Bool.not_eq_true', List.isEmpty_eq_false_iff] at checked
      simpa using checked.1
    · simp

theorem toNat_ofNat_of_mem_upper (listed : m ∈ upperHeads ++ upperTails) :
    (Char.ofNat m).toNat = m := by
  have bit := testBit_of_land_eq upperHeads_characters ((testBit_bitsOf _ _).mpr listed)
  have valid : m.isValidChar := by
    obtain ⟨r, member, low, high⟩ := (Ranges.testBit_bits_iff _ _).mp bit
    simp only [List.mem_cons, List.not_mem_nil, or_false] at member
    rcases member with rfl | rfl
    · exact .inl (by omega)
    · exact .inr ⟨by omega, by omega⟩
  rw [Char.ofNat, dif_pos valid]
  rfl

/-- What upper case makes of a character that may head a segment. -/
structure UpperHead (c first : Char) (rest : List Char) : Prop where
  upper_eq : upper c = first :: rest
  /-- Its own upper case. -/
  steady : upper first = [first]
  part : ∀ x ∈ first :: rest, isIdentifierPart x = true
  plain : c ≠ '_' → '_' ∉ first :: rest
  start : isLetter first = true → isIdentifierStart first = true

theorem upper_steady (listed : m ∈ upperHeads) : upper (Char.ofNat m) = [Char.ofNat m] := by
  apply upper_eq_self
  rw [toNat_ofNat_of_mem_upper (List.mem_append_left _ listed)]
  intro again
  have bit := not_testBit_of_land_eq_zero upperHeads_steady ((testBit_bitsOf _ _).mpr listed)
  simp [(testBit_bitsOf _ _).mpr again] at bit

theorem ne_lowLine (listed : m ∈ upperHeads ++ upperTails) : '_' ≠ Char.ofNat m := by
  intro same
  apply upperHeads_plain
  rw [same, toNat_ofNat_of_mem_upper listed]
  exact listed

theorem UpperHead.of_span {span : CaseSpan} (listed : span ∈ upperSpans)
    (mapped : span.map? c.toNat = some m) (heads : isSegmentStart c = true)
    (same : upper c = [Char.ofNat m]) : UpperHead c (Char.ofNat m) [] := by
  obtain ⟨point, image⟩ := CaseSpan.map?_members mapped
  have head : m ∈ upperHeads :=
    List.mem_append_left _ (List.mem_flatMap.mpr ⟨span, listed, image⟩)
  have character := toNat_ofNat_of_mem_upper (List.mem_append_left upperTails head)
  have start : isIdentifierStart (Char.ofNat m) = true := by
    have checked := List.all_eq_true.mp upperSpans_start span listed
    simp only [Bool.or_eq_true, beq_iff_eq] at checked
    rcases checked with inside | apart
    · rw [← testBit_startBits, character]
      exact testBit_of_land_eq inside ((testBit_bitsOf _ _).mpr image)
    · have outside := not_testBit_of_land_eq_zero apart ((testBit_bitsOf _ _).mpr point)
      rw [Nat.testBit_or, testBit_startBits, testBit_digitBits, Bool.or_eq_false_iff] at outside
      simp [isSegmentStart, outside.1, outside.2] at heads
  refine ⟨same, upper_steady head, ?_, ?_, fun _ => start⟩
  · intro x member
    rw [List.mem_singleton.mp member]
    exact isIdentifierPart_of_isIdentifierStart start
  · intro _ member
    exact ne_lowLine (List.mem_append_left _ head) (List.mem_singleton.mp member)

theorem UpperHead.of_expansion {entry : Nat × List Nat} (listed : entry ∈ upperExpansions)
    (same : upper c = entry.2.map Char.ofNat) : ∃ first rest, UpperHead c first rest := by
  have checked := List.all_eq_true.mp upperExpansions_start entry listed
  obtain ⟨n, points⟩ := entry
  cases points with
  | nil => simp at checked
  | cons first rest =>
    simp only [List.isEmpty_cons, Bool.not_false, Bool.true_and, beq_iff_eq] at checked
    have head : first ∈ upperHeads :=
      List.mem_append_right _ (List.mem_flatMap.mpr ⟨_, listed, by simp⟩)
    have tail : ∀ m ∈ rest, m ∈ upperTails :=
      fun m member => List.mem_flatMap.mpr ⟨_, listed, by simpa using member⟩
    have start : isIdentifierStart (Char.ofNat first) = true := by
      rw [← testBit_startBits, toNat_ofNat_of_mem_upper (List.mem_append_left _ head)]
      exact testBit_of_land_eq checked ((testBit_bitsOf _ _).mpr (by simp))
    refine ⟨Char.ofNat first, rest.map Char.ofNat, same, upper_steady head, ?_, ?_, fun _ => start⟩
    · intro x member
      rcases List.mem_cons.mp member with rfl | member
      · exact isIdentifierPart_of_isIdentifierStart start
      · obtain ⟨m, inRest, rfl⟩ := List.mem_map.mp member
        rw [← testBit_partBits, toNat_ofNat_of_mem_upper (List.mem_append_right _ (tail m inRest))]
        exact testBit_of_land_eq upperTails_part ((testBit_bitsOf _ _).mpr (tail m inRest))
    · intro _ member
      rcases List.mem_cons.mp member with same | member
      · exact ne_lowLine (List.mem_append_left _ head) same
      · obtain ⟨m, inRest, same⟩ := List.mem_map.mp member
        exact ne_lowLine (List.mem_append_right _ (tail m inRest)) same.symm

theorem upperHead_of_isSegmentStart {c : Char} (heads : isSegmentStart c = true) :
    ∃ first rest, UpperHead c first rest := by
  cases spans : upperSpans.findSome? (fun span => span.map? c.toNat) with
  | some m =>
    obtain ⟨span, listed, mapped⟩ := List.exists_of_findSome?_eq_some spans
    exact ⟨Char.ofNat m, [], .of_span listed mapped heads (by simp only [upper, spans])⟩
  | none =>
    cases expansion : upperExpansions.lookup c.toNat with
    | some points =>
      exact UpperHead.of_expansion (mem_of_lookup_eq_some expansion)
        (by simp only [upper, spans, expansion])
    | none =>
      have own : upper c = [c] := by simp only [upper, spans, expansion]
      refine ⟨c, [], own, own, ?_, ?_, isIdentifierStart_of_isLetter heads⟩
      · intro x member
        rw [List.mem_singleton.mp member]
        exact isIdentifierPart_of_isSegmentStart heads
      · intro different member
        exact different (List.mem_singleton.mp member).symm

end SchemaNaming.Text
