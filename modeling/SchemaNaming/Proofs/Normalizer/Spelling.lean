import SchemaNaming.Generator.Default

/-!
Replacements in turn. Each of them goes over the result of those before it. If they replace single
characters, and none of them finds anything in what an earlier one has put in, this is the same as
spelling the text character by character.
-/

namespace SchemaNaming

namespace Normalizer
open Text

/-- What a table makes of one character; one that is not in the table stays. -/
def spell (pairs : List (String × String)) (c : Char) : List Char :=
  ((pairs.lookup (String.singleton c)).map String.toList).getD [c]

theorem spell_cons (old : Char) (new : String) (pairs : List (String × String)) (c : Char) :
    spell ((String.singleton old, new) :: pairs) c =
      if c == old then new.toList else spell pairs c := by
  have same : (String.singleton c == String.singleton old) = (c == old) := by
    rw [Bool.eq_iff_iff, beq_iff_eq, beq_iff_eq, String.singleton_inj]
  simp only [spell, List.lookup_cons, same]
  cases c == old <;> rfl

theorem spell_eq_self {pairs : List (String × String)} {c : Char}
    (unlisted : String.singleton c ∉ pairs.map (·.1)) : spell pairs c = [c] := by
  have absent : pairs.lookup (String.singleton c) = none := by
    refine List.lookup_eq_none_iff.mpr fun entry listed => bne_iff_ne.mpr fun same => unlisted ?_
    rw [same]
    exact List.mem_map_of_mem listed
  rw [spell, absent]
  rfl

theorem flatMap_spell_eq_self {pairs : List (String × String)} {cs : List Char}
    (kept : ∀ c ∈ cs, spell pairs c = [c]) : cs.flatMap (spell pairs) = cs := by
  rw [List.flatMap_def, List.map_congr_left kept, ← List.flatMap_def, List.flatMap_singleton']

/-- A table that replaces single characters, none of which an earlier replacement puts in. -/
structure IsSpelling (pairs : List (String × String)) : Prop where
  single : ∀ pair ∈ pairs, pair.1.toList.length = 1
  apart : pairs.Pairwise fun earlier later =>
    later.1 ∉ earlier.2.toList.map String.singleton

namespace IsSpelling

variable {pair : String × String} {pairs : List (String × String)}

theorem tail (spelling : IsSpelling (pair :: pairs)) : IsSpelling pairs :=
  ⟨fun other listed => spelling.single other (List.mem_cons_of_mem _ listed),
    (List.pairwise_cons.mp spelling.apart).2⟩

theorem head (spelling : IsSpelling (pair :: pairs)) : ∃ c, pair.1 = String.singleton c := by
  obtain ⟨c, characters⟩ := List.length_eq_one_iff.mp (spelling.single pair List.mem_cons_self)
  refine ⟨c, String.toList_injective ?_⟩
  rw [characters, String.toList_singleton]

/-- What the first replacement puts in is left alone by the others. -/
theorem flatMap_spell_head (spelling : IsSpelling (pair :: pairs)) :
    pair.2.toList.flatMap (spell pairs) = pair.2.toList := by
  refine flatMap_spell_eq_self fun c member => spell_eq_self fun listed => ?_
  obtain ⟨later, inTable, key⟩ := List.mem_map.mp listed
  have unput := (List.pairwise_cons.mp spelling.apart).1 later inTable
  rw [key] at unput
  exact unput (List.mem_map_of_mem member)

theorem replaceInTurn_eq (spelling : IsSpelling pairs) (cs : List Char) :
    replaceInTurn pairs cs = cs.flatMap (spell pairs) := by
  induction pairs generalizing cs with
  | nil => exact (List.flatMap_singleton' cs).symm
  | cons pair pairs ih =>
    obtain ⟨old, own⟩ := spelling.head
    obtain ⟨key, new⟩ := pair
    obtain rfl : key = String.singleton old := own
    have first : replace (String.singleton old).toList new.toList cs =
        cs.flatMap (fun c => if c == old then new.toList else [c]) := by
      rw [String.toList_singleton, replace_singleton]
    calc replaceInTurn ((String.singleton old, new) :: pairs) cs
        = replaceInTurn pairs (replace (String.singleton old).toList new.toList cs) := rfl
      _ = (replace (String.singleton old).toList new.toList cs).flatMap (spell pairs) :=
        ih spelling.tail _
      _ = cs.flatMap (spell ((String.singleton old, new) :: pairs)) := by
        rw [first, List.flatMap_assoc]
        congr 1
        funext c
        rw [spell_cons]
        split
        · exact spelling.flatMap_spell_head
        · exact List.flatMap_singleton (spell pairs) c

end IsSpelling

end Normalizer

namespace Default
open Normalizer

theorem isSpelling_propertySpelling : IsSpelling propertySpelling :=
  ⟨by decide, by decide⟩

/-- A property that has a name is spelled character by character. -/
theorem propertyName_some {raw : String} (some : raw ≠ "") :
    propertyName (.some raw) = .ok (String.ofList (raw.toList.flatMap (spell propertySpelling))) := by
  have full : ¬ (Option.getD (.some raw) "").isEmpty = true :=
    fun empty => some (String.isEmpty_iff.mp empty)
  rw [propertyName, if_neg full, isSpelling_propertySpelling.replaceInTurn_eq]
  rfl

end Default

end SchemaNaming
