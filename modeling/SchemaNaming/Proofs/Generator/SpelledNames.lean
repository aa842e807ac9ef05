import SchemaNaming.Proofs.Generator.DefaultNames

/-!
Replacements in any order. If no word of a table holds a character that the table replaces, nothing
that one replacement puts in is seen by another. Going through the table in any order is then the
same as substituting all characters at once, each by itself. Names of properties are spelled with such
a table, so the name of a text in two parts is put together from the names of the parts.
-/

namespace SchemaNaming

namespace Text

/-- An entry of a table whose keys are distinct is what its key is looked up as. -/
theorem lookup_eq_some_of_mem {α β : Type} [BEq α] [LawfulBEq α] {table : List (α × β)} {key : α}
    {value : β} (distinct : (table.map (·.1)).Nodup) (listed : (key, value) ∈ table) :
    table.lookup key = some value := by
  obtain ⟨before, behind, rfl⟩ := List.append_of_mem listed
  refine List.lookup_eq_some_iff.mpr ⟨before, behind, rfl, fun entry earlier => ?_⟩
  rw [List.map_append, List.nodup_append] at distinct
  have apart := distinct.2.2 entry.1 (List.mem_map_of_mem earlier) key (by simp)
  exact bne_iff_ne.mpr apart.symm

theorem lookup_eq_of_perm {α β : Type} [BEq α] [LawfulBEq α] {order table : List (α × β)}
    (distinct : (table.map (·.1)).Nodup) (same : order.Perm table) (key : α) :
    order.lookup key = table.lookup key := by
  have still : (order.map (·.1)).Nodup := (same.map _).nodup_iff.mpr distinct
  apply Option.ext
  intro value
  constructor
  · intro found
    exact lookup_eq_some_of_mem distinct (same.mem_iff.mp (mem_of_lookup_eq_some found))
  · intro found
    exact lookup_eq_some_of_mem still (same.mem_iff.mpr (mem_of_lookup_eq_some found))

end Text

namespace Normalizer
open Text

variable {pairs order : List (String × String)}

/-- A table that replaces single characters, each of them once, and puts none of them in. -/
structure IsSubstitution (pairs : List (String × String)) : Prop where
  single : ∀ pair ∈ pairs, pair.1.toList.length = 1
  distinct : (pairs.map (·.1)).Nodup
  apart : ∀ pair ∈ pairs, ∀ other ∈ pairs, other.1 ∉ pair.2.toList.map String.singleton

namespace IsSubstitution

theorem perm (substitution : IsSubstitution pairs) (same : order.Perm pairs) :
    IsSubstitution order where
  single pair listed := substitution.single pair (same.mem_iff.mp listed)
  distinct := (same.map _).nodup_iff.mpr substitution.distinct
  apart pair listed other otherListed :=
    substitution.apart pair (same.mem_iff.mp listed) other (same.mem_iff.mp otherListed)

theorem isSpelling (substitution : IsSubstitution pairs) : IsSpelling pairs :=
  ⟨substitution.single, List.pairwise_of_forall_mem_list substitution.apart⟩

theorem spell_perm (substitution : IsSubstitution pairs) (same : order.Perm pairs) :
    spell order = spell pairs := by
  funext c
  rw [spell, spell, lookup_eq_of_perm substitution.distinct same]

theorem replaceInTurn_perm (substitution : IsSubstitution pairs) (same : order.Perm pairs)
    (cs : List Char) : replaceInTurn order cs = cs.flatMap (spell pairs) := by
  rw [(substitution.perm same).isSpelling.replaceInTurn_eq, substitution.spell_perm same]

end IsSubstitution

end Normalizer

namespace Default
open Normalizer

theorem isSubstitution_propertySpelling : IsSubstitution propertySpelling :=
  ⟨by decide, by decide, by decide⟩

/-- A text with the characters of the table substituted, all at once. -/
def substituted (raw : String) : String :=
  String.ofList (raw.toList.flatMap (spell propertySpelling))

theorem substituted_append (first second : String) :
    substituted (first ++ second) = substituted first ++ substituted second := by
  rw [substituted, String.toList_append, List.flatMap_append, String.ofList_append, substituted,
    substituted]

end Default

namespace Generator
open Normalizer Default

theorem defaultAnswer_substituted (earlier : List Request) {raw : String} (given : raw ≠ "") :
    defaultAnswer .property earlier (.property (some raw)) = .ok (.text (substituted raw)) := by
  have answered : defaultAnswer .property earlier (.property (some raw)) =
      ((propertyName (some raw)).mapError Failure.of).map Value.text :=
    defaultAnswer_eq .property earlier _
  rw [answered, propertyName_some given]
  rfl

/-- Whatever their order is, the replacements for properties come down to one substitution, and the
default name of two texts in a row consists of the default names of both in a row. -/
theorem defaultAnswer_append {order : List (String × String)} (same : order.Perm propertySpelling)
    (earlier : List Request) {first second : String} (given : first ≠ "")
    (givenToo : second ≠ "") :
    let answer := fun raw => defaultAnswer .property earlier (.property (some raw))
    (∀ raw : String, String.ofList (replaceInTurn order raw.toList) = substituted raw) ∧
      answer first = .ok (.text (substituted first)) ∧
      answer second = .ok (.text (substituted second)) ∧
      answer (first ++ second) = .ok (.text (substituted first ++ substituted second)) := by
  intro answer
  have joined : first ++ second ≠ "" := by
    intro empty
    exact given (String.append_eq_empty_iff.mp empty).1
  refine ⟨?_, defaultAnswer_substituted earlier given,
    defaultAnswer_substituted earlier givenToo, ?_⟩
  · intro raw
    rw [isSubstitution_propertySpelling.replaceInTurn_perm same, substituted]
  · have spelled := defaultAnswer_substituted earlier joined
    rwa [substituted_append] at spelled

/-- The table from its end, and words that begin and end at the joint. -/
theorem defaultAnswer_append_reversed :
    propertySpelling.reverse.Perm propertySpelling ∧ "a(b)+" ≠ "" ∧ "+[*=]" ≠ "" ∧
      String.ofList (replaceInTurn propertySpelling.reverse "a(b)++[*=]".toList) =
        "a_bplusplusStar-" ∧
      defaultAnswer .property [] (.property (some ("a(b)+" ++ "+[*=]"))) =
        .ok (.text ("a_bplus" ++ "plusStar-")) := by
  have same := List.reverse_perm propertySpelling
  have given : "a(b)+" ≠ "" := by decide
  have givenToo : "+[*=]" ≠ "" := by decide
  obtain ⟨spells, _, _, joined⟩ := defaultAnswer_append same [] given givenToo
  have front : substituted "a(b)+" = "a_bplus" := by decide +kernel
  have back : substituted "+[*=]" = "plusStar-" := by decide +kernel
  have whole : substituted "a(b)++[*=]" = "a_bplusplusStar-" := by decide +kernel
  rw [front, back] at joined
  exact ⟨same, given, givenToo, (spells _).trans whole, joined⟩

end Generator

end SchemaNaming
