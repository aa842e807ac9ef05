import SchemaNaming.Descriptor
import SchemaNaming.Proofs.Normalizer.Segments

/-!
Dotted names and their fronts. A name in parts has as fronts exactly the names of its first parts,
because no part holds a point.
-/

namespace SchemaNaming.Descriptor
open Text

/-- No part of a dotted name holds a point. -/
def Undotted (parts : List String) : Prop := ∀ part ∈ parts, '.' ∉ part.toList

theorem Undotted.of_subset {names others : List String} (undotted : Undotted names)
    (inside : others ⊆ names) : Undotted others := fun part member => undotted part (inside member)

theorem undotted_parts (name : String) : Undotted (parts name) := by
  intro part member
  obtain ⟨piece, listed, rfl⟩ := List.mem_map.mp member
  rw [divide_singleton] at listed
  intro point
  rw [String.toList_ofList] at point
  have uncut := not_cut_of_mem_divideAt listed '.' point
  simp at uncut

theorem parts_ne_nil (name : String) : parts name ≠ [] := by
  simp [parts, divide, divideFrom_ne_nil]

theorem toList_point (before after : String) :
    (before ++ "." ++ after).toList = before.toList ++ '.' :: after.toList := by
  simp [String.toList_append]

theorem dotted_singleton (part : String) : dotted [part] = part := rfl

theorem dotted_cons {rest : List String} (more : rest ≠ []) (part : String) :
    dotted (part :: rest) = part ++ "." ++ dotted rest := by
  cases rest with
  | nil => contradiction
  | cons next rest => rfl

theorem dotted_append {front rest : List String} (some : front ≠ []) (more : rest ≠ []) :
    dotted (front ++ rest) = dotted front ++ "." ++ dotted rest := by
  induction front with
  | nil => contradiction
  | cons part parts ih =>
    cases parts with
    | nil => exact dotted_cons more part
    | cons next others =>
      have filled : next :: others ≠ [] := by simp
      have tail := ih filled
      rw [List.cons_append, dotted_cons (by simp), tail, dotted_cons filled]
      simp only [String.append_assoc]

theorem dotted_concat {front : List String} (some : front ≠ []) (last : String) :
    dotted (front ++ [last]) = dotted front ++ "." ++ last := dotted_append some (by simp)

/-- Reading the parts of a name written from them. -/
theorem parts_dotted {names : List String} (some : names ≠ []) (undotted : Undotted names) :
    parts (dotted names) = names := by
  induction names with
  | nil => contradiction
  | cons part rest ih =>
    have uncut : ∀ c ∈ part.toList, (c == '.') = false := by
      intro c member
      have different : c ≠ '.' := fun same => undotted part List.mem_cons_self (same ▸ member)
      simp [different]
    cases rest with
    | nil =>
      rw [dotted_singleton, parts, divide_singleton, divideAt_of_uncut uncut, List.map_singleton,
        String.ofList_toList]
    | cons next rest =>
      have tail := ih (by simp) (undotted.of_subset (List.subset_cons_self _ _))
      rw [parts, divide_singleton] at tail
      rw [dotted_cons (by simp), parts, divide_singleton, toList_point,
        divideAt_append_cut uncut rfl, List.map_cons, tail, String.ofList_toList]

theorem dotted_append_cons (start part : String) (rest : List String) :
    dotted ((start ++ part) :: rest) = start ++ dotted (part :: rest) := by
  cases rest with
  | nil => rfl
  | cons next others =>
    have more : next :: others ≠ [] := by simp
    rw [dotted_cons more, dotted_cons more]
    simp only [String.append_assoc]

theorem dotted_divideAt (cs : List Char) :
    dotted ((divideAt (· == '.') cs).map String.ofList) = String.ofList cs := by
  have ofList_cons (c : Char) (cs : List Char) :
      String.ofList (c :: cs) = String.ofList [c] ++ String.ofList cs :=
    String.toList_inj.mp (by simp [String.toList_append])
  induction cs with
  | nil => rfl
  | cons c rest ih =>
    cases pieces : divideAt (· == '.') rest with
    | nil => exact absurd pieces (divideAt_ne_nil _ rest)
    | cons piece others =>
      rw [pieces] at ih
      rw [divideAt, pieces]
      split
      · rename_i cut
        obtain rfl : c = '.' := by simpa using cut
        rw [List.map_cons, dotted_cons (by simp), ih, ofList_cons '.' rest]
        exact String.toList_inj.mp (by simp [String.toList_append])
      · rw [consHead, List.map_cons, ofList_cons c piece, dotted_append_cons, ofList_cons c rest,
          ← ih, List.map_cons]

/-- Writing a name from its parts. -/
theorem dotted_parts (name : String) : dotted (parts name) = name := by
  rw [parts, divide_singleton, dotted_divideAt, String.ofList_toList]

/-- A name followed by a point begins another name. -/
def IsFront (front name : String) : Prop := front.toList ++ ['.'] <+: name.toList

theorem isPrefixOf_iff (front name : String) :
    (front ++ ".").isPrefixOf name = true ↔ IsFront front name := by
  rw [String.isPrefixOf, String.startsWith_string_iff, String.toList_append]
  rfl

theorem isFront_append {front rest : List String} (some : front ≠ []) (more : rest ≠ []) :
    IsFront (dotted front) (dotted (front ++ rest)) := by
  refine ⟨(dotted rest).toList, ?_⟩
  rw [dotted_append some more, toList_point]
  simp

theorem not_isFront_of_undotted (undotted : '.' ∉ name.toList) (front : String) :
    ¬ IsFront front name := by
  rintro ⟨rest, same⟩
  apply undotted
  simp [← same]

/-- The fronts of a name are its parent and the fronts of its parent. -/
theorem isFront_concat {parent last : String} (undotted : '.' ∉ last.toList) :
    IsFront front (parent ++ "." ++ last) ↔ front = parent ∨ IsFront front parent := by
  rw [IsFront, toList_point]
  constructor
  · rintro ⟨rest, same⟩
    rw [List.append_assoc, List.singleton_append] at same
    rcases List.append_eq_append_iff.mp same with ⟨between, longer, rest⟩ | ⟨between, longer, rest⟩
    · cases between with
      | nil => exact .inl (String.toList_inj.mp (by simpa using longer.symm))
      | cons c between =>
        obtain ⟨rfl, _⟩ := List.cons.inj rest
        exact .inr ⟨between, by simp [longer]⟩
    · cases between with
      | nil => exact .inl (String.toList_inj.mp (by simpa using longer))
      | cons c between =>
        obtain ⟨_, inside⟩ := List.cons.inj rest
        exact absurd (by simp [inside]) undotted
  · rintro (rfl | ⟨rest, same⟩)
    · exact ⟨last.toList, by simp⟩
    · exact ⟨rest ++ '.' :: last.toList, by rw [← List.append_assoc, same]⟩

end SchemaNaming.Descriptor
