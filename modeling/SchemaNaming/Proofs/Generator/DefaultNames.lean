import SchemaNaming.Proofs.Generator.Refusals

/-!
What the default generators answer. They refuse an empty raw name. From another one they drop some
characters, and if it consists of these alone, nothing is left and the answer is an empty name. Types
always have a name, which is not empty and not reserved. A member whose value, or whose index where it
is reported, cannot be written ends in the failure to write it.
-/

namespace SchemaNaming
open Text Identifier Normalizer

namespace Default

/-- The characters that the default generator of a slot drops. -/
def dropped : Slot → List Char
  | .enum => ['"']
  | .type => []
  | .property => ['"', '?', '$', '[', ']', ')']

theorem spelled_eq_empty_iff {raw : String} :
    spelled raw = "" ↔ ∀ c ∈ raw.toList, c ∈ dropped .enum := by
  have words : operatorNames.all (fun entry => !entry.2.isEmpty &&
      entry.1.toList.any (fun c => !(dropped .enum).contains c)) = true := by decide +kernel
  cases found : operatorNames.lookup raw with
  | some word =>
    have entry := List.all_eq_true.mp words _ (mem_of_lookup_eq_some found)
    rw [Bool.and_eq_true, Bool.not_eq_true', ← Bool.not_eq_true, String.isEmpty_iff] at entry
    obtain ⟨c, member, kept⟩ := List.any_eq_true.mp entry.2
    have kept : c ∉ dropped .enum := by simpa using kept
    rw [spelled, found]
    exact iff_of_false entry.1 fun all => kept (all c member)
  | none =>
    rw [spelled, found, ← String.toList_eq_nil_iff, String.toList_ofList, List.filter_eq_nil_iff]
    simp [dropped]

theorem spell_eq_nil_iff (c : Char) :
    spell propertySpelling c = [] ↔ c ∈ dropped .property := by
  -- The table drops the characters of entries without a word.
  have table : propertySpelling.all (fun entry => entry.2.toList.isEmpty ==
      ((dropped .property).map String.singleton).contains entry.1) = true := by decide +kernel
  have known : (dropped .property).all (fun c =>
      (propertySpelling.lookup (String.singleton c)).isSome) = true := by decide +kernel
  have single : String.singleton c ∈ (dropped .property).map String.singleton ↔
      c ∈ dropped .property := by
    simp only [List.mem_map, String.singleton_inj, exists_eq_right]
  cases found : propertySpelling.lookup (String.singleton c) with
  | none =>
    have kept : c ∉ dropped .property := by
      intro member
      have listed := List.all_eq_true.mp known c member
      rw [found] at listed
      contradiction
    simp [spell, found, kept]
  | some word =>
    have entry := List.all_eq_true.mp table _ (mem_of_lookup_eq_some found)
    rw [beq_iff_eq, Bool.eq_iff_iff, List.contains_iff_mem, List.isEmpty_iff, single] at entry
    rw [spell, found]
    exact entry

end Default

namespace Generator
open Decorator

/-- What the default generator of a slot answers behind earlier requests. -/
def defaultAnswer (slot : Slot) (earlier : List Request) (request : Request) :
    Except Failure Value :=
  (((default slot).askAll earlier).2.ask request).1.result

theorem defaultAnswer_eq (slot : Slot) (earlier : List Request) (request : Request) :
    defaultAnswer slot earlier request = (Default.reply slot request).result := by
  have left := askAll_base (Default.base slot) earlier
  rw [defaultAnswer, default, left]
  rfl

theorem defaultAnswer_typeName (earlier : List Request) (schema : Schema) (hint : Option String)
    (names : Names) : defaultAnswer .type earlier (.type schema hint names) =
      .ok (.text (Default.typeName schema hint names.read.1)) :=
  defaultAnswer_eq .type earlier _

/-- A raw name is refused if it is empty, and else gets a name, which is empty if all its characters
are dropped. -/
structure NamesRaw (slot : Slot) (raw : String) (answer : Except Failure Value) : Prop where
  refused : raw = "" →
    ∃ subject reason, answer = .error (.of (.naming (.slot slot) subject reason))
  named : raw ≠ "" → ∃ name, answer = .ok (.text name) ∧
    (name = "" ↔ ∀ c ∈ raw.toList, c ∈ Default.dropped slot)

theorem defaultAnswer_enum_eq (earlier : List Request) (index : Int) (name : Option String)
    (value : Value) (schema : Schema) :
    defaultAnswer .enum earlier (.enum index name value schema) =
      ((Default.enumName index name value).mapError Failure.of).map Value.text :=
  defaultAnswer_eq .enum earlier _

/-- The answer about a member: a raw name is refused if it is empty, and then needs an index that can be
written. -/
structure NamesMember (index : Int) (raw : Option String) (answer : Except Failure Value) : Prop where
  unwritten : raw = none → answer = .error .unwritable
  unnumbered : raw = some "" → (Value.int index).hasLongInteger = true → answer = .error .unwritable
  named : ∀ text, raw = some text → (text = "" → (Value.int index).hasLongInteger = false) →
    NamesRaw .enum text answer

theorem defaultAnswer_enum (earlier : List Request) (index : Int) (name : Option String)
    (value : Value) (schema : Schema) :
    NamesMember index (Default.enumRaw? name value)
      (defaultAnswer .enum earlier (.enum index name value schema)) := by
  rw [defaultAnswer_enum_eq]
  have empty (own : Default.enumRaw? name value = some "") :
      Default.enumName index name value = .error (Default.unnamed index name) := by
    simp only [Default.enumName, own]
    rfl
  refine ⟨?_, ?_, ?_⟩
  · intro own
    simp only [Default.enumName, own]
    rfl
  · intro own long
    have unnamed : Default.unnamed index name = .mishap .digitLimit := by
      simp only [Default.unnamed, Value.shown?_eq_none.mpr long]
    rw [empty own, unnamed]
    rfl
  · intro text own short
    constructor
    · rintro rfl
      rw [empty own, Default.unnamed, Value.shown?_of_short (short rfl)]
      exact ⟨_, _, rfl⟩
    · intro some
      rw [Default.enumName_some own some]
      exact ⟨_, rfl, Default.spelled_eq_empty_iff⟩

theorem defaultAnswer_property (earlier : List Request) (name : Option String) :
    NamesRaw .property (name.getD "") (defaultAnswer .property earlier (.property name)) := by
  have answered : defaultAnswer .property earlier (.property name) =
      ((Default.propertyName name).mapError Failure.of).map Value.text :=
    defaultAnswer_eq .property earlier _
  rw [answered]
  constructor
  · intro empty
    refine ⟨Value.ofText? name, "property has no name", ?_⟩
    rw [Default.propertyName, empty]
    rfl
  · intro some
    cases name with
    | none => exact absurd rfl some
    | some raw =>
      have filled : raw ≠ "" := some
      rw [Default.propertyName_some filled]
      refine ⟨_, rfl, ?_⟩
      rw [← String.toList_eq_nil_iff, String.toList_ofList, List.flatMap_eq_nil_iff]
      exact forall_congr' fun c => imp_congr_right fun _ => Default.spell_eq_nil_iff c

theorem defaultAnswer_type (earlier : List Request) (schema : Schema) (hint : Option String)
    (names : Names) :
    ∃ name, defaultAnswer .type earlier (.type schema hint names) = .ok (.text name) ∧ name ≠ "" ∧
      name ∉ names.read.1 := by
  have answered := defaultAnswer_typeName earlier schema hint names
  refine ⟨_, answered, fun empty => ?_, uniqueName_notMem_used _ _⟩
  have some := Default.typeName_isEmpty schema hint names.read.1
  rw [empty] at some
  contradiction

/-- The default generators answer every request with a name or with a fault of naming for their slot,
whatever they have been asked before. A member and a property are refused if their raw name is empty,
and their name is empty if only dropped characters stand in a raw name that is not. A type has a name
in any case, which is not empty and not reserved. Only what cannot be written has neither name nor
fault. -/
theorem defaultAnswer_cases (earlier : List Request) :
    (∀ index name value schema, NamesMember index (Default.enumRaw? name value)
      (defaultAnswer .enum earlier (.enum index name value schema))) ∧
    (∀ schema hint names, ∃ name,
      defaultAnswer .type earlier (.type schema hint names) = .ok (.text name) ∧ name ≠ "" ∧
        name ∉ names.read.1) ∧
    ∀ name, NamesRaw .property (name.getD "")
      (defaultAnswer .property earlier (.property name)) :=
  ⟨defaultAnswer_enum earlier, defaultAnswer_type earlier, defaultAnswer_property earlier⟩

/-- A property whose name is a double quote is neither refused nor gets a name that is not empty. -/
theorem defaultAnswer_empty :
    ¬ ∀ request : Request,
      (∃ subject reason, defaultAnswer request.slot [] request =
        .error (.of (.naming (.slot request.slot) subject reason))) ∨
      ∃ name, defaultAnswer request.slot [] request = .ok (.text name) ∧ name ≠ "" := by
  intro named
  have outcome := defaultAnswer_property [] (some "\"")
  obtain ⟨name, answered, empty⟩ := outcome.named (by decide)
  have none : name = "" := empty.mpr (by simp [Default.dropped])
  rcases named (.property (some "\"")) with ⟨subject, reason, refused⟩ | ⟨other, given, filled⟩
  · have refused := answered.symm.trans refused
    contradiction
  · have same := answered.symm.trans given
    exact filled (Value.text.inj (Except.ok.inj same) ▸ none)

end Generator

end SchemaNaming
