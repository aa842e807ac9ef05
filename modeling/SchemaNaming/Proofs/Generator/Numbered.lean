import SchemaNaming.Proofs.Generator.Stacked
import SchemaNaming.Proofs.Pipeline.Occupants

/-!
Numbers behind the names of types. The default generator keeps its raw name off the reserved ones,
and the decorator around it does so again with the normalized name. If normalization leaves every
reserved name as it is, the two searches amount to one, for the first free number behind the name
that is given without reserved names.
-/

namespace SchemaNaming
open Text Identifier
open Normalizer (IsPlainCamel)

theorem Normalizer.IsPlainCamel.numbered {base : String} (camel : IsPlainCamel base.toList)
    (k : Nat) : IsPlainCamel (numbered base k).toList := by
  rw [toList_numbered]
  exact camel.append (isIdentifierPart_number k) Nat.underscore_not_in_toDigits

namespace Decorator

variable {d : Decorator} {base name : String} {used : List String}

/-- A name that a decorator's normalizer leaves as it is. -/
def Fixes (d : Decorator) (name : String) : Prop := d.normalizer.normalize name = .ok name

namespace IsLayer

theorem isPlainCamel_of_normalize (layer : d.IsLayer .type)
    (named : d.normalizer.normalize base = .ok name) : IsPlainCamel name.toList := by
  obtain ⟨c, single, _, separate⟩ := layer.separator
  have characters : d.separator.toList = [c] := by rw [single, String.toList_singleton]
  rw [normalizer_eq layer.text, layer.own] at named
  obtain ⟨text, some⟩ := Normalizer.normalize_ok named
  rw [text]
  exact Normalizer.form_isPlainCamel characters separate layer.lead Slot.noConfusion some

theorem fixes_iff (layer : d.IsLayer .type) : d.Fixes name ↔ IsPlainCamel name.toList :=
  ⟨layer.isPlainCamel_of_normalize, layer.normalize_eq_self⟩

/-- A number that keeps a raw name off fixed names makes no difference in the end. Either the raw
name is none of them, or it is fixed itself and stays so with a number behind it. -/
theorem normalize_uniqueName (layer : d.IsLayer .type) (fixed : ∀ name ∈ used, d.Fixes name)
    (base : String) :
    (d.normalizer.normalize (uniqueName base used)).map (fun name => .text (uniqueName name used)) =
      (d.normalizer.normalize base).map (fun name => Value.text (uniqueName name used)) := by
  by_cases taken : base ∈ used
  · have own : d.normalizer.normalize base = .ok base := fixed base taken
    obtain ⟨k, first, same⟩ := uniqueName_of_taken taken
    have again : d.normalizer.normalize (numbered base k) = .ok (numbered base k) :=
      layer.fixes_iff.mpr ((layer.fixes_iff.mp own).numbered k)
    have free : uniqueName (numbered base k) used = numbered base k :=
      uniqueName_of_free first.free
    rw [same, again, own]
    simp only [Except.map, same, free]
  · rw [uniqueName_of_free taken]

end IsLayer

theorem isLayer_default (slot : Slot) : ({ slot } : Decorator).IsLayer slot :=
  have camel : isUpperCamel "N".toList = true := by decide +kernel
  have plain : '_' ∉ "N".toList := by decide
  ⟨rfl, rfl, ⟨'-', rfl, by decide +kernel, by decide⟩, ⟨camel, plain⟩⟩

end Decorator

namespace Default

theorem typeName_eq (schema : Schema) (hint : Option String) (reserved : List String) :
    typeName schema hint reserved = uniqueName (typeName schema hint []) reserved := by
  simp only [typeName, uniqueName_of_free List.not_mem_nil]

theorem typeName_isEmpty (schema : Schema) (hint : Option String) (reserved : List String) :
    (typeName schema hint reserved).isEmpty = false := by
  have some : (typeName schema hint []).toList ≠ [] := by
    simp only [typeName, uniqueName_of_free List.not_mem_nil]
    split
    · decide
    · rename_i filled
      simpa using filled
  obtain ⟨number, same, _⟩ := uniqueName_eq_append (typeName schema hint []) reserved
  refine Bool.eq_false_of_not_eq_true fun empty => some ?_
  rw [← typeName_eq, String.isEmpty_iff.mp empty] at same
  exact (List.append_eq_nil_iff.mp same.symm).1

end Default

namespace Generator
open Decorator

variable {d : Decorator}

theorem ask_standard_type (layer : d.IsLayer .type) (asked : List Request) (schema : Schema)
    (hint : Option String) (names : Names) :
    ((decorated d (.base { Default.base d.slot with asked })).ask
      (.type schema hint names)).1.result =
      (d.normalizer.normalize (Default.typeName schema hint names.read.1.eraseDups)).map
        (fun name => .text (uniqueName name names.read.1.eraseDups)) := by
  let used := names.read.1.eraseDups
  have own : (Request.type schema hint names).slot = d.slot := layer.own.symm
  have some : ¬ (Default.typeName schema hint used).isEmpty = true := by
    simp [Default.typeName_isEmpty]
  have given : ((Generator.base { Default.base .type with asked }).ask
      (received (.type schema hint names))).1 = .name (Default.typeName schema hint used) := rfl
  rw [ask_of_slot own, layer.own, given]
  dsimp only [finish, Reply.name]
  rw [if_neg some]
  rfl

/-- What the type generator that fills a slot by default answers behind earlier requests. -/
def typeAnswer (earlier : List Request) (schema : Schema) (hint : Option String) (names : Names) :
    Except Failure Value :=
  (((standard { slot := .type }).askAll earlier).2.ask (.type schema hint names)).1.result

theorem typeAnswer_eq (earlier : List Request) (schema : Schema) (hint : Option String)
    (names : Names) (fixed : ∀ name ∈ names.read.1, Fixes { slot := .type } name) :
    typeAnswer earlier schema hint names =
      ((normalizer { slot := .type }).normalize (Default.typeName schema hint [])).map
        (fun name => .text (uniqueName name names.read.1.eraseDups)) := by
  have layer := isLayer_default .type
  obtain ⟨reached, same⟩ := askAll_decorated { slot := .type } (default .type) earlier
  have left := askAll_base (Default.base .type) reached
  have distinct : ∀ name ∈ names.read.1.eraseDups, Fixes { slot := .type } name :=
    fun name member => fixed name (List.mem_eraseDups.mp member)
  rw [typeAnswer, standard, same, default, left, ask_standard_type layer, Default.typeName_eq]
  exact layer.normalize_uniqueName distinct (Default.typeName schema hint [])

/-- The default type generator needs one search for free numbers at most. Where it fails without
reserved names it fails in the same way with them, and the name that it gives without them is given
with them too, unless it is reserved: then the first free number stands behind it. All these names
are left as they are by normalization again. -/
theorem typeAnswer_reserved (earlier later : List Request) (schema : Schema)
    (hint : Option String) (names : Names)
    (fixed : ∀ name ∈ names.read.1, Fixes { slot := .type } name) :
    (∀ failure, typeAnswer earlier schema hint (.collection []) = .error failure →
      typeAnswer later schema hint names = .error failure) ∧
    ∀ v, typeAnswer earlier schema hint (.collection []) = .ok v →
      ∃ name, v = .text name ∧ Fixes { slot := .type } name ∧
        (name ∉ names.read.1 → typeAnswer later schema hint names = .ok (.text name)) ∧
        (name ∈ names.read.1 → ∃ k, IsFirstFree name names.read.1 k ∧
          Fixes { slot := .type } (numbered name k) ∧
          typeAnswer later schema hint names = .ok (.text (numbered name k))) := by
  have layer := isLayer_default .type
  have members (name : String) : name ∈ names.read.1.eraseDups ↔ name ∈ names.read.1 :=
    List.mem_eraseDups
  have alone := typeAnswer_eq earlier schema hint (.collection [])
    fun _ member => absurd member List.not_mem_nil
  rw [alone, typeAnswer_eq later schema hint names fixed]
  cases named : (normalizer { slot := .type }).normalize (Default.typeName schema hint []) with
  | error failure => exact ⟨fun _ same => same, fun _ same => nomatch same⟩
  | ok name =>
    have camel := layer.isPlainCamel_of_normalize named
    refine ⟨fun _ same => (nomatch same), fun v same => ?_⟩
    have whole : uniqueName name [] = name := uniqueName_of_free List.not_mem_nil
    refine ⟨name, ?_, layer.fixes_iff.mpr camel, fun free => ?_, fun taken => ?_⟩
    · exact (Except.ok.inj same).symm.trans (congrArg Value.text whole)
    · change Except.ok (Value.text (uniqueName name names.read.1.eraseDups)) = _
      rw [uniqueName_of_free (mt (members name).mp free)]
    · obtain ⟨k, first, number⟩ := uniqueName_of_taken ((members name).mpr taken)
      refine ⟨k, first.congr members, layer.fixes_iff.mpr (camel.numbered k), ?_⟩
      change Except.ok (Value.text (uniqueName name names.read.1.eraseDups)) = _
      rw [number]

/-- A raw name that is not reserved, and whose normalized name is, along with the next number. -/
theorem typeAnswer_reserved_collapsed :
    let names : Names := .iterator ["PetStore", "Pet", "PetStore2"]
    let hint := some "pet_store"
    (∀ name ∈ names.read.1, Fixes { slot := .type } name) ∧
      typeAnswer [] {} hint (.collection []) = .ok (.text "PetStore") ∧
      IsFirstFree "PetStore" names.read.1 3 ∧
      typeAnswer [.property none] {} hint names = .ok (.text "PetStore3") := by
  intro names hint
  have layer := isLayer_default .type
  have fixed : ∀ name ∈ names.read.1, Fixes { slot := .type } name := by
    have camels : ∀ name ∈ names.read.1, isUpperCamel name.toList = true ∧ '_' ∉ name.toList := by
      decide +kernel
    intro name member
    exact layer.fixes_iff.mpr ⟨(camels name member).1, (camels name member).2⟩
  have answered :
      TypeCall.answered (typeAnswer [] {} hint (.collection [])) = ["PetStore"] := by
    decide +kernel
  have alone := TypeCall.mem_answered.mp (answered ▸ List.mem_singleton_self "PetStore")
  obtain ⟨_, given⟩ := typeAnswer_reserved [] [.property none] {} hint names fixed
  obtain ⟨name, same, _, _, numbers⟩ := given _ alone
  obtain rfl := Value.text.inj same
  obtain ⟨k, first, _, whole⟩ := numbers (by decide)
  have third : IsFirstFree "PetStore" names.read.1 3 := by
    refine ⟨by decide, by decide, fun j low high => ?_⟩
    obtain rfl : j = 2 := by omega
    decide
  have number : k = 3 := first.unique third
  subst number
  exact ⟨fixed, alone, third, whole⟩

end Generator

end SchemaNaming
