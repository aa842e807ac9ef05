import SchemaNaming.Proofs.Generator.GenericHints

/-!
Where the name of a type comes from when no hint is given. A title is used unless a space stands inside
it, and the document only if there is no such title. So the document is not looked at either when the
title is blank, or when other whitespace than spaces stands between its words.
-/

namespace SchemaNaming
open Text Identifier

theorem Schema.hasTypeNameTitle_iff (schema : Schema) :
    schema.hasTypeNameTitle = true ↔
      schema.title.getD "" ≠ "" ∧ ' ' ∉ strip (schema.title.getD "").toList := by
  cases given : schema.title with
  | none => simp [hasTypeNameTitle, given]
  | some title => simp [hasTypeNameTitle, given]

namespace Default

variable {schema : Schema} {hint : Option String}

/-- No hint is given, and the title is not one word, but the path of the document has a stem. -/
structure NeedsStem (schema : Schema) (hint : Option String) : Prop where
  hintless : hint.getD "" = ""
  untitled : (words (schema.title.getD "").toList).length ≠ 1
  stem : documentStem (schema.documentPath.getD "").toList ≠ []

theorem typeHint_of_title (hintless : hint.getD "" = "") (titled : schema.hasTypeNameTitle = true) :
    typeHint schema hint = (schema.title.getD "").toList := by
  have filled : schema.title.getD "" ≠ "" := (schema.hasTypeNameTitle_iff.mp titled).1
  simp [typeHint, hintless, titled, filled]

theorem typeHint_of_document (hintless : hint.getD "" = "")
    (untitled : schema.hasTypeNameTitle = false)
    (stem : documentStem (schema.documentPath.getD "").toList ≠ []) :
    typeHint schema hint = documentStem (schema.documentPath.getD "").toList := by
  have path : schema.documentPath.getD "" ≠ "" := by
    intro empty
    rw [empty] at stem
    exact stem rfl
  simp [typeHint, hintless, untitled, path]

theorem typeName_congr {other : Option String} (same : typeHint schema hint = typeHint schema other)
    (reserved : List String) : typeName schema hint reserved = typeName schema other reserved := by
  rw [typeName, typeName, same]

theorem typeName_of_blank (blank : IsSpace (typeHint schema hint)) (reserved : List String) :
    typeName schema hint reserved = uniqueName anonymousName reserved := by
  rw [typeName, typeBody_eq, hintParts_of_space blank]
  rfl

end Default

namespace Generator
open Default

variable {schema : Schema} {hint : Option String}

/-- Without a hint and with a title that is not one word, a type is named by the stem of its document
if the title is empty or has a space inside. Otherwise the title hides the document: a blank one leaves
the type anonymous, and several words with other whitespace between them are its name. -/
theorem defaultAnswer_untitled (needs : NeedsStem schema hint) (earlier : List Request)
    (names : Names) :
    let title := schema.title.getD ""
    let stem := String.ofList (documentStem (schema.documentPath.getD "").toList)
    let answer := fun hint => defaultAnswer .type earlier (.type schema hint names)
    (title = "" ∨ ' ' ∈ strip title.toList) ∧ answer hint = answer (some stem) ∨
      title ≠ "" ∧ words title.toList = [] ∧
        answer hint = .ok (.text (uniqueName "Anonymous" names.read.1)) ∨
      ' ' ∉ strip title.toList ∧ 2 ≤ (words title.toList).length ∧
        answer hint = answer (some title) := by
  intro title stem answer
  have answered (hint : Option String) :
      answer hint = .ok (.text (typeName schema hint names.read.1)) :=
    defaultAnswer_typeName earlier schema hint names
  cases titled : schema.hasTypeNameTitle with
  | false =>
    have passed : title = "" ∨ ' ' ∈ strip title.toList := by
      have refused := mt schema.hasTypeNameTitle_iff.mpr (Bool.eq_false_iff.mp titled)
      simpa only [not_and_or, not_not] using refused
    have given : stem ≠ "" := by simpa [stem] using needs.stem
    have same : typeHint schema hint = typeHint schema (some stem) := by
      rw [typeHint_of_document needs.hintless titled needs.stem, typeHint_of_given schema given,
        String.toList_ofList]
    exact .inl ⟨passed, by rw [answered, answered, typeName_congr same]⟩
  | true =>
    obtain ⟨filled, inside⟩ := schema.hasTypeNameTitle_iff.mp titled
    have taken := typeHint_of_title needs.hintless titled
    by_cases none : words title.toList = []
    · have blank : IsSpace (typeHint schema hint) := by
        rw [taken]
        exact isBlank_of_words_eq_nil none
      exact .inr (.inl ⟨filled, none, by rw [answered, typeName_of_blank blank]; rfl⟩)
    · have several : 2 ≤ (words title.toList).length := by
        have some := List.length_pos_iff.mpr none
        have other : (words title.toList).length ≠ 1 := needs.untitled
        omega
      have same : typeHint schema hint = typeHint schema (some title) := by
        rw [taken, typeHint_of_given schema filled]
      exact .inr (.inr ⟨inside, several, by rw [answered, answered, typeName_congr same]⟩)

/-- A title of two words, and a path with both kinds of slashes and two points. -/
theorem defaultAnswer_untitled_words :
    let schema : Schema := { title := some "My pet", documentPath := some "a\\b/pet.store.json//" }
    let names : Names := .iterator ["Store"]
    NeedsStem schema (some "") ∧
      TypeCall.answered (defaultAnswer .type [] (.type schema (some "") names)) = ["Store2"] ∧
      defaultAnswer .type [] (.type schema (some "") names) =
        defaultAnswer .type [] (.type schema (some "pet.store") names) := by
  intro schema names
  have needs : NeedsStem schema (some "") := ⟨rfl, by decide +kernel, by decide +kernel⟩
  have stem : String.ofList (documentStem (schema.documentPath.getD "").toList) = "pet.store" := by
    decide +kernel
  refine ⟨needs, by decide +kernel, ?_⟩
  rcases defaultAnswer_untitled needs [] names with ⟨_, same⟩ | ⟨_, none, _⟩ | ⟨undivided, _⟩
  · rwa [stem] at same
  · exact absurd none (by decide +kernel)
  · exact absurd (by decide +kernel) undivided

/-- A title that is a space hides the document, although there is no word in it. -/
theorem defaultAnswer_hidden :
    ¬ ∀ schema hint names, NeedsStem schema hint →
      defaultAnswer .type [] (.type schema hint names) =
        defaultAnswer .type [] (.type schema
          (some (String.ofList (documentStem (schema.documentPath.getD "").toList))) names) := by
  intro found
  let schema : Schema := { title := some " ", documentPath := some "pets.json" }
  have needs : NeedsStem schema none := ⟨rfl, by decide +kernel, by decide +kernel⟩
  have same := congrArg TypeCall.answered (found schema none (.collection []) needs)
  have differ : ¬ TypeCall.answered (defaultAnswer .type [] (.type schema none (.collection []))) =
      TypeCall.answered (defaultAnswer .type [] (.type schema
        (some (String.ofList (documentStem (schema.documentPath.getD "").toList)))
        (.collection []))) := by
    decide +kernel
  exact differ same

end Generator

end SchemaNaming
