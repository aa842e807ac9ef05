import SchemaNaming.Proofs.Generator.DefaultNames
import SchemaNaming.Proofs.Text.Stripping
import SchemaNaming.Proofs.Text.Words

/-!
Generic hints. A type expression is a qualified name, alone or with arguments in brackets that are type
expressions again. The default generator names one by its parts in order: the last segment of each
qualified name, and a word for each opening bracket and each comma. It does not parse the hint: brackets
and commas are spelled as words between whitespace, and every word counts for itself.
-/

namespace SchemaNaming
open Text Identifier Normalizer

/-- What parts the names in a type expression from each other. -/
def hintMarks : List Char := ['[', ']', '<', '>', ',']

/-- A segment of a qualified name: neither whitespace nor points, brackets or commas stand in it. -/
structure IsSegment (cs : List Char) : Prop where
  filled : cs ≠ []
  shown : ∀ c ∈ cs, isBlank c = false
  plain : ∀ c ∈ cs, c ∉ '.' :: hintMarks

instance (cs : List Char) : Decidable (IsSegment cs) :=
  decidable_of_iff (cs ≠ [] ∧ cs.all (fun c => !isBlank c) = true ∧
      cs.all (fun c => !('.' :: hintMarks).contains c) = true)
    ⟨fun ⟨filled, shown, plain⟩ => ⟨filled, by simpa using shown, by simpa using plain⟩,
      fun segment => ⟨segment.filled, by simpa using segment.shown, by simpa using segment.plain⟩⟩

/-- A name behind the names of what it stands in. -/
structure QualifiedName where
  qualifiers : List (List Char)
  own : List Char
  segments : ∀ cs ∈ qualifiers ++ [own], IsSegment cs

/-- The segments with a point between each two. -/
def QualifiedName.text (name : QualifiedName) : List Char :=
  name.qualifiers.flatMap (· ++ ['.']) ++ name.own

inductive Brackets where
  | square
  | angle

namespace Brackets

def opening : Brackets → Char
  | square => '['
  | angle => '<'

def closing : Brackets → Char
  | square => ']'
  | angle => '>'

end Brackets

mutual

/-- A qualified name, alone or applied to arguments in brackets. -/
inductive TypeExpression where
  | plain (name : QualifiedName)
  | applied (name : QualifiedName) (brackets : Brackets) (arguments : TypeArguments)

/-- One argument or several. -/
inductive TypeArguments where
  | last (argument : TypeExpression)
  | more (argument : TypeExpression) (rest : TypeArguments)

end

mutual

/-- What a type expression contributes to a name, in order. -/
def TypeExpression.parts : TypeExpression → List (List Char)
  | .plain name => [capitalize name.own]
  | .applied name _ arguments => capitalize name.own :: ['O', 'f'] :: arguments.parts

def TypeArguments.parts : TypeArguments → List (List Char)
  | .last argument => argument.parts
  | .more argument rest => argument.parts ++ ['A', 'n', 'd'] :: rest.parts

end

def TypeExpression.name (e : TypeExpression) : String := String.ofList e.parts.flatten

/-- Whitespace of any kind and any length, none included. -/
def IsSpace (cs : List Char) : Prop := ∀ c ∈ cs, isBlank c = true

instance (cs : List Char) : Decidable (IsSpace cs) :=
  decidable_of_iff (cs.all isBlank = true) List.all_eq_true

mutual

/-- The texts of a type expression: whitespace may stand around its names, brackets and commas. -/
inductive TypeExpression.Writes : TypeExpression → List Char → Prop where
  | plain (name : QualifiedName) {before after : List Char} (lead : IsSpace before)
    (trail : IsSpace after) : TypeExpression.Writes (.plain name) (before ++ name.text ++ after)
  | applied (name : QualifiedName) (brackets : Brackets) {arguments : TypeArguments}
    {before between inside after : List Char} (lead : IsSpace before) (gap : IsSpace between)
    (written : TypeArguments.Writes arguments inside) (trail : IsSpace after) :
    TypeExpression.Writes (.applied name brackets arguments)
      (before ++ name.text ++ between ++
        brackets.opening :: (inside ++ brackets.closing :: after))

inductive TypeArguments.Writes : TypeArguments → List Char → Prop where
  | last {argument : TypeExpression} {text : List Char}
    (written : TypeExpression.Writes argument text) : TypeArguments.Writes (.last argument) text
  | more {argument : TypeExpression} {rest : TypeArguments} {first others : List Char}
    (written : TypeExpression.Writes argument first) (later : TypeArguments.Writes rest others) :
    TypeArguments.Writes (.more argument rest) (first ++ ',' :: others)

end

namespace Default

theorem isSpelling_genericSpelling : IsSpelling genericSpelling :=
  ⟨by decide, by decide⟩

theorem spell_genericSpelling {c : Char} (plain : c ∉ hintMarks) :
    spell genericSpelling c = [c] := by
  have keys : genericSpelling.map (·.1) = hintMarks.map String.singleton := by decide
  refine spell_eq_self fun listed => plain ?_
  rw [keys] at listed
  obtain ⟨mark, member, same⟩ := List.mem_map.mp listed
  exact String.singleton_inj.mp same ▸ member

/-- The parts that the words of a hint make, once it is spelled. -/
def hintParts (hint : List Char) : List (List Char) :=
  (words (hint.flatMap (spell genericSpelling))).map fun word => capitalize (afterLast '.' word)

theorem typeBody_eq (hint : List Char) : typeBody hint = (hintParts hint).flatten := by
  rw [typeBody, isSpelling_genericSpelling.replaceInTurn_eq, hintParts, List.flatMap_def,
    List.map_map]
  rfl

/-- A character parts hints from each other, and contributes what stands between their parts. -/
def Separates (mark : Char) (between : List (List Char)) : Prop :=
  ∀ front back, hintParts (front ++ mark :: back) = hintParts front ++ between ++ hintParts back

theorem separates_of_space {mark c : Char} (spelled : spell genericSpelling mark = [c])
    (blank : isBlank c = true) : Separates mark [] := by
  intro front back
  simp only [hintParts, List.flatMap_append, List.flatMap_cons, spelled, List.singleton_append,
    words_append_cons blank, List.map_append, List.append_nil]

theorem separates_of_blank {c : Char} (blank : isBlank c = true) : Separates c [] := by
  refine separates_of_space (spell_genericSpelling fun member => ?_) blank
  have shown : hintMarks.all (fun mark => !isBlank mark) = true := by decide +kernel
  have other := List.all_eq_true.mp shown c member
  rw [blank] at other
  contradiction

theorem separates_closing (brackets : Brackets) : Separates brackets.closing [] := by
  have spelled : spell genericSpelling brackets.closing = [' '] := by cases brackets <;> decide
  exact separates_of_space spelled (by decide +kernel)

/-- A character that is spelled as a word between spaces contributes this word. -/
theorem separates_of_spell {mark : Char} {word : List Char}
    (spelled : spell genericSpelling mark = ' ' :: (word ++ [' '])) (whole : words word = [word])
    (cased : capitalize (afterLast '.' word) = word) : Separates mark [word] := by
  intro front back
  have blank : isBlank ' ' = true := by decide +kernel
  simp only [hintParts, List.flatMap_append, List.flatMap_cons, spelled, List.cons_append,
    List.append_assoc, List.nil_append, words_append_cons blank, whole, List.map_append,
    List.map_cons, cased]

theorem separates_opening (brackets : Brackets) : Separates brackets.opening [['O', 'f']] := by
  have spelled : spell genericSpelling brackets.opening = ' ' :: (['O', 'f'] ++ [' ']) := by
    cases brackets <;> decide
  exact separates_of_spell spelled (by decide +kernel) (by decide +kernel)

theorem separates_comma : Separates ',' [['A', 'n', 'd']] := by
  have spelled : spell genericSpelling ',' = ' ' :: (['A', 'n', 'd'] ++ [' ']) := by decide
  exact separates_of_spell spelled (by decide +kernel) (by decide +kernel)

theorem hintParts_before {before : List Char} (space : IsSpace before) (hint : List Char) :
    hintParts (before ++ hint) = hintParts hint := by
  induction before with
  | nil => rfl
  | cons c rest ih =>
    obtain ⟨first, others⟩ := List.forall_mem_cons.mp space
    exact (separates_of_blank first [] (rest ++ hint)).trans (ih others)

theorem hintParts_of_space {cs : List Char} (space : IsSpace cs) : hintParts cs = [] := by
  have alone := hintParts_before space []
  rwa [List.append_nil] at alone

theorem hintParts_after {after : List Char} (space : IsSpace after) (hint : List Char) :
    hintParts (hint ++ after) = hintParts hint := by
  cases after with
  | nil => rw [List.append_nil]
  | cons c rest =>
    obtain ⟨first, others⟩ := List.forall_mem_cons.mp space
    rw [separates_of_blank first, hintParts_of_space others, List.append_nil, List.append_nil]

end Default

namespace QualifiedName
open Default

theorem afterLast_text (name : QualifiedName) : afterLast '.' name.text = name.own := by
  have own := name.segments name.own (List.mem_append_right _ List.mem_cons_self)
  have undotted : '.' ∉ name.own := fun member => own.plain '.' member List.mem_cons_self
  rcases List.eq_nil_or_concat name.qualifiers with none | ⟨outer, qualifier, whole⟩
  · rw [text, none, List.flatMap_nil, List.nil_append, afterLast_eq_self undotted]
  · have text : name.text = outer.flatMap (· ++ ['.']) ++ qualifier ++ '.' :: name.own := by
      simp [QualifiedName.text, whole]
    rw [text, afterLast_append _ undotted]

theorem plain_of_mem_text {name : QualifiedName} {c : Char} (member : c ∈ name.text) :
    isBlank c = false ∧ c ∉ hintMarks := by
  have ofSegment : ∀ cs ∈ name.qualifiers ++ [name.own], c ∈ cs →
      isBlank c = false ∧ c ∉ hintMarks := by
    intro cs listed inside
    have segment := name.segments cs listed
    exact ⟨segment.shown c inside,
      fun mark => segment.plain c inside (List.mem_cons_of_mem '.' mark)⟩
  rcases List.mem_append.mp member with inQualifiers | inOwn
  · obtain ⟨qualifier, listed, inside⟩ := List.mem_flatMap.mp inQualifiers
    rcases List.mem_append.mp inside with inside | point
    · exact ofSegment qualifier (List.mem_append_left _ listed) inside
    · rw [List.mem_singleton.mp point]
      decide +kernel
  · exact ofSegment name.own (List.mem_append_right _ List.mem_cons_self) inOwn

theorem own_ne_nil (name : QualifiedName) : name.own ≠ [] :=
  (name.segments name.own (List.mem_append_right _ List.mem_cons_self)).filled

theorem text_ne_nil (name : QualifiedName) : name.text ≠ [] := by
  intro empty
  exact name.own_ne_nil (List.append_eq_nil_iff.mp empty).2

theorem hintParts_text (name : QualifiedName) :
    hintParts name.text = [capitalize name.own] := by
  have shown : ∀ c ∈ name.text, isBlank c = false := fun c member => (plain_of_mem_text member).1
  have kept : ∀ c ∈ name.text, spell genericSpelling c = [c] := fun c member =>
    spell_genericSpelling (plain_of_mem_text member).2
  rw [hintParts, flatMap_spell_eq_self kept, words_of_shown name.text_ne_nil shown,
    List.map_singleton, name.afterLast_text]

end QualifiedName

open Default

mutual

theorem TypeExpression.Writes.hintParts_eq {e : TypeExpression} {text : List Char} :
    e.Writes text → hintParts text = e.parts
  | .plain name lead trail => by
    rw [hintParts_after trail, hintParts_before lead, name.hintParts_text, TypeExpression.parts]
  | .applied name brackets lead gap written trail => by
    rw [separates_opening, hintParts_after gap, hintParts_before lead, name.hintParts_text,
      separates_closing, written.hintParts_eq, hintParts_of_space trail, List.append_nil,
      List.append_nil, TypeExpression.parts]
    rfl

theorem TypeArguments.Writes.hintParts_eq {arguments : TypeArguments} {text : List Char} :
    arguments.Writes text → hintParts text = arguments.parts
  | .last written => by rw [written.hintParts_eq, TypeArguments.parts]
  | .more written later => by
    rw [separates_comma, written.hintParts_eq, later.hintParts_eq, TypeArguments.parts,
      List.append_assoc, List.singleton_append]

end

namespace TypeExpression

/-- The qualified name in front contributes its own letters at least. -/
theorem flatten_parts_ne_nil (e : TypeExpression) : e.parts.flatten ≠ [] := by
  cases e with
  | plain name | applied name =>
    exact List.append_ne_nil_of_left_ne_nil (capitalize_ne_nil name.own_ne_nil) _

theorem Writes.ne_nil {e : TypeExpression} {text : List Char} (written : e.Writes text) :
    text ≠ [] := by
  rintro rfl
  have parts := written.hintParts_eq
  exact e.flatten_parts_ne_nil (by rw [← parts]; rfl)

end TypeExpression

theorem Default.typeHint_of_given (schema : Schema) {hint : String} (given : hint ≠ "") :
    typeHint schema (some hint) = hint.toList := by
  have filled : hint.toList.isEmpty = false := by simpa using given
  simp [typeHint, filled]

namespace Generator

/-- However a type expression is nested, and whatever whitespace stands around its names, brackets and
commas: given as the hint, it is named by its parts in order, if no names are reserved. -/
theorem defaultAnswer_generic {e : TypeExpression} {text : String}
    (written : e.Writes text.toList) (earlier : List Request) (schema : Schema) {names : Names}
    (free : names.read.1 = []) :
    defaultAnswer .type earlier (.type schema (some text) names) = .ok (.text e.name) := by
  have given : text ≠ "" := fun empty => written.ne_nil (String.toList_eq_nil_iff.mpr empty)
  have body : typeBody text.toList = e.parts.flatten := by rw [typeBody_eq, written.hintParts_eq]
  have filled : e.parts.flatten.isEmpty = false := by simpa using e.flatten_parts_ne_nil
  have named : typeName schema (some text) [] = e.name := by
    simp only [typeName, typeHint_of_given schema given, body, filled,
      uniqueName_of_free List.not_mem_nil]
    rfl
  rw [defaultAnswer_typeName, free, named]

/-- Both kinds of brackets, qualifiers, whitespace other than spaces, and a letter whose upper case is
two. -/
theorem defaultAnswer_generic_nested :
    let map : QualifiedName := ⟨[['u', 't', 'i', 'l']], ['M', 'a', 'p'], by decide +kernel⟩
    let key : QualifiedName := ⟨[['a'], ['b']], ['ß', 'x'], by decide +kernel⟩
    let list : QualifiedName := ⟨[], ['l', 'i', 's', 't'], by decide +kernel⟩
    let item : QualifiedName := ⟨[], ['1', 's', 't'], by decide +kernel⟩
    let lists : TypeExpression := .applied list .square (.last (.plain item))
    let e : TypeExpression := .applied map .angle (.more (.plain key) (.last lists))
    let text := "util.Map\u2003< a.b.ßx,\tlist[1st] >\n"
    e.Writes text.toList ∧ (Names.iterator []).read.1 = [] ∧ e.name = "MapOfSSxAndListOf1st" ∧
      defaultAnswer .type [.property none] (.type { title := some "Pet" } (some text) (.iterator [])) =
        .ok (.text e.name) := by
  intro map key list item lists e text
  have nothing : IsSpace [] := by decide +kernel
  have first : (TypeExpression.plain key).Writes _ :=
    .plain key (show IsSpace [' '] by decide +kernel) nothing
  have inner : lists.Writes _ :=
    .applied list .square (show IsSpace ['\t'] by decide +kernel) nothing
      (.last (.plain item nothing nothing)) (show IsSpace [' '] by decide +kernel)
  have whole : e.Writes _ :=
    .applied map .angle nothing (show IsSpace ['\u2003'] by decide +kernel)
      (.more first (.last inner)) (show IsSpace ['\n'] by decide +kernel)
  have written : e.Writes text.toList := by
    refine Eq.mp (congrArg e.Writes ?_) whole
    decide +kernel
  exact ⟨written, rfl, by decide +kernel,
    defaultAnswer_generic written [.property none] { title := some "Pet" } rfl⟩

end Generator

end SchemaNaming
