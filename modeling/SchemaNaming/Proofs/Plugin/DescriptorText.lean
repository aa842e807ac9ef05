import SchemaNaming.Proofs.Plugin.DottedName
import SchemaNaming.Proofs.Plugin.Resolution
import SchemaNaming.Proofs.Text.Stripping

/-!
Which texts are descriptors, and of what. The last colon of the stripped text divides it; what stands
before it may hold further colons. What a descriptor is read as is written in a descriptor again, by
its text and by its parts.
-/

namespace SchemaNaming.Descriptor
open Text

/-- No dotted part is empty. The empty name has an empty part. -/
def IsTypeName (name : String) : Prop := ∀ part ∈ parts name, part ≠ ""

instance (name : String) : Decidable (IsTypeName name) :=
  inferInstanceAs (Decidable (∀ part ∈ parts name, part ≠ ""))

theorem IsTypeName.ne_empty (named : IsTypeName name) : name ≠ "" := by
  rintro rfl
  exact named "" (by decide) rfl

theorem isTypeName_ofList (cs : List Char) :
    IsTypeName (String.ofList cs) ↔ (divide ['.'] cs).any (·.isEmpty) = false := by
  simp [IsTypeName, parts]

theorem toList_colon (before after : String) :
    (before ++ ":" ++ after).toList = before.toList ++ ':' :: after.toList := by
  simp [String.toList_append]

theorem toList_stripped (s : String) : (stripped s).toList = strip s.toList :=
  String.toList_ofList

theorem stripped_stripped (s : String) : stripped (stripped s) = stripped s := by
  rw [stripped, toList_stripped, strip_strip]
  rfl

theorem isTrimmed_of_stripped (whole : stripped s = s) : IsTrimmed isBlank s.toList := by
  have same := congrArg String.toList whole
  rw [toList_stripped] at same
  exact trim_eq_self_iff.mp same

theorem toList_ne_nil (filled : s ≠ "") : s.toList ≠ [] := by
  intro empty
  exact filled (String.toList_inj.mp empty)

theorem stripped_colon (first : stripped a = a) (given : a ≠ "") (last : stripped u = u)
    (named : u ≠ "") : stripped (a ++ ":" ++ u) = a ++ ":" ++ u := by
  have trimmed := (isTrimmed_of_stripped first).append (toList_ne_nil given)
    (isTrimmed_of_stripped last) (toList_ne_nil named) [':']
  have same : strip (a.toList ++ [':'] ++ u.toList) = a.toList ++ [':'] ++ u.toList :=
    trimmed.trim_eq
  apply String.toList_inj.mp
  rw [toList_stripped, toList_colon]
  simpa using same

theorem exists_division (divided : ':' ∈ t.toList) :
    ∃ before after : String, t = before ++ ":" ++ after ∧ ':' ∉ after.toList := by
  cases found : divideLast? ':' t.toList with
  | none => exact absurd divided (divideLast?_eq_none_iff.mp found)
  | some sides =>
    obtain ⟨before, after⟩ := sides
    obtain ⟨same, plain⟩ := divideLast?_eq_some_iff.mp found
    refine ⟨String.ofList before, String.ofList after, ?_, by rwa [String.toList_ofList]⟩
    apply String.toList_inj.mp
    rw [same, toList_colon, String.toList_ofList, String.toList_ofList]

theorem split_of_plain {t : String} (plain : ':' ∉ t.toList) :
    split t.toList = (none, strip t.toList) := by
  rw [split, divideLast?_eq_none_iff.mpr plain]

theorem split_of_division {after : String} (plain : ':' ∉ after.toList) (before : String) :
    split (before ++ ":" ++ after).toList = (some (strip before.toList), strip after.toList) := by
  rw [split, divideLast?_eq_some_iff.mpr ⟨toList_colon before after, plain⟩]

/-- A stripped text that describes a type: by its name alone, or by an assembly and a name on both
sides of the last colon. -/
inductive Describes : String → Descriptor → Prop where
  | alone {t : String} (plain : ':' ∉ t.toList) (named : IsTypeName (stripped t)) :
    Describes t { text := t, typeName := stripped t, assembly := none }
  | within {before after : String} (plain : ':' ∉ after.toList) (given : stripped before ≠ "")
    (named : IsTypeName (stripped after)) :
    Describes (before ++ ":" ++ after)
      { text := before ++ ":" ++ after, typeName := stripped after
        assembly := some (stripped before) }

/-- A text is refused for one of its parts, or is the descriptor that they make. -/
theorem ofText_eq_ok_iff_split {assembly : Option (List Char)} {typeName : List Char}
    (whole : stripped s = t) (divided : split t.toList = (assembly, typeName)) :
    ofText s = .ok d ↔ t ≠ "" ∧ assembly ≠ some [] ∧ IsTypeName (String.ofList typeName) ∧
      d = { text := t, typeName := String.ofList typeName
            assembly := assembly.map String.ofList } := by
  subst whole
  rw [toList_stripped] at divided
  rw [isTypeName_ofList]
  have filled : (strip s.toList).isEmpty = false ↔ stripped s ≠ "" := by
    rw [stripped, List.isEmpty_eq_false_iff, ne_eq, ne_eq, String.ofList_eq_empty_iff]
  constructor
  · intro parsed
    simp only [ofText, divided] at parsed
    split at parsed
    · contradiction
    · rename_i some
      split at parsed
      · contradiction
      · rename_i given
        split at parsed
        · contradiction
        · split at parsed
          · contradiction
          · rename_i named
            obtain rfl := Except.ok.inj parsed
            exact ⟨filled.mp (eq_false_of_ne_true some), given, eq_false_of_ne_true named, rfl⟩
  · rintro ⟨some, given, named, rfl⟩
    have lettered : typeName.isEmpty = false := by
      cases typeName with
      | nil => contradiction
      | cons c rest => rfl
    simp only [ofText, divided, filled.mpr some, given, lettered, named, Bool.false_eq_true,
      if_false]
    rfl

theorem describes_of_ofText (parsed : ofText s = .ok d) : Describes (stripped s) d := by
  by_cases divided : ':' ∈ (stripped s).toList
  · obtain ⟨before, after, whole, plain⟩ := exists_division divided
    rw [whole]
    obtain ⟨-, given, named, rfl⟩ :=
      (ofText_eq_ok_iff_split whole (split_of_division plain before)).mp parsed
    refine .within plain (fun empty => given ?_) named
    rw [← toList_stripped, empty]
    rfl
  · obtain ⟨-, -, named, rfl⟩ := (ofText_eq_ok_iff_split rfl (split_of_plain divided)).mp parsed
    exact .alone divided named

theorem Describes.ofText_eq_ok (describes : Describes t d) (whole : stripped s = t) :
    ofText s = .ok d := by
  cases describes with
  | alone plain named =>
    refine (ofText_eq_ok_iff_split whole (split_of_plain plain)).mpr ⟨?_, by simp, named, rfl⟩
    rintro rfl
    exact named.ne_empty rfl
  | @within before after plain given named =>
    refine (ofText_eq_ok_iff_split whole (split_of_division plain before)).mpr
      ⟨?_, fun none => given ?_, named, rfl⟩
    · intro empty
      have characters := congrArg String.toList empty
      rw [toList_colon] at characters
      simp at characters
    · rw [stripped, Option.some.inj none]

/-- A text is read as a descriptor exactly if, stripped, it describes that one. -/
theorem ofText_eq_ok_iff : ofText s = .ok d ↔ Describes (stripped s) d :=
  ⟨describes_of_ofText, fun describes => describes.ofText_eq_ok rfl⟩

theorem Describes.text_eq (describes : Describes t d) : d.text = t := by
  cases describes <;> rfl

/-- The text of a descriptor is read as that descriptor. -/
theorem ofText_text (parsed : ofText s = .ok d) : ofText d.text = .ok d := by
  have describes := describes_of_ofText parsed
  rw [describes.text_eq]
  exact describes.ofText_eq_ok (stripped_stripped s)

theorem ofText_colon (first : stripped a = a) (given : a ≠ "") (last : stripped u = u)
    (plain : ':' ∉ u.toList) (named : IsTypeName u) :
    ofText (a ++ ":" ++ u) =
      .ok { text := a ++ ":" ++ u, typeName := u, assembly := some a } := by
  have describes : Describes (a ++ ":" ++ u)
      { text := a ++ ":" ++ u, typeName := stripped u, assembly := some (stripped a) } :=
    .within plain (by rwa [first]) (by rwa [last])
  rw [first, last] at describes
  exact describes.ofText_eq_ok (stripped_colon first given last named.ne_empty)

/-- A descriptor as its parts write it. -/
def written (d : Descriptor) : String :=
  match d.assembly with
  | some assembly => assembly ++ ":" ++ d.typeName
  | none => d.typeName

/-- Blanks beside the colon are all that a descriptor written from its parts has lost. -/
theorem ofText_written (parsed : ofText s = .ok d) :
    ofText d.written = .ok { d with text := d.written } := by
  have describes := describes_of_ofText parsed
  generalize whole : stripped s = t at describes
  cases describes with
  | alone plain named =>
    have again : stripped t = t := by
      rw [← whole, stripped_stripped]
    have same : written { text := t, typeName := stripped t, assembly := none } = t := again
    have read := ofText_text parsed
    rw [same]
    dsimp only at read ⊢
    exact read
  | @within before after plain given named =>
    have inside : ':' ∉ (stripped after).toList := by
      rw [toList_stripped]
      exact fun colon => plain (trim_subset isBlank _ colon)
    exact ofText_colon (stripped_stripped before) given (stripped_stripped after) inside named

/-- Which texts are descriptors, and of what; all others are refused as types that are not found. The
text of a descriptor and its parts are read as what they come from. -/
theorem ofText_reads (s : String) :
    (∀ d, ofText s = .ok d ↔ Describes (stripped s) d) ∧
      (∀ fault, ofText s = .error fault →
        ∃ typeName reason, fault = .typeNotFound (carried s) typeName reason) ∧
      (∀ d, ofText s = .ok d →
        ofText d.text = .ok d ∧ ofText d.written = .ok { d with text := d.written }) ∧
      ∀ a u, stripped a = a → a ≠ "" → stripped u = u → ':' ∉ u.toList → IsTypeName u →
        ofText (a ++ ":" ++ u) =
          .ok { text := a ++ ":" ++ u, typeName := u, assembly := some a } := by
  refine ⟨fun d => ofText_eq_ok_iff, fun fault => ofText_error, fun d parsed => ?_, ?_⟩
  · exact ⟨ofText_text parsed, ofText_written parsed⟩
  · intro a u first given last plain named
    exact ofText_colon first given last plain named

/-- A path with a drive letter, and blanks of several kinds around all parts. -/
theorem ofText_reads_drive :
    let s := "\u2003C:\\plugins\\gen.py\t: pkg.Gen\n"
    let assembly := "C:\\plugins\\gen.py"
    ∃ d, ofText s = .ok d ∧ d.assembly = some assembly ∧ d.typeName = "pkg.Gen" ∧
      Describes (stripped s) d ∧ ofText d.text = .ok d ∧
      ofText d.written = .ok { d with text := d.written } ∧
      ofText (assembly ++ ":" ++ "pkg.Gen") =
        .ok { text := assembly ++ ":" ++ "pkg.Gen", typeName := "pkg.Gen"
              assembly := some assembly } := by
  intro s assembly
  obtain ⟨describes, -, again, colon⟩ := ofText_reads s
  have whole := colon assembly "pkg.Gen" (by decide +kernel) (by decide) (by decide +kernel)
    (by decide) (by decide +kernel)
  have read : (ofText s).toOption.map (fun d => (d.assembly, d.typeName)) =
      some (some assembly, "pkg.Gen") := by decide +kernel
  cases parsed : ofText s with
  | error fault =>
    rw [parsed] at read
    contradiction
  | ok d =>
    rw [parsed] at read
    obtain ⟨given, named⟩ := Prod.mk.inj (Option.some.inj read)
    obtain ⟨text, written⟩ := again d parsed
    exact ⟨d, rfl, given, named, (describes d).mp parsed, text, written, whole⟩

end SchemaNaming.Descriptor
