import SchemaNaming.Proofs.Normalizer.Segments
import SchemaNaming.Proofs.Text.UpperCase

/-!
The names that normalization makes. Casing leaves identifier characters and the kept ones; a name
begins with a letter that was there or with the digit prefix, so it is an identifier. Kept
characters become low lines at the end, and there are no others.
-/

namespace SchemaNaming

namespace Text
open Identifier

theorem isIdentifierPart_lowLine : isIdentifierPart '_' = true := by decide +kernel

theorem not_isIdentifierPart_dot : isIdentifierPart '.' = false := by decide +kernel

theorem not_isLetter_dot : isLetter '.' = false := by decide +kernel

theorem upper_dot : upper '.' = ['.'] := by decide +kernel

end Text

namespace Identifier
open Text

theorem isShown_of_mem_tidy {kept : Char → Bool} (member : c ∈ tidy kept piece) :
    isShown kept c = true := (List.mem_filter.mp member).2

theorem mem_of_mem_tidy {kept : Char → Bool} (member : c ∈ tidy kept piece) : c ∈ piece :=
  (List.dropWhile_sublist _).subset (List.mem_filter.mp member).1

theorem isHead_of_tidy {kept : Char → Bool} (same : tidy kept piece = c :: rest) :
    isHead kept c = true := by
  induction piece with
  | nil => simp [tidy] at same
  | cons x piece ih =>
    cases head : isHead kept x with
    | true =>
      rw [tidy_cons_head head] at same
      rw [← (List.cons.inj same).1, head]
    | false =>
      rw [tidy_cons_other head] at same
      exact ih same

/-- Tidying drops no kept character. -/
theorem count_tidy {kept : Char → Bool} (keeps : kept x = true) (piece : List Char) :
    (tidy kept piece).count x = piece.count x := by
  have shown : isShown kept x = true := by simp [isShown, keeps]
  induction piece with
  | nil => rfl
  | cons c piece ih =>
    cases head : isHead kept c with
    | true =>
      rw [tidy_cons_head head, List.count_cons, List.count_cons, List.count_filter shown]
    | false =>
      have different : c ≠ x := by
        rintro rfl
        simp [isHead, keeps] at head
      rw [tidy_cons_other head, ih, List.count_cons_of_ne different]

end Identifier

namespace Slot
open Text

theorem keeps_iff {slot : Slot} : slot.keeps c = true ↔ slot = .enum ∧ c = '.' := by
  cases slot <;> simp [keeps, kept]

/-- The last replacement of a slot. -/
def finish (slot : Slot) (c : Char) : Char := if slot.keeps c then '_' else c

theorem finish_of_isIdentifierPart (slot : Slot) (part : isIdentifierPart c = true) :
    slot.finish c = c := by
  refine if_neg fun keeps => ?_
  rw [(keeps_iff.mp keeps).2, not_isIdentifierPart_dot] at part
  contradiction

theorem map_finish_eq_self (slot : Slot) {cs : List Char}
    (parts : ∀ c ∈ cs, isIdentifierPart c = true) : cs.map slot.finish = cs :=
  (List.map_congr_left fun c member => slot.finish_of_isIdentifierPart (parts c member)).trans
    (List.map_id cs)

/-- No last replacement makes a letter or takes one away. -/
theorem isLetter_finish (slot : Slot) (c : Char) : isLetter (slot.finish c) = isLetter c := by
  cases keeps : slot.keeps c with
  | false => simp [finish, keeps]
  | true =>
    obtain ⟨_, rfl⟩ := keeps_iff.mp keeps
    have lowLine : isLetter '_' = false := by decide +kernel
    rw [finish, if_pos keeps, lowLine, not_isLetter_dot]

end Slot

namespace Normalizer
open Text Identifier

variable {slot : Slot} {separator digitPrefix : String} {s : Char} {raw : List Char}

/-- What casing makes for a slot. -/
structure Cased (slot : Slot) (cs : List Char) : Prop where
  shown : ∀ c ∈ cs, slot.keeps c = true ∨ isIdentifierPart c = true
  plain : '_' ∉ cs
  /-- A letter at the front starts an identifier and is its own upper case. -/
  head : ∀ c ∈ cs.head?, isLetter c = true → isIdentifierStart c = true ∧ upper c = [c]

theorem Cased.nil : Cased slot [] := ⟨by simp, by simp, by simp⟩

theorem Cased.append (first : Cased slot cs) (second : Cased slot ds) :
    Cased slot (cs ++ ds) := by
  refine ⟨?_, ?_, ?_⟩
  · intro c member
    rcases List.mem_append.mp member with member | member
    · exact first.shown c member
    · exact second.shown c member
  · simp [first.plain, second.plain]
  · cases cs with
    | nil => exact second.head
    | cons c cs => exact first.head

theorem Cased.flatten {parts : List (List Char)} (each : ∀ cs ∈ parts, Cased slot cs) :
    Cased slot parts.flatten := by
  induction parts with
  | nil => exact .nil
  | cons cs rest ih =>
    rw [List.flatten_cons]
    exact (each cs (by simp)).append (ih fun ds member => each ds (by simp [member]))

theorem lowLine_notMem_segment {segment : List Char} (listed : segment ∈ segments slot s raw) :
    '_' ∉ segment := by
  obtain ⟨piece, inPieces, rfl⟩ := List.mem_map.mp listed
  intro member
  have uncut := not_cut_of_mem_divideAt inPieces '_' (mem_of_mem_tidy member)
  simp [slot.cuts_lowLine s] at uncut

theorem cased_capitalize {segment : List Char} (listed : segment ∈ segments slot s raw) :
    Cased slot (capitalize segment) := by
  have noLow := lowLine_notMem_segment listed
  obtain ⟨piece, _, tidied⟩ := List.mem_map.mp listed
  have shown : ∀ c ∈ segment, slot.keeps c = true ∨ isIdentifierPart c = true := by
    intro c member
    rw [← tidied] at member
    simpa only [isShown, Bool.or_eq_true] using isShown_of_mem_tidy member
  cases segment with
  | nil => exact .nil
  | cons c rest =>
    have head := isHead_of_tidy tidied
    simp only [isHead, Bool.or_eq_true] at head
    rw [capitalize]
    rcases head with keeps | start
    · obtain ⟨_, rfl⟩ := Slot.keeps_iff.mp keeps
      rw [upper_dot, List.singleton_append]
      refine ⟨shown, noLow, ?_⟩
      intro c member letter
      obtain rfl := Option.some.inj member
      simp [not_isLetter_dot] at letter
    · obtain ⟨first, more, heads⟩ := upperHead_of_isSegmentStart start
      have different : c ≠ '_' := fun same => noLow (by simp [same])
      refine ⟨?_, ?_, ?_⟩
      · intro x member
        rcases List.mem_append.mp member with member | member
        · rw [heads.upper_eq] at member
          exact .inr (heads.part x member)
        · exact shown x (List.mem_cons_of_mem _ member)
      · intro member
        rcases List.mem_append.mp member with member | member
        · rw [heads.upper_eq] at member
          exact heads.plain different member
        · exact noLow (List.mem_cons_of_mem _ member)
      · intro x member letter
        rw [heads.upper_eq] at member
        obtain rfl := Option.some.inj member
        exact ⟨heads.start letter, heads.steady⟩

theorem cased_body (slot : Slot) (s : Char) (raw : List Char) : Cased slot (body slot s raw) := by
  rw [body, List.flatMap_def]
  refine Cased.flatten fun cs member => ?_
  obtain ⟨segment, listed, rfl⟩ := List.mem_map.mp member
  exact cased_capitalize listed

/-- No kept character is lost or made. -/
theorem count_body (keeps : slot.keeps x = true) (separate : s ≠ x) (raw : List Char) :
    (body slot s raw).count x = raw.count x := by
  obtain ⟨rfl, rfl⟩ := Slot.keeps_iff.mp keeps
  have uncut : Slot.enum.cuts s '.' = false := by
    have blank : isBlank '.' = false := by decide +kernel
    simp [Slot.cuts, Slot.separated, blank, separate.symm]
  have same : ∀ cs ∈ segments .enum s raw, (capitalize cs).count '.' = cs.count '.' := by
    intro cs listed
    cases cs with
    | nil => rfl
    | cons c rest =>
      obtain ⟨piece, _, tidied⟩ := List.mem_map.mp listed
      have head := isHead_of_tidy tidied
      simp only [isHead, Bool.or_eq_true] at head
      rw [capitalize, List.count_append, List.count_cons]
      rcases head with keeps | start
      · obtain ⟨_, rfl⟩ := Slot.keeps_iff.mp keeps
        rw [upper_dot]
        simp [Nat.add_comm]
      · obtain ⟨first, more, heads⟩ := upperHead_of_isSegmentStart start
        have noDot : ∀ {d}, isIdentifierPart d = true → d ≠ '.' := by
          rintro d part rfl
          simp [not_isIdentifierPart_dot] at part
        have absent : '.' ∉ upper c := by
          rw [heads.upper_eq]
          exact fun member => noDot (heads.part '.' member) rfl
        simp [List.count_eq_zero.mpr absent, noDot (isIdentifierPart_of_isSegmentStart start)]
  calc (body .enum s raw).count '.'
      = ((segments .enum s raw).map (fun cs => (capitalize cs).count '.')).sum := by
        rw [body, List.count_flatMap]; rfl
    _ = ((segments .enum s raw).map (List.count '.')).sum := by
        rw [List.map_congr_left same]
    _ = ((divideAt (Slot.enum.cuts s) raw).map (List.count '.')).sum := by
        rw [segments, List.map_map]
        refine congrArg List.sum ?_
        have deleted : raw.filter (fun c => !Slot.enum.deleted.contains c) = raw :=
          List.filter_eq_self.mpr fun _ _ => rfl
        rw [deleted]
        exact List.map_congr_left fun piece _ => count_tidy keeps piece
    _ = raw.count '.' := by
        rw [← List.count_flatten, count_flatten_divideAt uncut]

theorem forSlot_separator (slot : Slot) (separator digitPrefix : String) :
    (forSlot slot separator digitPrefix).separator = separator := by cases slot <;> rfl

theorem forSlot_digitPrefix (slot : Slot) (separator digitPrefix : String) :
    (forSlot slot separator digitPrefix).digitPrefix = digitPrefix := by cases slot <;> rfl

/-- With a separator that is a text, a name is refused only when nothing is left of it. -/
theorem normalize_of_separates {n : Normalizer} (text : n.foreign = none)
    (separates : n.separator ≠ "") (raw : String) :
    n.normalize raw =
      if n.form raw.toList = [] then
        .error (.of (.naming (.slot n.slot) (.text raw) "normalizes to an empty identifier"))
      else .ok (String.ofList (n.form raw.toList)) := by
  have filled : n.separator.isEmpty = false := by
    rw [← Bool.not_eq_true, String.isEmpty_iff]
    exact separates
  simp only [normalize, text, filled, List.isEmpty_iff]
  rfl

theorem normalize_forSlot (separates : separator ≠ "") (raw : String) :
    (forSlot slot separator digitPrefix).normalize raw =
      if (forSlot slot separator digitPrefix).form raw.toList = [] then
        .error (.of (.naming (.slot slot) (.text raw) "normalizes to an empty identifier"))
      else .ok (String.ofList ((forSlot slot separator digitPrefix).form raw.toList)) := by
  have own : (forSlot slot separator digitPrefix).slot = slot := by cases slot <;> rfl
  have text : (forSlot slot separator digitPrefix).foreign = none := by cases slot <;> rfl
  have separatesToo : (forSlot slot separator digitPrefix).separator ≠ "" := by
    rwa [forSlot_separator]
  rw [normalize_of_separates text separatesToo, own]

theorem replaceInTurn_finals (slot : Slot) (separator digitPrefix : String) (cs : List Char) :
    replaceInTurn (forSlot slot separator digitPrefix).finals cs = cs.map slot.finish := by
  cases slot with
  | enum =>
    simp only [replaceInTurn, forSlot, List.foldl_cons, List.foldl_nil]
    rw [show ".".toList = ['.'] from rfl, show "_".toList = ['_'] from rfl, replace_one]
    refine List.map_congr_left fun c _ => ?_
    by_cases dot : c = '.' <;> simp [Slot.finish, Slot.keeps, Slot.kept, dot]
  | type | property =>
    exact ((List.map_congr_left fun c _ => rfl).trans (List.map_id cs)).symm

/-- A digit prefix that a name can begin with. -/
structure IsLead (digitPrefix : String) : Prop where
  identifier : isIdentifier digitPrefix.toList = true
  letterLed : isLetterLed digitPrefix.toList = true

theorem isLetterLed_map_finish (slot : Slot) (cs : List Char) :
    isLetterLed (cs.map slot.finish) = isLetterLed cs := by
  cases cs with
  | nil => rfl
  | cons c rest => exact slot.isLetter_finish c

theorem isIdentifierPart_of_mem_identifier (identifier : isIdentifier cs = true) :
    ∀ c ∈ cs, isIdentifierPart c = true := by
  cases cs with
  | nil => simp
  | cons c rest =>
    simp only [isIdentifier, Bool.and_eq_true, List.all_eq_true] at identifier
    intro d member
    rcases List.mem_cons.mp member with rfl | member
    · exact isIdentifierPart_of_isIdentifierStart identifier.1
    · exact identifier.2 d member

theorem leadWithLetter_of_led {lead cs : List Char} (led : isLetterLed cs = true) :
    leadWithLetter lead cs = cs := by simp [leadWithLetter, led]

theorem leadWithLetter_eq {lead cs : List Char} (some : cs ≠ []) (unled : isLetterLed cs = false) :
    leadWithLetter lead cs = lead ++ cs := by simp [leadWithLetter, some, unled]

theorem isLetterLed_leadWithLetter {lead : List Char} (led : isLetterLed lead = true)
    (some : cs ≠ []) : isLetterLed (leadWithLetter lead cs) = true := by
  cases already : isLetterLed cs with
  | true => rwa [leadWithLetter_of_led already]
  | false =>
    rw [leadWithLetter_eq some already]
    cases lead with
    | nil => contradiction
    | cons c rest => exact led

/-- A prefix that begins with a letter is put in front once, and only where it is needed. -/
theorem form_eq (single : separator.toList = [s]) (lead : IsLead digitPrefix) (raw : List Char) :
    (forSlot slot separator digitPrefix).form raw =
      (leadWithLetter digitPrefix.toList (body slot s raw)).map slot.finish := by
  rw [form, forSlot_separator, forSlot_digitPrefix, single, camelCase, camelBody_substitute single,
    replaceInTurn_finals]
  by_cases some : body slot s raw = []
  · rw [some]
    rfl
  · have led := isLetterLed_leadWithLetter lead.letterLed some
    exact leadWithLetter_of_led ((isLetterLed_map_finish slot _).trans led)

/-- A prefix that begins with a letter makes no name of nothing. -/
theorem form_eq_nil_iff (single : separator.toList = [s]) (lead : IsLead digitPrefix) :
    (forSlot slot separator digitPrefix).form raw = [] ↔ body slot s raw = [] := by
  rw [form_eq single lead, List.map_eq_nil_iff]
  constructor
  · intro empty
    by_contra some
    have led := isLetterLed_leadWithLetter lead.letterLed some
    rw [empty] at led
    contradiction
  · intro none
    rw [none]
    rfl

/-- The name of a text that begins with a letter, and of one that does not. -/
theorem form_cases (single : separator.toList = [s]) (lead : IsLead digitPrefix)
    (some : (forSlot slot separator digitPrefix).form raw ≠ []) :
    isLetterLed (body slot s raw) = true ∧
        (forSlot slot separator digitPrefix).form raw = (body slot s raw).map slot.finish ∨
      (forSlot slot separator digitPrefix).form raw =
        digitPrefix.toList ++ (body slot s raw).map slot.finish := by
  have parts := isIdentifierPart_of_mem_identifier lead.identifier
  rw [form_eq single lead] at some ⊢
  cases led : isLetterLed (body slot s raw) with
  | true => exact .inl ⟨rfl, by rw [leadWithLetter_of_led led]⟩
  | false =>
    have full : body slot s raw ≠ [] := by
      intro empty
      exact some (by rw [empty]; rfl)
    rw [leadWithLetter_eq full led, List.map_append, slot.map_finish_eq_self parts]
    exact .inr rfl

theorem isIdentifierPart_finish (cased : Cased slot cs) :
    ∀ c ∈ cs.map slot.finish, isIdentifierPart c = true := by
  intro c member
  obtain ⟨d, inside, rfl⟩ := List.mem_map.mp member
  rcases cased.shown d inside with keeps | part
  · rw [Slot.finish, if_pos keeps]
    exact isIdentifierPart_lowLine
  · rwa [slot.finish_of_isIdentifierPart part]

theorem isIdentifier_append (identifier : isIdentifier cs = true)
    (parts : ∀ c ∈ ds, isIdentifierPart c = true) : isIdentifier (cs ++ ds) = true := by
  cases cs with
  | nil => contradiction
  | cons c rest =>
    simp only [isIdentifier, Bool.and_eq_true, List.all_eq_true] at identifier
    simp only [List.cons_append, isIdentifier, List.all_append, Bool.and_eq_true,
      List.all_eq_true]
    exact ⟨identifier.1, identifier.2, parts⟩

theorem isLetterLed_append (led : isLetterLed cs = true) (ds : List Char) :
    isLetterLed (cs ++ ds) = true := by
  cases cs with
  | nil => contradiction
  | cons c rest => exact led

theorem hasUpperHead_append (head : hasUpperHead cs = true) (ds : List Char) :
    hasUpperHead (cs ++ ds) = true := by
  cases cs with
  | nil => contradiction
  | cons c rest => exact head

/-- A name that was not empty is an upper camel identifier, if it needs no prefix. -/
theorem isUpperCamel_finish (cased : Cased slot cs) (led : isLetterLed cs = true) :
    isUpperCamel (cs.map slot.finish) = true := by
  have ledToo := (isLetterLed_map_finish slot cs).trans led
  have parts := isIdentifierPart_finish cased
  cases cs with
  | nil => contradiction
  | cons c rest =>
    obtain ⟨start, steady⟩ := cased.head c rfl led
    have unchanged := slot.finish_of_isIdentifierPart (isIdentifierPart_of_isIdentifierStart start)
    simp only [List.map_cons, unchanged] at ledToo parts ⊢
    simp only [isUpperCamel, ledToo, isIdentifier, hasUpperHead, start, steady, Bool.true_and,
      beq_self_eq_true, Bool.and_true, List.all_eq_true]
    exact fun d member => parts d (List.mem_cons_of_mem _ member)

/-- Every name is an identifier that begins with a letter. -/
theorem form_identifier (single : separator.toList = [s]) (lead : IsLead digitPrefix)
    (some : (forSlot slot separator digitPrefix).form raw ≠ []) :
    isIdentifier ((forSlot slot separator digitPrefix).form raw) = true ∧
      isLetterLed ((forSlot slot separator digitPrefix).form raw) = true := by
  have cased := cased_body slot s raw
  rcases form_cases single lead some with ⟨led, same⟩ | same
  · have camel := isUpperCamel_finish cased led
    rw [← same] at camel
    simp only [isUpperCamel, Bool.and_eq_true] at camel
    exact camel.1
  · rw [same]
    exact ⟨isIdentifier_append lead.identifier (isIdentifierPart_finish cased),
      isLetterLed_append lead.letterLed _⟩

/-- The name keeps the letter case of the prefix. -/
theorem form_isUpperCamel (single : separator.toList = [s]) (lead : IsLead digitPrefix)
    (head : hasUpperHead digitPrefix.toList = true)
    (some : (forSlot slot separator digitPrefix).form raw ≠ []) :
    isUpperCamel ((forSlot slot separator digitPrefix).form raw) = true := by
  rcases form_cases single lead some with ⟨led, same⟩ | same
  · rw [same]
    exact isUpperCamel_finish (cased_body slot s raw) led
  · obtain ⟨identifier, led⟩ := form_identifier single lead some
    have upperHead := hasUpperHead_append head ((body slot s raw).map slot.finish)
    rw [← same] at upperHead
    simp only [isUpperCamel, identifier, led, upperHead, Bool.and_self]

/-- The low lines of a name are those that kept characters have become. -/
theorem count_map_finish (cased : Cased slot cs) :
    (cs.map slot.finish).count '_' = cs.countP slot.keeps := by
  rw [List.count, List.countP_map]
  refine List.countP_congr fun c member => ?_
  have other : c ≠ '_' := fun same => cased.plain (same ▸ member)
  cases keeps : slot.keeps c <;> simp [Slot.finish, keeps, other]

theorem count_form (slot : Slot) (single : separator.toList = [s]) (lead : IsLead digitPrefix)
    (plain : '_' ∉ digitPrefix.toList) (raw : List Char) :
    ((forSlot slot separator digitPrefix).form raw).count '_' =
      (body slot s raw).countP slot.keeps := by
  have cased := cased_body slot s raw
  by_cases empty : (forSlot slot separator digitPrefix).form raw = []
  · rw [empty, (form_eq_nil_iff single lead).mp empty]
    rfl
  · rcases form_cases single lead empty with ⟨_, same⟩ | same
    · rw [same, count_map_finish cased]
    · rw [same, List.count_append, List.count_eq_zero.mpr plain, Nat.zero_add,
        count_map_finish cased]

end Normalizer

end SchemaNaming
