import SchemaNaming.Proofs.Normalizer.Names

/-!
Names that normalization leaves as they are. A name in upper camel case without low lines holds
nothing at which a slot cuts and nothing that it deletes or replaces, so it is a segment by itself,
and the head of that segment is its own upper case. Separator and digit prefix do not matter to it.
Every name that normalization makes is of this form, if the slot has kept nothing.
-/

namespace SchemaNaming

namespace Text
open Identifier

theorem not_isIdentifierPart_of_isBlank {c : Char} (blank : isBlank c = true) :
    isIdentifierPart c = false := by
  rw [isBlank, Ranges.holds, ← Ranges.testBit_bits blankRanges_ascending] at blank
  rw [← testBit_partBits]
  exact not_testBit_of_land_eq_zero (by decide +kernel) blank

end Text

namespace Slot
open Text

/-- Of all that a slot separates or deletes, only the low line can stand in an identifier. -/
theorem not_isIdentifierPart_of_mem (slot : Slot) :
    ∀ c ∈ slot.separated ++ slot.deleted, c = '_' ∨ isIdentifierPart c = false := by
  have listed : (slot.separated ++ slot.deleted).all
      (fun c => c == '_' || !isIdentifierPart c) = true := by cases slot <;> decide +kernel
  intro c member
  simpa using List.all_eq_true.mp listed c member

variable {c : Char}

theorem notMem_of_isIdentifierPart (slot : Slot) (part : isIdentifierPart c = true) (plain : c ≠ '_') :
    c ∉ slot.separated ∧ c ∉ slot.deleted := by
  rw [← not_or, ← List.mem_append]
  intro member
  rcases slot.not_isIdentifierPart_of_mem c member with same | other
  · exact plain same
  · simp [part] at other

theorem not_cuts_of_isIdentifierPart (slot : Slot) {separator : Char}
    (outside : isIdentifierPart separator = false) (part : isIdentifierPart c = true)
    (plain : c ≠ '_') : slot.cuts separator c = false := by
  have unseparated := (slot.notMem_of_isIdentifierPart part plain).1
  have shown : isBlank c = false := by
    by_contra blank
    simp [not_isIdentifierPart_of_isBlank (Bool.eq_true_of_not_eq_false blank)] at part
  have different : c ≠ separator := by
    rintro rfl
    simp [outside] at part
  simp [cuts, unseparated, shown, different]

end Slot

namespace Normalizer
open Text Identifier

variable {slot : Slot} {separator digitPrefix : String} {s : Char} {cs raw : List Char}

/-- In upper camel case, and without low lines. -/
structure IsPlainCamel (cs : List Char) : Prop where
  camel : isUpperCamel cs = true
  plain : '_' ∉ cs

namespace IsPlainCamel

theorem isIdentifier (name : IsPlainCamel cs) : isIdentifier cs = true := by
  have camel := name.camel
  simp only [isUpperCamel, Bool.and_eq_true] at camel
  exact camel.1.1

theorem isLetterLed (name : IsPlainCamel cs) : isLetterLed cs = true := by
  have camel := name.camel
  simp only [isUpperCamel, Bool.and_eq_true] at camel
  exact camel.1.2

theorem hasUpperHead (name : IsPlainCamel cs) : hasUpperHead cs = true := by
  have camel := name.camel
  simp only [isUpperCamel, Bool.and_eq_true] at camel
  exact camel.2

theorem ne_nil (name : IsPlainCamel cs) : cs ≠ [] := by
  rintro rfl
  exact absurd name.camel (by decide)

theorem isIdentifierPart (name : IsPlainCamel cs) : ∀ c ∈ cs, isIdentifierPart c = true :=
  isIdentifierPart_of_mem_identifier name.isIdentifier

theorem isLead (name : IsPlainCamel digitPrefix.toList) : IsLead digitPrefix :=
  ⟨name.isIdentifier, name.isLetterLed⟩

/-- What stands behind the head may be any identifier characters but low lines. -/
theorem append (name : IsPlainCamel cs) (parts : ∀ c ∈ ds, Text.isIdentifierPart c = true)
    (plain : '_' ∉ ds) : IsPlainCamel (cs ++ ds) := by
  constructor
  · simp only [isUpperCamel, Bool.and_eq_true]
    exact ⟨⟨isIdentifier_append name.isIdentifier parts, isLetterLed_append name.isLetterLed ds⟩,
      hasUpperHead_append name.hasUpperHead ds⟩
  · simp [name.plain, plain]

/-- Such a name is one segment, and nothing is dropped from it. -/
theorem segments_eq (name : IsPlainCamel cs) (outside : Text.isIdentifierPart s = false) :
    segments slot s cs = [cs] := by
  have other : ∀ c ∈ cs, c ≠ '_' := fun c member same => name.plain (same ▸ member)
  have undeleted : cs.filter (fun c => !slot.deleted.contains c) = cs := by
    refine List.filter_eq_self.mpr fun c member => ?_
    have absent := slot.notMem_of_isIdentifierPart (name.isIdentifierPart c member) (other c member)
    simpa using absent.2
  have uncut : ∀ c ∈ cs, slot.cuts s c = false := fun c member =>
    slot.not_cuts_of_isIdentifierPart outside (name.isIdentifierPart c member) (other c member)
  rw [segments, undeleted, divideAt_of_uncut uncut, List.map_singleton]
  have identifier := name.isIdentifier
  cases cs with
  | nil => exact absurd rfl name.ne_nil
  | cons c rest =>
    simp only [Identifier.isIdentifier, Bool.and_eq_true, List.all_eq_true] at identifier
    obtain ⟨start, parts⟩ := identifier
    have head : isHead slot.keeps c = true := by simp [isHead, isSegmentStart, start]
    have shown : rest.filter (isShown slot.keeps) = rest :=
      List.filter_eq_self.mpr fun x member => by simp [isShown, parts x member]
    rw [tidy_cons_head head, shown]

theorem body_eq (name : IsPlainCamel cs) (outside : Text.isIdentifierPart s = false) :
    body slot s cs = cs := by
  have head := name.hasUpperHead
  rw [body, name.segments_eq outside, List.flatMap_singleton]
  cases cs with
  | nil => rfl
  | cons c rest =>
    simp only [Identifier.hasUpperHead, beq_iff_eq] at head
    rw [capitalize, head, List.singleton_append]

theorem form_eq (name : IsPlainCamel cs) (single : separator.toList = [s])
    (outside : Text.isIdentifierPart s = false) (lead : IsLead digitPrefix) :
    (forSlot slot separator digitPrefix).form cs = cs := by
  rw [Normalizer.form_eq single lead, name.body_eq outside,
    leadWithLetter_of_led name.isLetterLed, slot.map_finish_eq_self name.isIdentifierPart]

end IsPlainCamel

/-- Low lines come from kept characters alone. -/
theorem lowLine_notMem_form (single : separator.toList = [s]) (separate : s ≠ '.')
    (lead : IsPlainCamel digitPrefix.toList) (undotted : slot = .enum → '.' ∉ raw) :
    '_' ∉ (forSlot slot separator digitPrefix).form raw := by
  have count := count_form slot single lead.isLead lead.plain raw
  have none : (body slot s raw).countP slot.keeps = 0 := by
    refine List.countP_eq_zero.mpr fun c member keeps => ?_
    obtain ⟨own, rfl⟩ := Slot.keeps_iff.mp keeps
    have made := count_body keeps separate raw
    rw [List.count_eq_zero.mpr (undotted own)] at made
    exact List.count_eq_zero.mp made member
  rw [none] at count
  exact List.count_eq_zero.mp count

theorem form_isPlainCamel (single : separator.toList = [s]) (separate : s ≠ '.')
    (lead : IsPlainCamel digitPrefix.toList) (undotted : slot = .enum → '.' ∉ raw)
    (some : (forSlot slot separator digitPrefix).form raw ≠ []) :
    IsPlainCamel ((forSlot slot separator digitPrefix).form raw) :=
  ⟨form_isUpperCamel single lead.isLead lead.hasUpperHead some,
    lowLine_notMem_form single separate lead undotted⟩

end Normalizer

end SchemaNaming
