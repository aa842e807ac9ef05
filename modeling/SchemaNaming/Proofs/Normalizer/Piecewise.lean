import SchemaNaming.Proofs.Normalizer.Names

/-!
Names made piece by piece. A raw name is cut where the slot separates, every piece is tidied and
capitalized by itself, and what is left of them is joined. This describes normalization as a whole
for every separator of one character; that separator matters only as one more place to cut. Whether
a text has a name at all shows in its characters: one of them has to be left to head a segment.
-/

namespace SchemaNaming

namespace Identifier
open Text

theorem tidy_ne_nil_iff {kept : Char → Bool} (piece : List Char) :
    tidy kept piece ≠ [] ↔ ∃ c ∈ piece, isHead kept c = true := by
  induction piece with
  | nil => simp [tidy]
  | cons c rest ih =>
    cases head : isHead kept c with
    | true => simp [tidy_cons_head head, head]
    | false => rw [tidy_cons_other head, ih]; simp [head]

theorem capitalize_ne_nil {segment : List Char} (some : segment ≠ []) : capitalize segment ≠ [] := by
  cases segment with
  | nil => contradiction
  | cons c rest => exact List.append_ne_nil_of_left_ne_nil (upper_ne_nil c) rest

theorem flatMap_capitalize_filter (segments : List (List Char)) :
    (segments.filter (· ≠ [])).flatMap capitalize = segments.flatMap capitalize := by
  induction segments with
  | nil => rfl
  | cons segment rest ih =>
    cases segment with
    | nil => exact ih
    | cons c segment => exact congrArg (capitalize (c :: segment) ++ ·) ih

end Identifier

namespace Normalizer
open Text Identifier

variable {slot : Slot} {digitPrefix : String} {s : Char} {raw : List Char}

/-- The name of a text, made of its pieces one by one. What the slot deletes goes first. The rest is
cut; a piece loses what cannot head a segment in front and what cannot stand in one behind that. The
pieces that remain begin in upper case and are joined, with the prefix in front if there is no letter,
and what the slot has kept becomes low lines. -/
def nameByPieces (slot : Slot) (separator : Char) (digitPrefix raw : String) :
    Except Failure String :=
  let undeleted := raw.toList.filter (fun c => !slot.deleted.contains c)
  let pieces := (divideAt (slot.cuts separator) undeleted).map fun piece =>
    (piece.dropWhile (fun c => !(slot.keeps c || isSegmentStart c))).filter
      (fun c => slot.keeps c || isIdentifierPart c)
  let joined := (pieces.filter (· ≠ [])).flatMap capitalize
  if joined = [] then
    .error (.of (.naming (.slot slot) (.text raw) "normalizes to an empty identifier"))
  else
    let led := if isLetterLed joined then joined else digitPrefix.toList ++ joined
    .ok (String.ofList (led.map slot.finish))

theorem nameByPieces_eq (slot : Slot) (s : Char) (digitPrefix raw : String) :
    nameByPieces slot s digitPrefix raw =
      if body slot s raw.toList = [] then
        .error (.of (.naming (.slot slot) (.text raw) "normalizes to an empty identifier"))
      else
        .ok (String.ofList
          ((leadWithLetter digitPrefix.toList (body slot s raw.toList)).map slot.finish)) := by
  have pieces : body slot s raw.toList =
      ((segments slot s raw.toList).filter (· ≠ [])).flatMap capitalize := by
    rw [flatMap_capitalize_filter, body]
  by_cases none : body slot s raw.toList = []
  · rw [if_pos none]
    rw [pieces] at none
    exact if_pos none
  · have full : (body slot s raw.toList).isEmpty = false := by simpa using none
    rw [if_neg none, leadWithLetter, full, Bool.false_or, pieces]
    rw [pieces] at none
    exact if_neg none

/-- Normalization makes the name of the pieces, whatever the separator is: the passes over the whole
text disturb none of what another pass relies on. -/
theorem normalize_eq_nameByPieces (slot : Slot) (separator : Char) (lead : IsLead digitPrefix)
    (raw : String) :
    (forSlot slot (String.singleton separator) digitPrefix).normalize raw =
      nameByPieces slot separator digitPrefix raw := by
  have single : (String.singleton separator).toList = [separator] :=
    String.toList_singleton separator
  have some : ¬ (String.singleton separator).isEmpty = true := by
    intro empty
    rw [String.isEmpty_iff.mp empty] at single
    contradiction
  have unfolded : (forSlot slot (String.singleton separator) digitPrefix).normalize raw =
      if ((forSlot slot (String.singleton separator) digitPrefix).form raw.toList).isEmpty then
        .error (.of (.naming (.slot slot) (.text raw) "normalizes to an empty identifier"))
      else
        .ok (String.ofList
          ((forSlot slot (String.singleton separator) digitPrefix).form raw.toList)) := by
    cases slot <;> exact if_neg some
  rw [unfolded, nameByPieces_eq]
  simp only [List.isEmpty_iff, form_eq_nil_iff single lead]
  rw [form_eq single lead]

/-- A digit in front that another character hides, a letter whose upper case is two, and a point. -/
theorem normalize_eq_nameByPieces_digit :
    IsLead "N" ∧
      (forSlot .enum (String.singleton '+') "N").normalize "'2b\u0301_ß:.x+" = .ok "N2b\u0301SS_x" ∧
      (forSlot .enum (String.singleton '+') "N").normalize "'2b\u0301_ß:.x+" =
        nameByPieces .enum '+' "N" "'2b\u0301_ß:.x+" := by
  have lead : IsLead "N" := ⟨by decide +kernel, by decide +kernel⟩
  have same := normalize_eq_nameByPieces .enum '+' lead "'2b\u0301_ß:.x+"
  have cased : body .enum '+' "'2b\u0301_ß:.x+".toList = "2b\u0301SS.x".toList := by decide +kernel
  refine ⟨lead, ?_, same⟩
  rw [same, nameByPieces_eq, cased, if_neg (by decide)]
  exact congrArg (fun cs => Except.ok (String.ofList cs)) (by decide +kernel)

theorem body_ne_nil_iff (slot : Slot) (s : Char) (raw : List Char) :
    body slot s raw ≠ [] ↔ ∃ c ∈ raw,
      c ∉ slot.deleted ∧ slot.cuts s c = false ∧ isHead slot.keeps c = true := by
  have remains : body slot s raw ≠ [] ↔ ∃ segment ∈ segments slot s raw, segment ≠ [] := by
    rw [body, Ne, List.flatMap_eq_nil_iff]
    push Not
    refine exists_congr fun segment => and_congr_right fun listed => ?_
    refine ⟨fun cased => ?_, capitalize_ne_nil⟩
    rintro rfl
    exact cased rfl
  rw [remains]
  constructor
  · rintro ⟨segment, listed, some⟩
    obtain ⟨piece, inPieces, rfl⟩ := List.mem_map.mp listed
    obtain ⟨c, member, head⟩ := (tidy_ne_nil_iff piece).mp some
    obtain ⟨inside, uncut⟩ := (mem_divideAt_iff _).mp ⟨piece, inPieces, member⟩
    obtain ⟨inRaw, undeleted⟩ := List.mem_filter.mp inside
    exact ⟨c, inRaw, by simpa using undeleted, uncut, head⟩
  · rintro ⟨c, inRaw, undeleted, uncut, head⟩
    have inside : c ∈ raw.filter (fun c => !slot.deleted.contains c) :=
      List.mem_filter.mpr ⟨inRaw, by simpa using undeleted⟩
    obtain ⟨piece, inPieces, member⟩ := (mem_divideAt_iff _).mpr ⟨inside, uncut⟩
    exact ⟨tidy slot.keeps piece, List.mem_map.mpr ⟨piece, inPieces, rfl⟩,
      (tidy_ne_nil_iff piece).mpr ⟨c, member, head⟩⟩

end Normalizer

end SchemaNaming
