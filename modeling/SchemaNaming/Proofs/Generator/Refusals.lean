import SchemaNaming.Proofs.Generator.Numbered
import SchemaNaming.Proofs.Normalizer.Piecewise
import SchemaNaming.Proofs.Normalizer.Spelling
import SchemaNaming.Proofs.Pipeline.EnumNames

/-!
Requests that the standard generators refuse. A raw name can be empty, it can become empty when the
default generator spells it out, and normalization can leave nothing of it. All of this shows in the
characters of the raw name: it has a name if one of them heads a segment or is spelled as a word.
-/

namespace SchemaNaming
open Text Identifier

/-- The outcome is a name under a condition, and a fault of naming without it. -/
structure NamedWhen (condition : Prop) (result : Except Failure Value) : Prop where
  named : condition → ∃ name, result = .ok (.text name)
  refused : ¬ condition → IsRefused result

namespace NamedWhen

variable {condition other : Prop} {result : Except Failure Value}

theorem isRefused_iff (outcome : NamedWhen condition result) : IsRefused result ↔ ¬ condition := by
  refine ⟨?_, outcome.refused⟩
  rintro ⟨_, _, _, _, failed⟩ holds
  obtain ⟨name, answered⟩ := outcome.named holds
  rw [failed] at answered
  contradiction

theorem isRefused_or (outcome : NamedWhen condition result) :
    IsRefused result ∨ ∃ name, result = .ok (.text name) := by
  by_cases holds : condition
  · exact .inr (outcome.named holds)
  · exact .inl (outcome.refused holds)

theorem congr (outcome : NamedWhen condition result) (same : condition ↔ other) :
    NamedWhen other result :=
  ⟨fun holds => outcome.named (same.mpr holds),
    fun fails => outcome.refused fun holds => fails (same.mp holds)⟩

end NamedWhen

/-- A character that heads a segment. The low line may start an identifier, but it separates. -/
def headsName (slot : Slot) (c : Char) : Prop :=
  slot = .enum ∧ c = '.' ∨ isSegmentStart c = true ∧ c ≠ '_'

namespace Slot

variable {separator : Char}

theorem headsName_iff (slot : Slot) (outside : isIdentifierPart separator = false)
    (separate : separator ≠ '.') (c : Char) :
    (c ∉ slot.deleted ∧ slot.cuts separator c = false ∧ isHead slot.keeps c = true) ↔
      headsName slot c := by
  simp only [isHead, Bool.or_eq_true]
  constructor
  · rintro ⟨_, uncut, keeps | start⟩
    · exact .inl (keeps_iff.mp keeps)
    · refine .inr ⟨start, ?_⟩
      rintro rfl
      rw [slot.cuts_lowLine separator] at uncut
      contradiction
  · rintro (⟨rfl, rfl⟩ | ⟨start, plain⟩)
    · have blank : isBlank '.' = false := by decide +kernel
      refine ⟨by decide, ?_, .inl rfl⟩
      simp [cuts, separated, blank, separate.symm]
    · have part := isIdentifierPart_of_isSegmentStart start
      exact ⟨(slot.notMem_of_isIdentifierPart part plain).2,
        slot.not_cuts_of_isIdentifierPart outside part plain, .inr start⟩

end Slot

namespace Decorator.IsLayer

variable {slot : Slot} {d : Decorator} {request : Request} {reply : Reply} {raw : String}

theorem finish_text (layer : d.IsLayer slot) (short : request.subject.hasLongInteger = false)
    (given : reply.result = .ok (.text raw)) :
    NamedWhen (∃ c ∈ raw.toList, headsName slot c) (d.finish request reply).result := by
  obtain ⟨separator, single, outside, separate⟩ := layer.separator
  have characters : d.separator.toList = [separator] := by rw [single, String.toList_singleton]
  have heads : Normalizer.body slot separator raw.toList ≠ [] ↔
      ∃ c ∈ raw.toList, headsName slot c := by
    rw [Normalizer.body_ne_nil_iff]
    exact exists_congr fun c => and_congr_right fun _ => slot.headsName_iff outside separate c
  refine NamedWhen.congr ?_ heads
  by_cases empty : raw = ""
  · have none : Normalizer.body slot separator raw.toList = [] := by
      rw [empty]
      cases slot <;> rfl
    rw [finish_of_unusable d request given fun _ same => Value.text.inj same ▸ empty,
      refuse_of_short d reply rfl short]
    exact ⟨fun some => absurd none some, fun _ => ⟨_, _, _, _, rfl⟩⟩
  · have nothing : ((Normalizer.forSlot slot d.separator d.digitPrefix).form raw.toList).isEmpty ↔
        Normalizer.body slot separator raw.toList = [] := by
      rw [List.isEmpty_iff, Normalizer.form_eq_nil_iff characters layer.lead.isLead]
    rw [finish_of_text d request given empty, layer.normalize_eq]
    dsimp only
    by_cases none : Normalizer.body slot separator raw.toList = []
    · rw [if_pos (nothing.mpr none)]
      exact ⟨fun some => absurd none some, fun _ => ⟨_, _, _, _, rfl⟩⟩
    · rw [if_neg (mt nothing.mp none)]
      exact ⟨fun _ => ⟨_, rfl⟩, fun fails => absurd none fails⟩

end Decorator.IsLayer

theorem Decorator.finish_isRefused (d : Decorator) {request : Request} {reply : Reply}
    {failure : Failure} (short : request.subject.hasLongInteger = false)
    (given : reply.result = .error failure) (ordinary : failure.isStop = false) :
    IsRefused (d.finish request reply).result := by
  rw [finish_of_failure d request given ordinary]
  exact pass_isRefused d failure reply short

namespace Generator
open Decorator

variable {request : Request}

/-- What a standard generator answers behind earlier requests. -/
def standardAnswer (slot : Slot) (earlier : List Request) (request : Request) :
    Except Failure Value :=
  (((standard { slot }).askAll earlier).2.ask request).1.result

theorem standardAnswer_eq (slot : Slot) (own : request.slot = slot) (earlier : List Request) :
    standardAnswer slot earlier request =
      (finish { slot } (received request) (Default.reply slot (received request))).result := by
  obtain ⟨reached, same⟩ := askAll_decorated { slot } (default slot) earlier
  have left := askAll_base (Default.base slot) reached
  have whole : ((standard { slot }).askAll earlier).2 =
      .decorated { slot } (.base { Default.base slot with asked := [] ++ reached }) := by
    rw [standard, same]
    exact congrArg (decorated { slot }) left
  rw [standardAnswer, whole, ask_of_slot own]
  rfl

end Generator

namespace Default
open Normalizer

theorem spell_propertySpelling (c : Char) :
    (∃ x ∈ spell propertySpelling c, headsName .property x) ↔
      c = '+' ∨ c = '*' ∨ isSegmentStart c = true ∧ c ≠ '_' := by
  have heads (x : Char) : headsName .property x ↔ isSegmentStart x = true ∧ x ≠ '_' := by
    simp [headsName]
  simp only [heads]
  -- Nothing that the table lists heads a segment itself, and only two entries are words.
  have table : propertySpelling.all (fun entry =>
      entry.1.toList.all (fun x => !isSegmentStart x) &&
      (entry.2.toList.any (fun x => isSegmentStart x && x != '_') ==
        (entry.1.toList == ['+'] || entry.1.toList == ['*']))) = true := by decide +kernel
  cases found : propertySpelling.lookup (String.singleton c) with
  | none =>
    have plus : c ≠ '+' := by
      rintro rfl
      contradiction
    have star : c ≠ '*' := by
      rintro rfl
      contradiction
    simp [spell, found, plus, star]
  | some word =>
    have entry := List.all_eq_true.mp table _ (mem_of_lookup_eq_some found)
    rw [Bool.and_eq_true] at entry
    obtain ⟨bare, words⟩ := entry
    have plain : isSegmentStart c = false := by simpa using bare
    have word_iff : (∃ x ∈ word.toList, isSegmentStart x = true ∧ x ≠ '_') ↔ c = '+' ∨ c = '*' := by
      rw [beq_iff_eq, Bool.eq_iff_iff, String.toList_singleton] at words
      simpa using words
    simpa [spell, found, plain] using word_iff

end Default

namespace Generator
open Decorator Normalizer

/-- A property has a name if a character in its own heads a segment or is spelled as a word. -/
theorem standardAnswer_property (earlier : List Request) (name : Option String) :
    NamedWhen
      (∃ c ∈ (name.getD "").toList, c = '+' ∨ c = '*' ∨ isSegmentStart c = true ∧ c ≠ '_')
      (standardAnswer .property earlier (.property name)) := by
  rw [standardAnswer_eq .property rfl]
  have short : (received (.property name)).subject.hasLongInteger = false := by
    cases name <;> rfl
  by_cases empty : name.getD "" = ""
  · have failed : Default.propertyName name = .error
        (.naming (.slot .property) (Value.ofText? name) "property has no name") := by
      rw [Default.propertyName, if_pos (String.isEmpty_iff.mpr empty)]
    refine ⟨fun some => ?_, fun _ => finish_isRefused _ short
      (congrArg (fun r => (r.mapError Failure.of).map Value.text) failed) rfl⟩
    simp [empty] at some
  · cases name with
    | none => exact absurd rfl empty
    | some raw =>
      have given : (Default.reply .property (.property (some raw))).result =
          .ok (.text (String.ofList (raw.toList.flatMap (spell Default.propertySpelling)))) :=
        congrArg (fun r => (r.mapError Failure.of).map Value.text) (Default.propertyName_some empty)
      refine ((isLayer_default .property).finish_text short given).congr ?_
      simp only [String.toList_ofList, List.mem_flatMap, ← Default.spell_propertySpelling]
      constructor
      · rintro ⟨x, ⟨c, member, spelled⟩, heads⟩
        exact ⟨c, member, x, spelled, heads⟩
      · rintro ⟨c, member, x, spelled, heads⟩
        exact ⟨x, ⟨c, member, spelled⟩, heads⟩

end Generator

namespace Default

theorem heads_spelled_iff (raw : String) :
    (∃ c ∈ (spelled raw).toList, headsName .enum c) ↔
      raw ∈ operatorNames.map (·.1) ∨ ∃ c ∈ raw.toList, headsName .enum c := by
  have words : operatorNames.all (fun entry =>
      entry.2.toList.any (fun c => isSegmentStart c && c != '_')) = true := by decide +kernel
  have quote : ¬ headsName .enum '"' := by
    have plain : isSegmentStart '"' = false := by decide +kernel
    simp [headsName, plain]
  cases found : operatorNames.lookup raw with
  | some word =>
    have listed := mem_of_lookup_eq_some found
    have head := List.all_eq_true.mp words _ listed
    simp only [List.any_eq_true, Bool.and_eq_true, bne_iff_ne] at head
    obtain ⟨c, member, start⟩ := head
    rw [spelled, found]
    exact iff_of_true ⟨c, member, .inr start⟩ (.inl (List.mem_map.mpr ⟨_, listed, rfl⟩))
  | none =>
    have unlisted : raw ∉ operatorNames.map (·.1) := by
      intro listed
      obtain ⟨entry, member, same⟩ := List.mem_map.mp listed
      have different := List.lookup_eq_none_iff.mp found entry member
      simp [same] at different
    rw [spelled, found]
    simp only [String.toList_ofList, List.mem_filter, unlisted, false_or]
    refine exists_congr fun c => ?_
    constructor
    · rintro ⟨⟨member, _⟩, heads⟩
      exact ⟨member, heads⟩
    · rintro ⟨member, heads⟩
      refine ⟨⟨member, ?_⟩, heads⟩
      rw [Bool.not_eq_true', beq_eq_false_iff_ne]
      rintro rfl
      exact quote heads

end Default

namespace Generator
open Decorator

variable {index : Int} {name : Option String} {value : Value} {schema : Schema} {raw : String}

theorem hasLongInteger_subject (own : Default.enumRaw? name value = some raw) (index : Int)
    (schema : Schema) :
    (Request.enum index name value schema).subject.hasLongInteger = false := by
  cases name with
  | some name => rfl
  | none =>
    simp only [Default.enumRaw?, Option.isNone_none, Bool.true_and] at own
    split at own
    · contradiction
    · rename_i short
      simpa [Request.subject] using short

/-- A member has a name if its raw name is an operator or a character in it heads a segment. -/
theorem standardAnswer_enum (earlier : List Request) (own : Default.enumRaw? name value = some raw)
    (index : Int) (schema : Schema) :
    NamedWhen (raw ∈ Default.operatorNames.map (·.1) ∨ ∃ c ∈ raw.toList, headsName .enum c)
      (standardAnswer .enum earlier (.enum index name value schema)) := by
  have short := hasLongInteger_subject own index schema
  rw [standardAnswer_eq .enum rfl]
  by_cases empty : raw = ""
  · have failed : Default.enumName index name value = .error (Default.unnamed index name) := by
      simp only [Default.enumName, own, String.isEmpty_iff.mpr empty, if_true]
    have ordinary : (Failure.of (Default.unnamed index name)).isStop = false := by
      cases shown : (Value.int index).shown? <;> simp only [Default.unnamed, shown] <;> rfl
    refine ⟨fun some => ?_, fun _ => finish_isRefused _ short
      (congrArg (fun r => (r.mapError Failure.of).map Value.text) failed) ordinary⟩
    rw [empty] at some
    simp [Default.operatorNames] at some
  · have given : (Default.reply .enum (.enum index name value schema)).result =
        .ok (.text (Default.spelled raw)) :=
      congrArg (fun r => (r.mapError Failure.of).map Value.text) (Default.enumName_some own empty)
    exact ((isLayer_default .enum).finish_text short given).congr (Default.heads_spelled_iff _)

theorem standardAnswer_unwritable (earlier : List Request) (own : Default.enumRaw? name value = none) :
    standardAnswer .enum earlier (.enum index name value schema) = .error .unwritable := by
  obtain ⟨rfl, long⟩ : name = none ∧ value.hasLongInteger = true := by
    simpa [Default.enumRaw?] using own
  have failed : Default.enumName index none value = .error (.mishap .digitLimit) := by
    simp only [Default.enumName, own]
  have given : (Default.reply .enum (.enum index none value schema)).result = .error .unwritable :=
    congrArg (fun r => (r.mapError Failure.of).map Value.text) failed
  have subject : (received (.enum index none value schema)).subject.hasLongInteger = true := long
  rw [standardAnswer_eq .enum rfl]
  exact congrArg Reply.result
    ((finish_of_failure _ _ given rfl).trans (pass_of_long _ _ _ subject))

/-- Which requests the standard generators refuse, whatever they have been asked before: a property
without a character that heads a segment or is spelled as a word, and a member whose raw name is no
operator and has neither a point nor a character that heads a segment. To the others they give
names, but for members whose value cannot be written. -/
theorem standardAnswer_isRefused_iff (earlier : List Request) :
    (∀ name : Option String,
      (IsRefused (standardAnswer .property earlier (.property name)) ↔
        name = none ∨ ¬ ∃ c ∈ (name.getD "").toList,
          c = '+' ∨ c = '*' ∨ isSegmentStart c = true ∧ c ≠ '_') ∧
      (IsRefused (standardAnswer .property earlier (.property name)) ∨
        ∃ made, standardAnswer .property earlier (.property name) = .ok (.text made))) ∧
    ∀ (index : Int) (name : Option String) (value : Value) (schema : Schema),
      (IsRefused (standardAnswer .enum earlier (.enum index name value schema)) ↔
        ∃ raw, Default.enumRaw? name value = some raw ∧
          raw ∉ Default.operatorNames.map (·.1) ∧ '.' ∉ raw.toList ∧
          ¬ ∃ c ∈ raw.toList, c ≠ '_' ∧ isSegmentStart c = true) ∧
      (IsRefused (standardAnswer .enum earlier (.enum index name value schema)) ∨
        (∃ made, standardAnswer .enum earlier (.enum index name value schema) =
          .ok (.text made)) ∨ Default.enumRaw? name value = none) := by
  constructor
  · intro name
    have outcome := standardAnswer_property earlier name
    refine ⟨?_, outcome.isRefused_or⟩
    rw [outcome.isRefused_iff]
    cases name with
    | none => simp
    | some raw => simp
  · intro index name value schema
    cases own : Default.enumRaw? name value with
    | none =>
      rw [standardAnswer_unwritable earlier own]
      refine ⟨iff_of_false not_isRefused_unwritable ?_, .inr (.inr rfl)⟩
      rintro ⟨_, none, _⟩
      contradiction
    | some raw =>
      have outcome := standardAnswer_enum earlier own index schema
      refine ⟨?_, outcome.isRefused_or.imp_right .inl⟩
      rw [outcome.isRefused_iff, not_or]
      simp only [Option.some.injEq, exists_eq_left']
      refine and_congr_right fun _ => ?_
      constructor
      · intro none
        refine ⟨fun point => none ⟨'.', point, .inl ⟨rfl, rfl⟩⟩, ?_⟩
        rintro ⟨c, member, plain, start⟩
        exact none ⟨c, member, .inr ⟨start, plain⟩⟩
      · rintro ⟨noPoint, noStart⟩ ⟨c, member, ⟨_, rfl⟩ | ⟨start, plain⟩⟩
        · exact noPoint member
        · exact noStart ⟨c, member, plain, start⟩

end Generator

end SchemaNaming
