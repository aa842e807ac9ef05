import SchemaNaming.Proofs.Generator.Decorated
import SchemaNaming.Proofs.Normalizer.FixedNames

/-!
Decorators around decorators. What the innermost one answers is a name that every further layer
leaves as it is, a fault of naming or a stop, and these pass. So a stack of layers answers as its
innermost decorator alone, whatever separators and prefixes the others have.
-/

namespace SchemaNaming
open Text Identifier
open Normalizer (IsPlainCamel)

theorem nodup_eraseDups (names : List String) : names.eraseDups.Nodup := by
  cases names with
  | nil => simp
  | cons name rest =>
    rw [List.eraseDups_cons, List.nodup_cons]
    constructor
    · simp [List.mem_eraseDups]
    · exact nodup_eraseDups _
termination_by names.length
decreasing_by
  have shorter := List.length_filter_le (fun other => !other == name) rest
  rw [List.length_cons]
  omega

theorem eraseDups_eq_self {names : List String} (distinct : names.Nodup) :
    names.eraseDups = names := by
  induction names with
  | nil => rfl
  | cons name rest ih =>
    obtain ⟨absent, others⟩ := List.nodup_cons.mp distinct
    have whole : rest.filter (fun other => !other == name) = rest := by
      refine List.filter_eq_self.mpr fun other member => ?_
      have different : other ≠ name := fun same => absent (same ▸ member)
      simp [different]
    rw [List.eraseDups_cons, whole, ih others]

namespace Decorator

variable {slot : Slot} {d : Decorator} {request : Request} {reply : Reply}

theorem received_received (request : Request) :
    received (received request) = received request := by
  cases request with
  | enum | property => rfl
  | type schema hint reserved =>
    simp only [received, Names.read, eraseDups_eq_self (nodup_eraseDups _)]

/-- A decorator for a slot whose separator is one character, no point and none that an identifier
shows, and whose prefix is a name in upper camel case without low lines. -/
structure IsLayer (slot : Slot) (d : Decorator) : Prop where
  own : d.slot = slot
  text : d.foreign = none
  separator : ∃ c, d.separator = String.singleton c ∧ isIdentifierPart c = false ∧ c ≠ '.'
  lead : IsPlainCamel d.digitPrefix.toList

/-- What every layer passes on. A fault of naming is logged on the way, and so needs a subject that can
be written. -/
inductive IsPassed (request : Request) : Except Failure Value → Prop where
  | name {name : String} (camel : IsPlainCamel name.toList)
    (settled : settle request name = name) : IsPassed request (.ok (.text name))
  | naming (short : request.subject.hasLongInteger = false) (label : SlotLabel) (subject : Value)
    (reason : String) (causes : List Fault) :
    IsPassed request (.error ⟨.naming label subject reason, causes⟩)
  | unwritable (long : request.subject.hasLongInteger = true) :
    IsPassed request (.error .unwritable)
  | stop {failure : Failure} (stops : failure.isStop = true) : IsPassed request (.error failure)

/-- Whatever a base gives can be written. -/
def IsWritable (given : Except Failure Value) : Prop :=
  ∀ v, given = .ok v → v.hasLongInteger = false

theorem pass_isRefused (d : Decorator) (failure : Failure) (reply : Reply)
    (short : request.subject.hasLongInteger = false) :
    IsRefused (d.pass request failure reply).result := by
  obtain ⟨fault, causes⟩ := failure
  cases fault with
  | naming label subject reason =>
    rw [pass_naming d reply short]
    exact ⟨_, _, _, _, rfl⟩
  | _ =>
    rw [pass_other d reply short (by intro _ _ _ same; cases same)]
    exact ⟨_, _, _, _, rfl⟩

namespace IsLayer

theorem normalize_eq (layer : d.IsLayer slot) (raw : String) :
    d.normalizer.normalize raw =
      let name := (Normalizer.forSlot slot d.separator d.digitPrefix).form raw.toList
      if name.isEmpty then
        .error (.of (.naming (.slot slot) (.text raw) "normalizes to an empty identifier"))
      else .ok (String.ofList name) := by
  have separates : d.separator ≠ "" := by
    obtain ⟨c, single, _⟩ := layer.separator
    intro empty
    have characters := congrArg String.toList (single.symm.trans empty)
    simp at characters
  simp only [normalizer_eq layer.text, layer.own, Normalizer.normalize_forSlot separates,
    List.isEmpty_iff]

theorem normalize_eq_self (layer : d.IsLayer slot) {name : String}
    (camel : IsPlainCamel name.toList) : d.normalizer.normalize name = .ok name := by
  obtain ⟨c, single, outside, _⟩ := layer.separator
  have same : (Normalizer.forSlot slot d.separator d.digitPrefix).form name.toList = name.toList :=
    camel.form_eq (by rw [single, String.toList_singleton]) outside layer.lead.isLead
  rw [layer.normalize_eq]
  dsimp only
  rw [same, if_neg (by simpa using camel.ne_nil), String.ofList_toList]

theorem finish_of_isPassed (layer : d.IsLayer slot) (passed : IsPassed request reply.result) :
    (d.finish request reply).result = reply.result := by
  generalize given : reply.result = result at passed
  cases passed with
  | @name name camel settled =>
    have some : name ≠ "" := by
      rintro rfl
      exact camel.ne_nil rfl
    rw [finish_of_text d request given some, layer.normalize_eq_self camel]
    exact congrArg (fun name => Except.ok (Value.text name)) settled
  | naming short label subject reason causes =>
    rw [finish_of_failure d request given rfl, pass_naming d reply short]
  | unwritable long =>
    rw [finish_of_failure d request given rfl, pass_of_long d _ reply long, unwritten]
  | stop stops => rw [finish_of_stop d request given stops, given]

end IsLayer

end Decorator

namespace Generator
open Decorator

variable {slot : Slot} {d : Decorator} {g inner : Generator} {request : Request}

theorem ask_of_slot (same : request.slot = d.slot) :
    (decorated d inner).ask request =
      (d.finish (received request) (inner.ask (received request)).1,
       decorated d (inner.ask (received request)).2) := by
  rw [ask, if_pos same]

theorem ask_of_other_slot (other : request.slot ≠ d.slot) :
    (decorated d inner).ask request =
      (.fault (wrongArguments (className d.slot) d.slot request.slot), decorated d inner) := by
  rw [ask, if_neg other]

/-- How a stack of layers for a slot answers, if every layer outside passes that on. The reserved names
may have been gone through before, and the arguments of another slot are refused without asking the
base. -/
structure Answers (slot : Slot) (request : Request) (g : Generator) : Prop where
  again : g.ask (received request) = g.ask request
  passed : request.slot = slot → IsPassed (received request) (g.ask request).1.result
  refused : request.slot ≠ slot →
    g.ask request = (.fault (wrongArguments (className slot) slot request.slot), g)

theorem ask_received (d : Decorator) (inner : Generator) (request : Request) :
    (decorated d inner).ask (received request) = (decorated d inner).ask request := by
  have sameSlot := received_slot request
  by_cases own : request.slot = d.slot
  · rw [ask_of_slot own, ask_of_slot (sameSlot.trans own), received_received]
  · rw [ask_of_other_slot own, ask_of_other_slot (sameSlot ▸ own), sameSlot]

theorem Answers.ask_decorated (answers : Answers slot request g) (layer : d.IsLayer slot) :
    ((decorated d g).ask request).1.result = (g.ask request).1.result := by
  by_cases same : request.slot = slot
  · rw [ask_of_slot (same.trans layer.own.symm), answers.again]
    exact layer.finish_of_isPassed (answers.passed same)
  · rw [ask_of_other_slot (layer.own ▸ same), answers.refused same, layer.own]

theorem Answers.decorated (answers : Answers slot request g) (layer : d.IsLayer slot) :
    Answers slot request (decorated d g) where
  again := ask_received d g request
  passed same := by
    rw [answers.ask_decorated layer]
    exact answers.passed same
  refused other := by
    rw [ask_of_other_slot (layer.own ▸ other), layer.own]

variable {outer : List Decorator}

end Generator

end SchemaNaming
