import SchemaNaming.Proofs.Generator.Refusals

/-!
What decorators make of the replies that they get. A text becomes a name if anything of it is left.
Faults of naming and stops pass as they are. Every other failure becomes the cause of a fault of
naming, and what is no text becomes such a fault without a cause. Nothing else comes out of a
decorator, whatever its base does and whatever its separator and prefix are, but the failure to write
what such a fault would report.
-/

namespace SchemaNaming
open Text Identifier

namespace Decorator

/-- A decorator for a slot with a text as its separator, which may have any length but none. -/
structure IsFor (slot : Slot) (d : Decorator) : Prop where
  own : d.slot = slot
  text : d.foreign = none
  separates : d.separator ≠ ""

/-- How a decorator replies to a request, by the reply of its base. What it finds in that reply it
logs; that nothing is left of a text it does not. -/
inductive Finishes (d : Decorator) (request : Request) : Reply → Reply → Prop where
  | named {raw : String} (records : List Log.Record) (some : raw ≠ "")
    (rest : d.normalizer.form raw.toList ≠ []) :
    Finishes d request ⟨.ok (.text raw), records⟩
      ⟨.ok (.text (settle request (String.ofList (d.normalizer.form raw.toList)))), records⟩
  | vanished {raw : String} (records : List Log.Record) (some : raw ≠ "")
    (none : d.normalizer.form raw.toList = []) :
    Finishes d request ⟨.ok (.text raw), records⟩
      ⟨.error (.of (.naming (.slot d.slot) (.text raw) "normalizes to an empty identifier")), records⟩
  | unusable {v : Value} (records : List Log.Record) (unusable : IsUnusable v)
    (value : v.hasLongInteger = false) (subject : request.subject.hasLongInteger = false)
    (reason : String) :
    Finishes d request ⟨.ok v, records⟩
      ⟨.error (.of (.naming (.slot d.slot) request.subject reason)),
        records ++ [failureRecord d.slot request.subject reason]⟩
  | unwritten {v : Value} (records : List Log.Record) (unusable : IsUnusable v)
    (long : v.hasLongInteger = true ∨ request.subject.hasLongInteger = true) :
    Finishes d request ⟨.ok v, records⟩ ⟨.error .unwritable, records⟩
  | refused (subject : request.subject.hasLongInteger = false) (label : SlotLabel)
    (named : Value) (reason : String) (causes : List Fault) (records : List Log.Record) :
    Finishes d request ⟨.error ⟨.naming label named reason, causes⟩, records⟩
      ⟨.error ⟨.naming label named reason, causes⟩,
        records ++ [failureRecord d.slot request.subject (reasonOf (.naming label named reason))]⟩
  | failed {failure : Failure} (records : List Log.Record) (ordinary : failure.isStop = false)
    (other : ¬ IsRefused (.error failure)) (subject : request.subject.hasLongInteger = false)
    (reason : String) :
    Finishes d request ⟨.error failure, records⟩
      ⟨.error (.because (.naming (.slot d.slot) request.subject reason) failure),
        records ++ [failureRecord d.slot request.subject (reasonOf failure.fault)]⟩
  | unreported {failure : Failure} (records : List Log.Record) (ordinary : failure.isStop = false)
    (long : request.subject.hasLongInteger = true) :
    Finishes d request ⟨.error failure, records⟩ ⟨.error .unwritable, records⟩
  | stop {failure : Failure} (records : List Log.Record) (stops : failure.isStop = true) :
    Finishes d request ⟨.error failure, records⟩ ⟨.error failure, records⟩

variable {slot : Slot} {d : Decorator} {request : Request} {reply : Reply}

theorem normalizer_slot (d : Decorator) : d.normalizer.slot = d.slot := by
  obtain ⟨slot, _⟩ := d
  cases slot <;> rfl

theorem normalizer_separator (d : Decorator) : d.normalizer.separator = d.separator := by
  obtain ⟨slot, _⟩ := d
  cases slot <;> rfl

theorem IsFor.normalize_eq (usable : d.IsFor slot) (raw : String) :
    d.normalizer.normalize raw =
      if d.normalizer.form raw.toList = [] then
        .error (.of (.naming (.slot d.slot) (.text raw) "normalizes to an empty identifier"))
      else .ok (String.ofList (d.normalizer.form raw.toList)) := by
  have text : d.normalizer.foreign = none := usable.text
  have separates : d.normalizer.separator ≠ "" := by
    rw [normalizer_separator]
    exact usable.separates
  rw [Normalizer.normalize_of_separates text separates, normalizer_slot]

theorem finishes_failure (d : Decorator) (request : Request) {failure : Failure}
    (ordinary : failure.isStop = false) (records : List Log.Record) :
    Finishes d request ⟨.error failure, records⟩ (d.finish request ⟨.error failure, records⟩) := by
  rw [finish_of_failure d request rfl ordinary]
  by_cases long : request.subject.hasLongInteger = true
  · rw [pass_of_long d _ _ long]
    exact .unreported records ordinary long
  · have short : request.subject.hasLongInteger = false := by simpa using long
    obtain ⟨fault, causes⟩ := failure
    cases fault with
    | naming label subject reason =>
      rw [pass_naming d _ short]
      exact .refused short label subject reason causes records
    | _ =>
      rw [pass_other d _ short (by intro _ _ _ same; cases same)]
      exact .failed records ordinary (by rintro ⟨_, _, _, _, same⟩; cases same) short _

theorem finishes_unusable (d : Decorator) (request : Request) {v : Value} (unusable : IsUnusable v)
    (records : List Log.Record) :
    Finishes d request ⟨.ok v, records⟩ (d.finish request ⟨.ok v, records⟩) := by
  rw [finish_of_unusable d request rfl unusable]
  by_cases long : v.hasLongInteger = true ∨ request.subject.hasLongInteger = true
  · rw [refuse_of_long d _ long]
    exact .unwritten records unusable long
  · simp only [not_or, Bool.not_eq_true] at long
    rw [refuse_of_short d _ long.1 long.2]
    exact .unusable records unusable long.1 long.2 _

theorem IsFor.finishes (usable : d.IsFor slot) (request : Request) (reply : Reply) :
    Finishes d request reply (d.finish request reply) := by
  obtain ⟨result, records⟩ := reply
  rcases result with failure | v
  · by_cases stops : failure.isStop = true
    · rw [finish_of_stop d request rfl stops]
      exact .stop records stops
    · exact finishes_failure d request (by simpa using stops) records
  · by_cases nothing : IsUnusable v
    · exact finishes_unusable d request nothing records
    · simp only [IsUnusable, not_forall] at nothing
      obtain ⟨raw, rfl, some⟩ := nothing
      rw [finish_of_text d request rfl some, usable.normalize_eq raw]
      by_cases none : d.normalizer.form raw.toList = []
      · rw [if_pos none]
        exact .vanished records some none
      · rw [if_neg none]
        exact .named records some none

theorem settle_ne_empty {name : String} (some : name ≠ "") (request : Request) :
    settle request name ≠ "" := by
  intro empty
  obtain ⟨number, same, _⟩ := settle_eq_append request name
  rw [empty] at same
  have none := (List.append_eq_nil_iff.mp same.symm).1
  exact some (String.toList_eq_nil_iff.mp none)

/-- The fault or the name that a decorator for a slot makes of what its base ends in. -/
structure Handles (slot : Slot) (d : Decorator) (request : Request)
    (given result : Except Failure Value) : Prop where
  ends : (∃ name, name ≠ "" ∧ result = .ok (.text name)) ∨ IsRefused result ∨
    (∃ failure, failure.isStop = true ∧ result = .error failure) ∨
    (result = .error .unwritable ∧
      (request.subject.hasLongInteger = true ∨ ¬ IsWritable given))
  named : ∀ raw, given = .ok (.text raw) → raw ≠ "" → d.normalizer.form raw.toList ≠ [] →
    ∃ name, result = .ok (.text name)
  vanished : ∀ raw, given = .ok (.text raw) → raw ≠ "" → d.normalizer.form raw.toList = [] →
    ∃ subject reason, result = .error (.of (.naming (.slot slot) subject reason))
  unusable : ∀ v, given = .ok v → IsUnusable v → v.hasLongInteger = false →
    request.subject.hasLongInteger = false →
    ∃ reason, result = .error (.of (.naming (.slot slot) request.subject reason))
  /-- The slot, the subject, the reason and the causes of a fault of naming are kept. -/
  refused : IsRefused given → request.subject.hasLongInteger = false → result = given
  failed : ∀ failure, given = .error failure → failure.isStop = false → ¬ IsRefused given →
    request.subject.hasLongInteger = false →
    ∃ reason, result = .error (.because (.naming (.slot slot) request.subject reason) failure)
  stopped : ∀ failure, given = .error failure → failure.isStop = true → result = given
  /-- What could not be written in a record ends the call. -/
  unwritten : ∀ v, given = .ok v → IsUnusable v →
    v.hasLongInteger = true ∨ request.subject.hasLongInteger = true → result = .error .unwritable
  unreported : ∀ failure, given = .error failure → failure.isStop = false →
    request.subject.hasLongInteger = true → result = .error .unwritable

theorem not_isStop_of_isRefused {failure : Failure} (refused : IsRefused (.error failure)) :
    failure.isStop = false := by
  obtain ⟨_, _, _, _, same⟩ := refused
  obtain rfl := Except.error.inj same
  rfl

section Handles

variable {result : Except Failure Value} {records made : List Log.Record}

theorem Finishes.handles_text {raw : String} (some : raw ≠ "")
    (finishes : Finishes d request ⟨.ok (.text raw), records⟩ ⟨result, made⟩) :
    Handles d.slot d request (.ok (.text raw)) result := by
  have ends : (∃ name, name ≠ "" ∧ result = .ok (.text name) ∧
        d.normalizer.form raw.toList ≠ []) ∨
      d.normalizer.form raw.toList = [] ∧
        ∃ subject reason, result = .error (.of (.naming (.slot d.slot) subject reason)) := by
    cases finishes with
    | named records some rest =>
      have full : String.ofList (d.normalizer.form raw.toList) ≠ "" := by
        intro empty
        exact rest (by simpa using congrArg String.toList empty)
      exact .inl ⟨_, settle_ne_empty full request, rfl, rest⟩
    | vanished records some none => exact .inr ⟨none, _, _, rfl⟩
    | unusable records unusable => exact absurd unusable (not_isUnusable_text some)
    | unwritten records unusable => exact absurd unusable (not_isUnusable_text some)
  have own {other : String} (same : (.ok (.text raw) : Except Failure Value) = .ok (.text other)) :
      raw = other := Value.text.inj (Except.ok.inj same)
  have usable {v : Value} (same : (.ok (.text raw) : Except Failure Value) = .ok v) :
      ¬ IsUnusable v := by
    obtain rfl := Except.ok.inj same
    exact not_isUnusable_text some
  refine
    { ends := ?_
      named := ?_
      vanished := ?_
      unusable := fun v same unusable => absurd unusable (usable same)
      refused := fun refused => absurd refused (not_isRefused_ok _)
      failed := fun _ same => by contradiction
      stopped := fun _ same => by contradiction
      unwritten := fun v same unusable => absurd unusable (usable same)
      unreported := fun _ same => by contradiction }
  · rcases ends with ⟨name, full, same, _⟩ | ⟨_, subject, reason, same⟩
    · exact .inl ⟨name, full, same⟩
    · exact .inr (.inl ⟨_, _, _, _, same⟩)
  · intro other same _ rest
    obtain rfl := own same
    rcases ends with ⟨name, _, same, _⟩ | ⟨none, _⟩
    · exact ⟨name, same⟩
    · exact absurd none rest
  · intro other same _ none
    obtain rfl := own same
    rcases ends with ⟨_, _, _, rest⟩ | ⟨_, refused⟩
    · exact absurd none rest
    · exact refused

theorem Finishes.handles_unusable {v : Value} (unusable : IsUnusable v)
    (finishes : Finishes d request ⟨.ok v, records⟩ ⟨result, made⟩) :
    Handles d.slot d request (.ok v) result := by
  have ends : (v.hasLongInteger = false ∧ request.subject.hasLongInteger = false ∧
        ∃ reason, result = .error (.of (.naming (.slot d.slot) request.subject reason))) ∨
      (v.hasLongInteger = true ∨ request.subject.hasLongInteger = true) ∧
        result = .error .unwritable := by
    cases finishes with
    | named records some => exact absurd unusable (not_isUnusable_text some)
    | vanished records some => exact absurd unusable (not_isUnusable_text some)
    | unusable records unusable value subject reason => exact .inl ⟨value, subject, reason, rfl⟩
    | unwritten records unusable long => exact .inr ⟨long, rfl⟩
  have nothing {raw : String} (same : (.ok v : Except Failure Value) = .ok (.text raw)) : raw = "" :=
    unusable raw (Except.ok.inj same)
  refine
    { ends := ?_
      named := fun raw same some => absurd (nothing same) some
      vanished := fun raw same some => absurd (nothing same) some
      unusable := ?_
      refused := fun refused => absurd refused (not_isRefused_ok _)
      failed := fun _ same => by contradiction
      stopped := fun _ same => by contradiction
      unwritten := ?_
      unreported := fun _ same => by contradiction }
  · rcases ends with ⟨_, _, _, same⟩ | ⟨long, same⟩
    · exact .inr (.inl ⟨_, _, _, _, same⟩)
    · refine .inr (.inr (.inr ⟨same, long.symm.imp_right fun long writable => ?_⟩))
      rw [writable v rfl] at long
      contradiction
  · intro other same _ value subject
    obtain rfl := Except.ok.inj same
    rcases ends with ⟨_, _, refused⟩ | ⟨long, _⟩
    · exact refused
    · simp [value, subject] at long
  · intro other same _ long
    obtain rfl := Except.ok.inj same
    rcases ends with ⟨value, subject, _⟩ | ⟨_, same⟩
    · simp [value, subject] at long
    · exact same

theorem Finishes.handles_failure {failure : Failure}
    (finishes : Finishes d request ⟨.error failure, records⟩ ⟨result, made⟩) :
    Handles d.slot d request (.error failure) result := by
  have ends : failure.isStop = true ∧ result = .error failure ∨ failure.isStop = false ∧
      (request.subject.hasLongInteger = false ∧
        (IsRefused (.error failure) ∧ result = .error failure ∨
          ¬ IsRefused (.error failure) ∧ ∃ reason,
            result = .error (.because (.naming (.slot d.slot) request.subject reason) failure)) ∨
      request.subject.hasLongInteger = true ∧ result = .error .unwritable) := by
    cases finishes with
    | refused subject label named reason causes records =>
      exact .inr ⟨rfl, .inl ⟨subject, .inl ⟨⟨_, _, _, _, rfl⟩, rfl⟩⟩⟩
    | failed records ordinary other subject reason =>
      exact .inr ⟨ordinary, .inl ⟨subject, .inr ⟨other, reason, rfl⟩⟩⟩
    | unreported records ordinary long => exact .inr ⟨ordinary, .inr ⟨long, rfl⟩⟩
    | stop records stops => exact .inl ⟨stops, rfl⟩
  refine
    { ends := ?_
      named := fun _ same => by contradiction
      vanished := fun _ same => by contradiction
      unusable := fun _ same => by contradiction
      refused := ?_
      failed := ?_
      stopped := ?_
      unwritten := fun _ same => by contradiction
      unreported := ?_ }
  · rcases ends with ⟨stops, same⟩ | ⟨_, ⟨_, ⟨refused, same⟩ | ⟨_, reason, same⟩⟩ | ⟨long, same⟩⟩
    · exact .inr (.inr (.inl ⟨failure, stops, same⟩))
    · exact .inr (.inl (same ▸ refused))
    · exact .inr (.inl ⟨_, _, _, _, same⟩)
    · exact .inr (.inr (.inr ⟨same, .inl long⟩))
  · intro refused short
    have ordinary := not_isStop_of_isRefused refused
    rcases ends with ⟨stops, _⟩ | ⟨_, ⟨_, ⟨_, same⟩ | ⟨other, _⟩⟩ | ⟨long, _⟩⟩
    · simp [ordinary] at stops
    · exact same
    · exact absurd refused other
    · simp [short] at long
  · intro other same ordinary others short
    obtain rfl := Except.error.inj same
    rcases ends with ⟨stops, _⟩ | ⟨_, ⟨_, ⟨refused, _⟩ | ⟨_, made⟩⟩ | ⟨long, _⟩⟩
    · simp [ordinary] at stops
    · exact absurd refused others
    · exact made
    · simp [short] at long
  · intro other same stops
    obtain rfl := Except.error.inj same
    rcases ends with ⟨_, same⟩ | ⟨ordinary, _⟩
    · exact same
    · simp [ordinary] at stops
  · intro other same ordinary long
    obtain rfl := Except.error.inj same
    rcases ends with ⟨stops, _⟩ | ⟨_, ⟨short, _⟩ | ⟨_, same⟩⟩
    · simp [ordinary] at stops
    · simp [short] at long
    · exact same

theorem Finishes.handles {given finished : Reply} (finishes : Finishes d request given finished) :
    Handles d.slot d request given.result finished.result := by
  obtain ⟨given | v, records⟩ := given
  · exact finishes.handles_failure
  · by_cases nothing : IsUnusable v
    · exact finishes.handles_unusable nothing
    · simp only [IsUnusable, not_forall] at nothing
      obtain ⟨raw, rfl, some⟩ := nothing
      exact finishes.handles_text some

end Handles

end Decorator

namespace Generator
open Decorator

variable {slot : Slot} {d : Decorator} {request : Request}

end Generator

end SchemaNaming
