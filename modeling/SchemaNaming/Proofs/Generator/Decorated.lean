import SchemaNaming.Generator.Decorator
import SchemaNaming.Proofs.Identifier.FreeNumber

/-!
What the answer of a decorator tells about the answer of its base. A name comes from a text that the
base gave, by normalization and, for types, a number. With a separator of one character and a prefix
in upper camel case every name is in upper camel case, whatever the base does.
-/

namespace SchemaNaming
open Text Identifier

/-- The outcome is a fault of naming. -/
def IsRefused (result : Except Failure Value) : Prop :=
  ∃ label subject reason causes, result = .error ⟨.naming label subject reason, causes⟩

theorem not_isRefused_ok (v : Value) : ¬ IsRefused (.ok v) := by
  rintro ⟨_, _, _, _, same⟩
  contradiction

theorem not_isRefused_unwritable : ¬ IsRefused (.error .unwritable) := by
  rintro ⟨_, _, _, _, same⟩
  cases same

theorem Normalizer.normalize_ok {n : Normalizer} (named : n.normalize raw = .ok name) :
    name.toList = n.form raw.toList ∧ n.form raw.toList ≠ [] := by
  simp only [normalize] at named
  split at named
  · contradiction
  · split at named
    · contradiction
    · split at named
      · contradiction
      · rename_i some
        obtain rfl := Except.ok.inj named
        exact ⟨String.toList_ofList, by simpa using some⟩

namespace Decorator

theorem normalizer_eq {d : Decorator} (text : d.foreign = none) :
    d.normalizer = .forSlot d.slot d.separator d.digitPrefix := by
  obtain ⟨slot, separator, digitPrefix, foreign⟩ := d
  obtain rfl : foreign = none := text
  cases slot <;> rfl

variable {d : Decorator} {request : Request} {returned : Value} {failure : Failure} {reply : Reply}

/-- A record and a fault need a value and a subject that can be written. -/
theorem refuse_of_short (d : Decorator) (reply : Reply) (value : returned.hasLongInteger = false)
    (subject : request.subject.hasLongInteger = false) :
    let reason := "base generator returned " ++ returned.shown
    d.refuse request returned reply =
      { result := .error (.of (.naming (.slot d.slot) request.subject reason))
        records := reply.records ++ [failureRecord d.slot request.subject reason] } := by
  simp only [refuse, Value.shown?_of_short value, Value.shown?_of_short subject]

theorem refuse_of_long (d : Decorator) (reply : Reply)
    (long : returned.hasLongInteger = true ∨ request.subject.hasLongInteger = true) :
    d.refuse request returned reply = unwritten reply := by
  simp only [refuse]
  rcases long with long | long
  · simp only [Value.shown?_eq_none.mpr long]
  · rw [Value.shown?_eq_none.mpr long]
    cases returned.shown? <;> rfl

theorem pass_of_long (d : Decorator) (failure : Failure) (reply : Reply)
    (long : request.subject.hasLongInteger = true) :
    d.pass request failure reply = unwritten reply := by
  simp only [pass, Value.shown?_eq_none.mpr long]

theorem pass_naming (d : Decorator) (reply : Reply)
    (short : request.subject.hasLongInteger = false) (label : SlotLabel) (subject : Value)
    (reason : String) (causes : List Fault) :
    d.pass request ⟨.naming label subject reason, causes⟩ reply =
      { result := .error ⟨.naming label subject reason, causes⟩
        records := reply.records ++
          [failureRecord d.slot request.subject (reasonOf (.naming label subject reason))] } := by
  simp only [pass, Value.shown?_of_short short]

theorem pass_other (d : Decorator) (reply : Reply)
    (short : request.subject.hasLongInteger = false)
    (other : ∀ label subject reason, failure.fault ≠ .naming label subject reason) :
    let reason := "base generator failed: " ++ failure.fault.message
    d.pass request failure reply =
      { result := .error (.because (.naming (.slot d.slot) request.subject reason) failure)
        records := reply.records ++
          [failureRecord d.slot request.subject (reasonOf failure.fault)] } := by
  simp only [pass, Value.shown?_of_short short]

theorem refuse_ne_ok (d : Decorator) (request : Request) (returned : Value) (reply : Reply) :
    (d.refuse request returned reply).result ≠ .ok v := by
  intro answered
  simp only [refuse] at answered
  split at answered <;> contradiction

theorem pass_ne_ok (d : Decorator) (request : Request) (failure : Failure) (reply : Reply) :
    (d.pass request failure reply).result ≠ .ok v := by
  intro answered
  simp only [pass] at answered
  split at answered
  · contradiction
  · split at answered <;> contradiction

/-- Nothing to make a name of: no text, or an empty one. -/
def IsUnusable (v : Value) : Prop := ∀ raw, v = .text raw → raw = ""

theorem not_isUnusable_text {raw : String} (some : raw ≠ "") : ¬ IsUnusable (.text raw) :=
  fun unusable => some (unusable raw rfl)

theorem finish_of_stop (d : Decorator) (request : Request) (given : reply.result = .error failure)
    (stops : failure.isStop = true) : d.finish request reply = reply := by
  simp only [finish, given, stops, if_true]

theorem finish_of_failure (d : Decorator) (request : Request)
    (given : reply.result = .error failure) (ordinary : failure.isStop = false) :
    d.finish request reply = d.pass request failure reply := by
  simp [finish, given, ordinary]

theorem finish_of_unusable (d : Decorator) (request : Request) (given : reply.result = .ok returned)
    (unusable : IsUnusable returned) :
    d.finish request reply = d.refuse request returned reply := by
  cases returned with
  | text raw => simp only [finish, given, String.isEmpty_iff.mpr (unusable raw rfl), if_true]
  | _ => simp only [finish, given]

theorem finish_of_text (d : Decorator) (request : Request) {raw : String}
    (given : reply.result = .ok (.text raw)) (some : raw ≠ "") :
    d.finish request reply =
      { result := (d.normalizer.normalize raw).map (fun name => .text (settle request name))
        records := reply.records } := by
  simp [finish, given, some]

theorem finish_ok (answered : (d.finish request reply).result = .ok v) :
    ∃ raw name, reply.result = .ok (.text raw) ∧ d.normalizer.normalize raw = .ok name ∧
      v = .text (settle request name) := by
  rcases given : reply.result with failure | returned
  · by_cases stops : failure.isStop = true
    · rw [finish_of_stop d request given stops, given] at answered
      contradiction
    · rw [finish_of_failure d request given (by simpa using stops)] at answered
      exact absurd answered (pass_ne_ok d request failure reply)
  · by_cases unusable : IsUnusable returned
    · rw [finish_of_unusable d request given unusable] at answered
      exact absurd answered (refuse_ne_ok d request returned reply)
    · simp only [IsUnusable, not_forall] at unusable
      obtain ⟨raw, rfl, some⟩ := unusable
      rw [finish_of_text d request given some] at answered
      cases named : d.normalizer.normalize raw with
      | error failure =>
        simp only [named] at answered
        contradiction
      | ok name =>
        simp only [named] at answered
        exact ⟨raw, name, rfl, named, (Except.ok.inj answered).symm⟩

end Decorator

namespace Generator

/-- A decorator that answers has been asked for a name of its slot and got a text from its base. -/
theorem ask_decorated_ok {d : Decorator} {inner : Generator}
    (answered : ((decorated d inner).ask request).1.result = .ok v) :
    request.slot = d.slot ∧ ∃ raw name,
      (inner.ask (Decorator.received request)).1.result = .ok (.text raw) ∧
      d.normalizer.normalize raw = .ok name ∧
      v = .text (Decorator.settle (Decorator.received request) name) := by
  rw [ask] at answered
  split at answered
  · rename_i same
    exact ⟨same, Decorator.finish_ok answered⟩
  · contradiction

end Generator

/-- Settling a name puts a number behind it at most. -/
theorem Decorator.settle_eq_append (request : Request) (name : String) :
    ∃ number, (settle request name).toList = name.toList ++ number ∧
      (∀ c ∈ number, isIdentifierPart c = true) ∧ '_' ∉ number ∧
      (request.slot ≠ .type → number = []) := by
  cases request with
  | enum | property => exact ⟨[], by simp [settle]⟩
  | type schema hint reserved =>
    obtain ⟨number, same, parts, plain⟩ := uniqueName_eq_append name reserved.read.1
    exact ⟨number, same, parts, plain, fun other => absurd rfl other⟩

theorem Decorator.received_slot (request : Request) : (received request).slot = request.slot := by
  cases request <;> rfl

namespace Generator

/-- Every answer of a decorator is a name in upper camel case, and was a text of its base. Low lines
stand only in names of enumeration members, one for each point of that text. -/
theorem decorated_isUpperCamel {slot : Slot} {c : Char} {digitPrefix : String}
    (separate : c ≠ '.') (camel : isUpperCamel digitPrefix.toList = true)
    (plain : '_' ∉ digitPrefix.toList)
    (inner : Generator) (request : Request)
    (answered : ((decorated { slot, separator := String.singleton c, digitPrefix } inner).ask
      request).1.result = .ok v) :
    ∃ name raw, v = .text name ∧
      (inner.ask (Decorator.received request)).1.result = .ok (.text raw) ∧
      isUpperCamel name.toList = true ∧
      (slot ≠ .enum → '_' ∉ name.toList) ∧
      (slot = .enum → name.toList.count '_' = raw.toList.count '.') := by
  obtain ⟨sameSlot, raw, name, given, named, rfl⟩ := ask_decorated_ok answered
  have single : (String.singleton c).toList = [c] := String.toList_singleton c
  simp only [isUpperCamel, Bool.and_eq_true] at camel
  have lead : Normalizer.IsLead digitPrefix := ⟨camel.1.1, camel.1.2⟩
  rw [Decorator.normalizer_eq rfl] at named
  obtain ⟨text, some⟩ := Normalizer.normalize_ok named
  obtain ⟨number, settled, parts, noLow, noNumber⟩ :=
    Decorator.settle_eq_append (Decorator.received request) name
  refine ⟨_, raw, rfl, given, ?_, ?_, ?_⟩
  · have formed := Normalizer.form_isUpperCamel single lead camel.2 some
    simp only [isUpperCamel, Bool.and_eq_true] at formed ⊢
    rw [settled, text]
    exact ⟨⟨Normalizer.isIdentifier_append formed.1.1 parts,
      Normalizer.isLetterLed_append formed.1.2 number⟩,
      Normalizer.hasUpperHead_append formed.2 number⟩
  · -- Nothing is kept, so no low line comes from normalization.
    intro other
    have count := Normalizer.count_form slot single lead plain raw.toList
    have none : (Normalizer.body slot c raw.toList).countP slot.keeps = 0 :=
      List.countP_eq_zero.mpr fun x _ keeps => other (Slot.keeps_iff.mp keeps).1
    rw [none] at count
    rw [settled, text, List.mem_append, not_or]
    exact ⟨List.count_eq_zero.mp count, noLow⟩
  · rintro rfl
    have count := Normalizer.count_form .enum single lead plain raw.toList
    have dots : (Normalizer.body .enum c raw.toList).countP Slot.enum.keeps =
        (Normalizer.body .enum c raw.toList).count '.' := by
      refine List.countP_congr fun x _ => ?_
      simp [Slot.keeps, Slot.kept]
    have kept : Slot.enum.keeps '.' = true := rfl
    have noType : (Decorator.received request).slot ≠ .type := by
      rw [Decorator.received_slot, sameSlot]
      exact Slot.noConfusion
    rw [settled, noNumber noType, List.append_nil, text, count, dots,
      Normalizer.count_body kept separate]

/-- A kept point, a segment that begins with a digit, and a letter whose upper case is two. -/
theorem decorated_isUpperCamel_point :
    let inner : Generator := .base (.stateless (fun _ => .name "ß.x:1"))
    let request : Request := .enum 0 none .null {}
    '-' ≠ '.' ∧ isUpperCamel "N".toList = true ∧ '_' ∉ "N".toList ∧
      ((decorated { slot := .enum } inner).ask request).1.result = .ok (.text "SS_x1") ∧
      ∃ name raw, Value.text "SS_x1" = .text name ∧
        (inner.ask (Decorator.received request)).1.result = .ok (.text raw) ∧
        isUpperCamel name.toList = true ∧
        (Slot.enum ≠ .enum → '_' ∉ name.toList) ∧
        (Slot.enum = .enum → name.toList.count '_' = raw.toList.count '.') := by
  intro inner request
  have camel : isUpperCamel "N".toList = true := by decide +kernel
  have formed : (Normalizer.forSlot .enum "-" "N").form "ß.x:1".toList = "SS_x1".toList := by
    decide +kernel
  have named : (Normalizer.forSlot .enum "-" "N").normalize "ß.x:1" = .ok "SS_x1" := by
    simp only [Normalizer.normalize, formed]
    rfl
  have answered :
      ((decorated { slot := .enum } inner).ask request).1.result = .ok (.text "SS_x1") := by
    change ((Normalizer.forSlot .enum "-" "N").normalize "ß.x:1").map _ = _
    rw [named]
    rfl
  exact ⟨by decide, camel, by decide, answered,
    decorated_isUpperCamel (c := '-') (by decide) camel (by decide) inner request answered⟩

end Generator

end SchemaNaming
