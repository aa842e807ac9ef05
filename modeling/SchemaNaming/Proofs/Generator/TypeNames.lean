import SchemaNaming.Pipeline.Generation
import SchemaNaming.Proofs.Generator.Decorated
import SchemaNaming.Proofs.Plugin.Frame

/-!
Runs of calls for type names. The caller reserves every name that a call answers before it calls
again, and hands the names over in any way: a generator that keeps each answer off the names it was
given never answers a name twice.
-/

namespace SchemaNaming
open Text Identifier Plugin

/-- A call for a type name, with the way its caller hands reserved names over: as a collection or as
an iterator, in any order, and perhaps with others. -/
structure TypeCall where
  schema : Schema := {}
  hint : Option String := none
  hand : List String → Names := .collection
  all_handed : ∀ used, ∀ name ∈ used, name ∈ (hand used).read.1 := by exact fun _ _ => id

namespace TypeCall

def request (call : TypeCall) (used : List String) : Request :=
  .type call.schema call.hint (call.hand used)

/-- The name that a call has answered; a failure is none. -/
def answered : Except Failure Value → List String
  | .ok (.text name) => [name]
  | _ => []

/-- The answers to calls one after the other, each with the names answered so far reserved. -/
def answers (ask : Request → Run σ Value) (used : List String) :
    List TypeCall → σ → List (Except Failure Value)
  | [], _ => []
  | call :: rest, s =>
    let (result, s) := ask (call.request used) s
    result :: answers ask (used ++ answered result) rest s

/-- An answer that is a letter-led identifier off the names used. -/
def IsFresh (used : List String) (v : Value) : Prop :=
  ∃ name, v = .text name ∧ isIdentifier name.toList = true ∧ isLetterLed name.toList = true ∧
    name ∉ used

/-- All that is answered is fresh, and nothing is answered twice. -/
structure AreFresh (used : List String) (results : List (Except Failure Value)) : Prop where
  fresh : ∀ v, .ok v ∈ results → IsFresh used v
  nodup : (results.flatMap answered).Nodup

theorem IsFresh.weaken (fresh : IsFresh more v) (less : ∀ name ∈ used, name ∈ more) :
    IsFresh used v := by
  obtain ⟨name, same, identifier, led, free⟩ := fresh
  exact ⟨name, same, identifier, led, fun member => free (less name member)⟩

theorem mem_answered {result : Except Failure Value} :
    name ∈ answered result ↔ result = .ok (.text name) := by
  cases result with
  | error failure => simp [answered]
  | ok v => cases v <;> simp [answered, eq_comm]

theorem nodup_answered (result : Except Failure Value) : (answered result).Nodup := by
  unfold answered
  split <;> simp

theorem AreFresh.cons (head : ∀ v, result = .ok v → IsFresh used v)
    (tail : AreFresh (used ++ answered result) results) : AreFresh used (result :: results) := by
  refine ⟨?_, ?_⟩
  · intro v member
    rcases List.mem_cons.mp member with same | member
    · exact head v same.symm
    · exact (tail.fresh v member).weaken fun name => List.mem_append_left _
  · rw [List.flatMap_cons]
    refine List.nodup_append.mpr ⟨nodup_answered result, tail.nodup, ?_⟩
    rintro name here _ later rfl
    obtain ⟨other, listed, inOther⟩ := List.mem_flatMap.mp later
    rw [mem_answered.mp inOther] at listed
    obtain ⟨_, same, _, _, free⟩ := tail.fresh _ listed
    obtain rfl := Value.text.inj same
    exact free (List.mem_append_right _ here)

theorem answers_areFresh {ask : Request → Run σ Value} (Inv : σ → Prop)
    (step : ∀ schema hint names s, Inv s → Inv (ask (.type schema hint names) s).2 ∧
      ∀ v, (ask (.type schema hint names) s).1 = .ok v → IsFresh names.read.1 v)
    (calls : List TypeCall) (used : List String) (start : Inv s) :
    AreFresh used (answers ask used calls s) := by
  induction calls generalizing used s with
  | nil => exact ⟨by simp [answers], by simp [answers]⟩
  | cons call rest ih =>
    obtain ⟨kept, fresh⟩ := step call.schema call.hint (call.hand used) s start
    exact .cons (fun v ok => (fresh v ok).weaken (call.all_handed used)) (ih _ kept)

end TypeCall

theorem Config.isSeparator_iff {v : Value} :
    isSeparator v = true ↔
      ∃ s c, v = .text s ∧ s.toList = [c] ∧ isIdentifierPart c = false ∧ c ≠ '.' := by
  cases v with
  | text s =>
    simp only [isSeparator, Value.text.injEq, exists_and_left, exists_eq_left']
    rcases s.toList with _ | ⟨c, _ | _⟩ <;> simp
  | _ => simp [isSeparator]

theorem Config.isLead_of_isDigitPrefix {v : Value} (accepted : isDigitPrefix v = true) :
    Normalizer.IsLead v.display := by
  cases v with
  | text s =>
    simp only [isDigitPrefix, Bool.and_eq_true] at accepted
    exact ⟨accepted.1, accepted.2⟩
  | _ => contradiction

/-- A decorator whose separator is one character and whose prefix can begin a name. -/
structure Decorator.IsSound (d : Decorator) : Prop where
  plain : d.foreign = none
  single : ∃ c, d.separator.toList = [c]
  lead : Normalizer.IsLead d.digitPrefix

theorem Decorator.isSound_withSeparator {slot : Slot} {separator digitPrefix : Value}
    (separates : Config.isSeparator separator = true)
    (leads : Config.isDigitPrefix digitPrefix = true) :
    (withSeparator slot separator digitPrefix.display).IsSound := by
  obtain ⟨s, c, rfl, single, _⟩ := Config.isSeparator_iff.mp separates
  exact ⟨rfl, ⟨c, single⟩, Config.isLead_of_isDigitPrefix leads⟩

namespace Generator

theorem ask_decorated_inner (d : Decorator) (inner : Generator) (request : Request) :
    ∃ inner', ((decorated d inner).ask request).2 = .decorated d inner' := by
  rw [ask]
  split
  · exact ⟨_, rfl⟩
  · exact ⟨_, rfl⟩

theorem ask_type_isFresh {d : Decorator} {inner : Generator} (sound : d.IsSound)
    (answered : ((decorated d inner).ask (.type schema hint names)).1.result = .ok v) :
    TypeCall.IsFresh names.read.1 v := by
  obtain ⟨_, raw, name, _, named, rfl⟩ := ask_decorated_ok answered
  obtain ⟨c, single⟩ := sound.single
  rw [Decorator.normalizer_eq sound.plain] at named
  obtain ⟨text, some⟩ := Normalizer.normalize_ok named
  obtain ⟨identifier, led⟩ := Normalizer.form_identifier single sound.lead some
  let used := names.read.1.eraseDups
  obtain ⟨number, numbered, parts, _⟩ := uniqueName_eq_append name used
  refine ⟨uniqueName name used, rfl, ?_, ?_, ?_⟩
  · rw [numbered, text]
    exact Normalizer.isIdentifier_append identifier parts
  · rw [numbered, text]
    exact Normalizer.isLetterLed_append led number
  · exact fun member => uniqueName_notMem_used name used (List.mem_eraseDups.mpr member)

/-- A request as a run on the generator. -/
def answer (request : Request) : Run Generator Value := fun g =>
  let (reply, g) := g.ask request
  (reply.result, g)

end Generator

namespace Plugin

theorem emitAll_ok (records : List Log.Record) (h : Host) :
    (Host.emitAll records h).1 = .ok () := by
  induction records generalizing h with
  | nil => rfl
  | cons r rest ih => exact ih (h.record r)

/-- The generator of an instance. -/
def Registry.generator? (r : Registry) (id : InstanceId) : Option Generator :=
  (r.instances.getD id default).generator

theorem Registry.generator?_modify {r : Registry} {id : InstanceId}
    (present : r.generator? id = some g) (g' : Generator) :
    Registry.generator?
      { r with instances := r.instances.modify id ({ · with generator := some g' }) } id =
      some g' := by
  have inside : id < r.instances.size := by
    by_contra outside
    simp [generator?, Array.getD, outside] at present
    cases present
  simp [generator?, Array.getD, inside, Array.getElem_modify]

theorem ask_generator {id : InstanceId} (present : h.plugins.generator? id = some g)
    (request : Request) :
    (ask id request h).1 = (g.ask request).1.result ∧
      (ask id request h).2.plugins.generator? id = some (g.ask request).2 := by
  let changed : Host := { h with plugins := { h.plugins with
    instances := h.plugins.instances.modify id
      ({ · with generator := some (g.ask request).2 }) } }
  have emitted := emitAll_ok (g.ask request).1.records changed
  have same := Leads.emitAll (g.ask request).1.records changed
  have run : ask id request h =
      (do Host.emitAll (g.ask request).1.records; Run.lift (g.ask request).1.result) changed := by
    have found : (h.plugins.instances.getD id default).generator = some g := present
    simp only [ask, registry, Run.bind_apply, Run.get_apply, Run.pure_apply, found]
    rfl
  rw [run, Run.bind_apply]
  rcases ended : Host.emitAll (g.ask request).1.records changed with ⟨failure | _, h'⟩ <;>
    rw [ended] at emitted same
  · contradiction
  · dsimp only at same ⊢
    rw [Run.lift_apply, ← same]
    exact ⟨rfl, Registry.generator?_modify present _⟩

end Plugin

namespace TypeCall

/-- Whatever stands inside a type decorator and whatever fails on the way, the names answered in a run
are letter-led identifiers, all different and none of them used before. It is so for the decorator
itself and for a pipeline that it stands in. -/
theorem typeNames_areFresh {separator digitPrefix : Value}
    (separates : Config.isSeparator separator = true)
    (leads : Config.isDigitPrefix digitPrefix = true) (inner : Generator) (used : List String)
    (calls : List TypeCall) :
    let d := Decorator.withSeparator .type separator digitPrefix.display
    AreFresh used (answers Generator.answer used calls (.decorated d inner)) ∧
      ∀ p h, h.plugins.generator? p.occupants.type = some (.decorated d inner) →
        AreFresh used (answers Pipeline.generate used calls (p, h)) := by
  intro d
  have sound : d.IsSound := Decorator.isSound_withSeparator separates leads
  refine ⟨?_, ?_⟩
  · refine answers_areFresh (fun g => ∃ inner, g = .decorated d inner) ?_ calls used
      ⟨inner, rfl⟩
    rintro schema hint names _ ⟨inner, rfl⟩
    exact ⟨Generator.ask_decorated_inner d inner _,
      fun v ok => Generator.ask_type_isFresh sound ok⟩
  · intro p h holds
    refine answers_areFresh (fun s : Pipeline × Host =>
      ∃ inner, s.2.plugins.generator? s.1.occupants.type = some (.decorated d inner)) ?_ calls used
      ⟨inner, holds⟩
    rintro schema hint names ⟨p, h⟩ ⟨inner, holds⟩
    obtain ⟨reply, left⟩ := ask_generator holds (.type schema hint names)
    obtain ⟨inner', same⟩ := Generator.ask_decorated_inner d inner (.type schema hint names)
    refine ⟨⟨inner', left.trans (congrArg some same)⟩, fun v ok => ?_⟩
    exact Generator.ask_type_isFresh sound (reply.symm.trans ok)

/-- Two answers of one base, the second to an iterator. -/
theorem typeNames_areFresh_iterator :
    let inner : Generator := .base (.stateless (fun _ => .name "pet store"))
    let d := Decorator.withSeparator .type (.text "-") "N"
    let i : Instance := { cls := 0, generator := some (.decorated d inner) }
    let h : Host := { plugins := { instances := #[i] } }
    let p : Pipeline := { occupants := ⟨0, 0, 0⟩ }
    let calls : List TypeCall := [{}, { hand := .iterator }]
    Config.isSeparator (.text "-") = true ∧ Config.isDigitPrefix (.text "N") = true ∧
      h.plugins.generator? p.occupants.type = some (.decorated d inner) ∧
      (answers Pipeline.generate ["Pet"] calls (p, h)).flatMap answered =
        ["PetStore", "PetStore2"] ∧
      AreFresh ["Pet"] (answers Generator.answer ["Pet"] calls (.decorated d inner)) ∧
      AreFresh ["Pet"] (answers Pipeline.generate ["Pet"] calls (p, h)) := by
  intro inner d i h p calls
  have separates : Config.isSeparator (.text "-") = true := by decide +kernel
  have leads : Config.isDigitPrefix (.text "N") = true := by decide +kernel
  have fresh := typeNames_areFresh separates leads inner ["Pet"] calls
  exact ⟨separates, leads, rfl, by decide +kernel, fresh.1, fresh.2 p h rfl⟩

end TypeCall

end SchemaNaming
