import SchemaNaming.Proofs.Generator.Outcomes

/-!
Generators handed to decorators. A decorator consults the generator that it is built around, once for
each request and for nothing else, and its outcome is what it makes of the reply. A generator that is
handed in is the one consulted if it counts as true when the decorator is built. One that counts as
false is never consulted: the default generator of the slot stands in its place.
-/

namespace SchemaNaming

namespace Decorator

/-- What becomes of an output. A text is normalized, and for types made unique against the reserved
names; nothing else gets a name. -/
structure Normalizes (d : Decorator) (request : Request)
    (given outcome : Except Failure Value) : Prop where
  text : ∀ raw, given = .ok (.text raw) → raw ≠ "" →
    outcome = (d.normalizer.normalize raw).map (fun name => .text (settle request name))
  other : (∀ v, given = .ok v → IsUnusable v) → ∃ failure, outcome = .error failure

theorem finish_normalizes (d : Decorator) (request : Request) (reply : Reply) :
    d.Normalizes request reply.result (d.finish request reply).result where
  text raw given some := by rw [finish_of_text d request given some]
  other unusable := by
    cases outcome : (d.finish request reply).result with
    | error failure => exact ⟨failure, rfl⟩
    | ok v =>
      obtain ⟨raw, name, given, named, rfl⟩ := finish_ok outcome
      -- An empty text is refused before it is normalized.
      rw [finish_of_unusable d request given (unusable _ given)] at outcome
      exact absurd outcome (refuse_ne_ok d request _ reply)

end Decorator

namespace Generator
open Decorator

variable {d : Decorator} {g left : Generator} {requests : List Request}

/-- A run of requests to a decorator around a generator. Each of them is put to what the generator is
by then, once, with its reserved names gone through, and the reply to it decides the outcome. -/
inductive Consults (d : Decorator) :
    Generator → List Request → List (Except Failure Value) → Generator → Prop where
  | done (g : Generator) : Consults d g [] [] g
  | next {g left : Generator} {request : Request} {rest : List Request}
    {outcome : Except Failure Value} {outcomes : List (Except Failure Value)}
    (made : d.Normalizes (received request) (g.ask (received request)).1.result outcome)
    (later : Consults d (g.ask (received request)).2 rest outcomes left) :
    Consults d g (request :: rest) (outcome :: outcomes) left

theorem Consults.left_eq {outcomes : List (Except Failure Value)}
    (consults : Consults d g requests outcomes left) :
    left = (g.askAll (requests.map received)).2 := by
  induction consults with
  | done => rfl
  | next _ _ ih => exact ih

/-- A generator serves a run of a decorator: the run consults it, and it is what remains inside. The
requests that have reached a base stand behind those from before the run. -/
structure Serves (d : Decorator) (g : Generator) (requests : List Request)
    (run : List Reply × Generator) : Prop where
  consulted : ∃ left, run.2 = decorated d left ∧
    Consults d g requests (run.1.map (·.result)) left
  once : ∀ b, g = base b →
    run.2 = decorated d (base { b with asked := b.asked ++ requests.map received })

theorem askAll_consults (own : ∀ request ∈ requests, request.slot = d.slot) (g : Generator) :
    ∃ left, ((decorated d g).askAll requests).2 = decorated d left ∧
      Consults d g requests (((decorated d g).askAll requests).1.map (·.result)) left := by
  induction requests generalizing g with
  | nil => exact ⟨g, rfl, .done g⟩
  | cons request rest ih =>
    obtain ⟨same, others⟩ := List.forall_mem_cons.mp own
    have first : (decorated d g).ask request = _ := ask_of_slot same
    obtain ⟨left, remains, later⟩ := ih others (g.ask (received request)).2
    refine ⟨left, ?_, ?_⟩
    · rw [askAll, first]
      exact remains
    · rw [askAll, first]
      exact .next (finish_normalizes d _ _) later

theorem decorated_serves (own : ∀ request ∈ requests, request.slot = d.slot) (g : Generator) :
    Serves d g requests ((decorated d g).askAll requests) where
  consulted := askAll_consults own g
  once b same := by
    obtain ⟨left, remains, consults⟩ := askAll_consults own g
    rw [remains, consults.left_eq, same, askAll_base]

/-- A generator that is handed in serves every run of the decorator if it counts as true. If it counts
as false the default generator does, and the decorator is the same as without it. -/
theorem around_serves (s : Supplied) (own : ∀ request ∈ requests, request.slot = d.slot) :
    if s.isTrue then Serves d s.generator requests ((around d (some s)).askAll requests)
    else around d (some s) = around d none ∧
      Serves d (default d.slot) requests ((around d (some s)).askAll requests) := by
  cases counts : s.isTrue with
  | true =>
    have built : around d (some s) = decorated d s.generator := by simp [around, baseFor, counts]
    rw [built]
    exact decorated_serves own s.generator
  | false =>
    have built : around d (some s) = around d none := by simp [around, baseFor, counts]
    rw [built]
    exact ⟨rfl, decorated_serves own (default d.slot)⟩

/-- A base that counts its requests, with a name that is reserved and handed over twice. -/
theorem around_serves_counting :
    let count : Behaviour := fun asked _ => .name ("pet " ++ toString (asked.length + 1))
    let s : Supplied := { generator := base { behaviour := count } }
    let d : Decorator := { slot := .type }
    let requests : List Request :=
      [.type {} none (.iterator ["Pet1", "Pet1"]), .type {} (some "x") (.collection ["Pet1"])]
    (∀ request ∈ requests, request.slot = d.slot) ∧ s.isTrue = true ∧
      ((around d (some s)).askAll requests).1.flatMap (fun r => TypeCall.answered r.result) =
        ["Pet12", "Pet2"] ∧
      Serves d s.generator requests ((around d (some s)).askAll requests) := by
  intro count s d requests
  have own : ∀ request ∈ requests, request.slot = d.slot := by decide
  have serves := around_serves s own
  rw [if_pos rfl] at serves
  exact ⟨own, rfl, by decide +kernel, serves⟩

/-- A base that counts as false is replaced: it would have named the property, and does not. -/
theorem around_replaces :
    ¬ ∀ (d : Decorator) (s : Supplied) (requests : List Request),
      (∀ request ∈ requests, request.slot = d.slot) →
        Serves d s.generator requests ((around d (some s)).askAll requests) := by
  intro serves
  let d : Decorator := { slot := .property }
  let s : Supplied :=
    { generator := base (.stateless (fun _ => .name "kept")), isTrue := false }
  let request : Request := .property (some "x")
  obtain ⟨left, _, consults⟩ := (serves d s [request] (by decide)).consulted
  change Consults d s.generator [request] [((around d (some s)).ask request).1.result] left
    at consults
  cases consults with | next made _ =>
  have same := congrArg TypeCall.answered (made.text "kept" rfl (by decide))
  have differ : ¬ TypeCall.answered ((around d (some s)).ask request).1.result =
      TypeCall.answered ((d.normalizer.normalize "kept").map
        (fun name => .text (settle (received request) name))) := by
    decide +kernel
  exact differ same

end Generator

end SchemaNaming
