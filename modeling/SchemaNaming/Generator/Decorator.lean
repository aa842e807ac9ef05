import SchemaNaming.Generator.Default

/-!
Normalizing decorators. A decorator asks its base once per request and turns the reply into a name
or into one naming fault; faults of naming and stops pass as they are, and what cannot be written is
neither logged nor reported. The type decorator goes through the reserved names once, asks with each
of them once and makes the normalized name unique again.
-/

namespace SchemaNaming
open Identifier

structure Decorator where
  slot : Slot
  separator : String := "-"
  digitPrefix : String := "N"
  /-- The kind of a separator that is no text. -/
  foreign : Option String := none
  deriving Inhabited

namespace Decorator

def logger : String := "namegen.generators.decorators"

def className (slot : Slot) : String := slot.name ++ "NameDecorator"

def withSeparator (slot : Slot) (separator : Value) (digitPrefix : String) : Decorator :=
  match separator with
  | .text s => { slot, separator := s, digitPrefix }
  | .null => { slot, separator := "", digitPrefix, foreign := some "None" }
  | v => { slot, separator := "", digitPrefix, foreign := some v.kindName }

def normalizer (d : Decorator) : Normalizer :=
  { Normalizer.forSlot d.slot d.separator d.digitPrefix with foreign := d.foreign }

/-- The request with its reserved names gone through, once, and kept without repetition. -/
def received : Request → Request
  | .type schema hint reserved => .type schema hint (.collection reserved.read.1.eraseDups)
  | request => request

def failureRecord (slot : Slot) (subject : Value) (reason : String) : Log.Record :=
  (Log.Event.namingFailed slot.name subject reason).record logger

/-- The reason of a naming fault, or its whole message when it has none. -/
def reasonOf (fault : Fault) : String :=
  match fault with
  | .naming _ _ reason => if reason.isEmpty then fault.message else reason
  | fault => fault.message

/-- Names that have to differ from the reserved ones get a number. -/
def settle (request : Request) (name : String) : String :=
  match request with
  | .type _ _ reserved => uniqueName name reserved.read.1
  | _ => name

/-- What becomes of a reply whose record or fault would hold a number that is too long. -/
def unwritten (reply : Reply) : Reply := { reply with result := .error .unwritable }

def refuse (d : Decorator) (request : Request) (returned : Value) (reply : Reply) : Reply :=
  let subject := request.subject
  match returned.shown?, subject.shown? with
  | some shown, some _ =>
    let reason := "base generator returned " ++ shown
    { result := .error (.of (.naming (.slot d.slot) subject reason))
      records := reply.records ++ [failureRecord d.slot subject reason] }
  | _, _ => unwritten reply

/-- What the decorator makes of a failure of its base that is no stop. -/
def pass (d : Decorator) (request : Request) (failure : Failure) (reply : Reply) : Reply :=
  let subject := request.subject
  match subject.shown? with
  | none => unwritten reply
  | some _ =>
    let records := reply.records ++ [failureRecord d.slot subject (reasonOf failure.fault)]
    match failure.fault with
    | .naming .. => { result := .error failure, records }
    | fault =>
      let reason := "base generator failed: " ++ fault.message
      { result := .error (.because (.naming (.slot d.slot) subject reason) failure), records }

def finish (d : Decorator) (request : Request) (reply : Reply) : Reply :=
  match reply.result with
  | .error failure => if failure.isStop then reply else d.pass request failure reply
  | .ok value =>
    match value with
    | .text raw =>
      if raw.isEmpty then d.refuse request value reply
      else
        { result := (d.normalizer.normalize raw).map (fun name => .text (settle request name))
          records := reply.records }
    | value => d.refuse request value reply

end Decorator

inductive Generator where
  | base (b : Base)
  | decorated (d : Decorator) (inner : Generator)

structure Supplied where
  generator : Generator
  isTrue : Bool := true

namespace Generator

/-- One request, answered from the base outwards; the generator that remains has it recorded. -/
def ask : Generator → Request → Reply × Generator
  | .base b, request =>
    let (reply, b) := b.ask request
    (reply, .base b)
  | .decorated d inner, request =>
    if request.slot = d.slot then
      let request := Decorator.received request
      let (reply, inner) := inner.ask request
      (d.finish request reply, .decorated d inner)
    else
      (.fault (wrongArguments (Decorator.className d.slot) d.slot request.slot),
       .decorated d inner)

def default (slot : Slot) : Generator := .base (Default.base slot)

/-- The generator that a decorator is built around: one that is handed in, unless it counts as
false, and else the default. -/
def baseFor (slot : Slot) : Option Supplied → Generator
  | some s => if s.isTrue then s.generator else default slot
  | none => default slot

def around (d : Decorator) (given : Option Supplied) : Generator :=
  .decorated d (baseFor d.slot given)

/-- Decorators around a generator, the first one innermost. -/
def stack (inner : Generator) (layers : List Decorator) : Generator :=
  layers.foldl (fun g d => .decorated d g) inner

def standard (d : Decorator) : Generator := .decorated d (default d.slot)

def asked : Generator → List Request
  | .base b => b.asked
  | .decorated _ inner => inner.asked

def askAll : Generator → List Request → List Reply × Generator
  | g, [] => ([], g)
  | g, request :: rest =>
    let (reply, g) := g.ask request
    let (replies, g) := g.askAll rest
    (reply :: replies, g)

end Generator

end SchemaNaming
