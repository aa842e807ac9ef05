import SchemaNaming.Generator.Decorator

/-!
Scripts: the behaviours that plugin classes can declare.
-/

namespace SchemaNaming

inductive Script where
  /-- Gives back the name, hint or property name as it is. -/
  | raw
  | lower (text : String)
  | constant (value : Value)
  | indexed (text : String)
  /-- Joins the reserved names in order. -/
  | reserved (text : String)
  | counting (text : String)
  | raise (raised : Raised)
  | raiseNaming (slot : SlotLabel) (subject : Value) (reason : String)
  /-- Calls the contract's own method, which gives nothing. -/
  | inherited
  /-- Puts a text before the name of a fresh standard generator. -/
  | leading (text : String)
  deriving Inhabited

namespace Script

def reservedText (text : String) (names : List String) : String :=
  Value.joined text (names.mergeSort (fun a b => decide (a ≤ b)))

def reply (script : Script) (asked : List Request) (request : Request) : Reply :=
  match script with
  | .raw => { result := .ok (Value.ofText? request.raw) }
  | .lower text =>
    let raw := request.raw.getD ""
    .name (String.ofList (Text.lowerText (if raw.isEmpty then text else raw).toList))
  | .constant value => { result := .ok value }
  | .indexed text =>
    match request with
    | .enum index _ _ _ =>
      match (Value.int index).shown? with
      | some shown => .name (text ++ shown)
      | none => .fault (.mishap .digitLimit)
    | _ => .name text
  | .reserved text =>
    match request with
    | .type _ _ names => .name (reservedText text names.read.1)
    | _ => .name ""
  | .counting text => .name (text ++ toString (asked.length + 1))
  | .raise raised => .fault (.raised raised)
  | .raiseNaming slot subject reason => .fault (.ofNaming slot subject reason)
  | .inherited => { result := .ok .null }
  | .leading text =>
    let inner := ((Generator.standard { slot := request.slot }).ask request).1
    { inner with result := inner.result.map (fun v => .text (text ++ v.display)) }

def base (script : Script) : Base := { behaviour := script.reply }

end Script

end SchemaNaming
