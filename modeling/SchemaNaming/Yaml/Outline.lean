import SchemaNaming.Value.Basic

/-!
Outlines of values for writing. Of a value that stands at several places the first one has an anchor
and the others are aliases; anchors are numbered in the order in which second places are met.
-/

namespace SchemaNaming.Yaml

inductive Outline where
  | scalar (anchor : Option Nat) (v : Value)
  | sequence (anchor : Option Nat) (items : List Outline)
  | mapping (anchor : Option Nat) (isSet : Bool) (entries : List (Outline × Outline))
  | alias (number : Nat)
  deriving Inhabited

/-- What a walk over a value has met. -/
structure Visits where
  seen : List Nat := []
  /-- The labels met again, in the order of the second places. -/
  repeated : List Nat := []
  hasLongInteger : Bool := false
  deriving Repr, Inhabited

def Visits.again (s : Visits) (label : Nat) : Visits :=
  if s.repeated.contains label then s else { s with repeated := s.repeated ++ [label] }

mutual

/-- Walks over a value; what has been met is not entered again. -/
def visit (s : Visits) : Value → Visits
  | .int n => { s with hasLongInteger := s.hasLongInteger || Value.isLongInteger n }
  | .list items => visitItems s items
  | .tuple items => visitItems s items
  | .set items => visitItems s items
  | .dict entries => visitEntries s entries
  | .labelled label _ v =>
    if s.seen.contains label then s.again label else visit { s with seen := label :: s.seen } v
  | .around label _ => s.again label
  | _ => s

def visitItems (s : Visits) : List Value → Visits
  | [] => s
  | item :: rest => visitItems (visit s item) rest

def visitEntries (s : Visits) : List (Value × Value) → Visits
  | [] => s
  | (key, value) :: rest => visitEntries (visit (visit s key) value) rest

end

/-- The number of a label's anchor, if it has one. -/
def anchorOf? (repeated : List Nat) (label : Nat) : Option Nat :=
  (repeated.idxOf? label).map (· + 1)

mutual

/-- The outline of a value with an anchor; the state holds the labels whose first places are done. -/
def outline (repeated : List Nat) (anchor : Option Nat) : Value → StateM (List Nat) Outline
  | .list items => do return .sequence anchor (← outlineItems repeated items)
  | .tuple items => do return .sequence anchor (← outlineItems repeated items)
  | .set items => do
    let keys ← outlineItems repeated items
    return .mapping anchor true (keys.map (fun key => (key, .scalar none .null)))
  | .dict entries => do return .mapping anchor false (← outlineEntries repeated entries)
  | .labelled label _ v => do
    let number := anchorOf? repeated label
    if (← get).contains label then return .alias (number.getD 0)
    else
      modify (label :: ·)
      outline repeated number v
  | .around label _ => return .alias ((anchorOf? repeated label).getD 0)
  | v => return .scalar anchor v

def outlineItems (repeated : List Nat) : List Value → StateM (List Nat) (List Outline)
  | [] => return []
  | item :: rest => do
    let first ← outline repeated none item
    let others ← outlineItems repeated rest
    return first :: others

def outlineEntries (repeated : List Nat) :
    List (Value × Value) → StateM (List Nat) (List (Outline × Outline))
  | [] => return []
  | (key, value) :: rest => do
    let key ← outline repeated none key
    let value ← outline repeated none value
    let others ← outlineEntries repeated rest
    return (key, value) :: others

end

/-- The outline of a whole value. -/
def outlineOf (v : Value) : Outline := ((outline (visit {} v).repeated none v).run []).1

end SchemaNaming.Yaml
