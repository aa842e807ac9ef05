import SchemaNaming.Number.Decimal
import SchemaNaming.Calendar

/-!
Values of schema documents and configuration files, with the truth value, the kind and the key
equality that the naming rules use. A value that may stand at several places of a document has a
label, by which writers tell that the places show one value and not equal ones.
-/

namespace SchemaNaming
open Number

inductive Value where
  | null
  | bool (b : Bool)
  | int (n : Int)
  | float (x : Binary64)
  | text (s : String)
  | bytes (data : List UInt8)
  | day (d : Day)
  | moment (m : Moment)
  | list (items : List Value)
  | tuple (items : List Value)
  | set (items : List Value)
  | dict (entries : List (Value × Value))
  /-- The same value at every place with this label. 'recurs' tells that it lies inside itself. -/
  | labelled (label : Nat) (recurs : Bool) (v : Value)
  /-- The value of that label around this place: a list, or else a mapping. -/
  | around (label : Nat) (isList : Bool)
  deriving Inhabited

namespace Value

/-- Null, false, zero and everything empty count as false. -/
def isTrue : Value → Bool
  | .null => false
  | .bool b => b
  | .int n => n != 0
  | .float x => !x.isZero
  | .text s => !s.isEmpty
  | .bytes data => !data.isEmpty
  | .day _ | .moment _ | .around .. => true
  | .list items => !items.isEmpty
  | .tuple items => !items.isEmpty
  | .set items => !items.isEmpty
  | .dict entries => !entries.isEmpty
  | .labelled _ _ v => v.isTrue

def kindName : Value → String
  | .null => "NoneType"
  | .bool _ => "bool"
  | .int _ => "int"
  | .float _ => "float"
  | .text _ => "str"
  | .bytes _ => "bytes"
  | .day _ => "datetime.date"
  | .moment _ => "datetime.datetime"
  | .list _ => "list"
  | .tuple _ => "tuple"
  | .set _ => "set"
  | .dict _ => "dict"
  | .labelled _ _ v => v.kindName
  | .around _ isList => if isList then "list" else "dict"

def shortKindName (v : Value) : String := ((v.kindName.splitOn ".").getLast?).getD ""

def text? : Value → Option String
  | .text s => some s
  | _ => none

def ofText? : Option String → Value
  | some s => .text s
  | none => .null

/-- The integer that a number or truth value equals, if any. -/
def integer? : Value → Option Int
  | .bool b => some (if b then 1 else 0)
  | .int n => some n
  | .float x => x.toInt?
  | _ => none

mutual

/-- Puts a value in the places inside it that stand for the value around them. -/
def fillIn (label : Nat) (whole : Value) : Value → Value
  | .around other isList => if other == label then whole else .around other isList
  | .list items => .list (fillInItems label whole items)
  | .tuple items => .tuple (fillInItems label whole items)
  | .dict entries => .dict (fillInEntries label whole entries)
  | .labelled other recurs v => .labelled other recurs (fillIn label whole v)
  | v => v

def fillInItems (label : Nat) (whole : Value) : List Value → List Value
  | [] => []
  | item :: rest => fillIn label whole item :: fillInItems label whole rest

def fillInEntries (label : Nat) (whole : Value) : List (Value × Value) → List (Value × Value)
  | [] => []
  | (key, value) :: rest => (key, fillIn label whole value) :: fillInEntries label whole rest

end

/-- The value under a label, with nothing in it that refers to the outside. -/
def bare : Value → Value
  | .labelled label true v => fillIn label (.labelled label true v) v
  | .labelled _ false v => v
  | v => v

def unlabelled : Value → Value
  | .labelled _ _ v => v.unlabelled
  | v => v

mutual

/-- Equality of mapping keys, the second without a label: numbers by value across their kinds; a NaN
equals nothing. -/
def sameKey : Value → Value → Bool
  | .labelled _ _ v, w => sameKey v w
  | .null, .null => true
  | .text s, .text t => s == t
  | .bytes a, .bytes b => a == b
  | .day a, .day b => a == b
  | .moment a, .moment b => a.isSame b
  | .tuple xs, .tuple ys => sameKeys xs ys
  | .float .nan, _ => false
  | .float x, .float y => x == y || (x.isZero && y.isZero)
  | v, w =>
    match v.integer?, w.integer? with
    | some m, some n => m == n
    | _, _ => false
termination_by structural v => v

def sameKeys : List Value → List Value → Bool
  | [], [] => true
  | x :: xs, y :: ys => sameKey x y && sameKeys xs ys
  | _, _ => false
termination_by structural xs => xs

end

/-- The value under a text key; a later entry of a mapping never repeats a key. -/
def get? (key : String) : List (Value × Value) → Option Value
  | [] => none
  | (k, v) :: rest => if k.sameKey (.text key) then some v else get? key rest

def put (key value : Value) : List (Value × Value) → List (Value × Value)
  | [] => [(key, value)]
  | (k, v) :: rest =>
    if k.sameKey key.unlabelled then (k, value) :: rest else (k, v) :: put key value rest

def entriesOf (entries : List (Value × Value)) : List (Value × Value) :=
  entries.foldl (fun done entry => put entry.1 entry.2 done) []

def dictOf (entries : List (Value × Value)) : Value := .dict (entriesOf entries)

/-- The bound is not for unfolding: it has thousands of digits. -/
@[irreducible] def isLongInteger (n : Int) : Bool := pow10 digitLimit ≤ n.natAbs

mutual

/-- Whether an integer in a value is too long to be written in decimal. -/
def hasLongInteger : Value → Bool
  | .int n => isLongInteger n
  | .list items => itemsHaveLongInteger items
  | .tuple items => itemsHaveLongInteger items
  | .set items => itemsHaveLongInteger items
  | .dict entries => entriesHaveLongInteger entries
  | .labelled _ _ v => hasLongInteger v
  | _ => false

def itemsHaveLongInteger : List Value → Bool
  | [] => false
  | item :: rest => hasLongInteger item || itemsHaveLongInteger rest

def entriesHaveLongInteger : List (Value × Value) → Bool
  | [] => false
  | (key, value) :: rest =>
    hasLongInteger key || hasLongInteger value || entriesHaveLongInteger rest

end

end Value

end SchemaNaming
