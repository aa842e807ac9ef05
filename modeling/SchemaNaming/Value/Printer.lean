import SchemaNaming.Value.Basic
import SchemaNaming.Number.Shortest
import SchemaNaming.Text.Quoted

/-!
Texts of values. Inside a container every text is quoted; alone it stands for itself. A tuple of one
item keeps a comma behind it, and a place inside a value that stands for the value is shown by dots.
A value that holds an integer of too many digits has no text.
-/

namespace SchemaNaming.Value
open Number

def joined (separator : String) : List String → String
  | [] => ""
  | [s] => s
  | s :: rest => s ++ separator ++ joined separator rest

def call (name : String) (arguments : List String) : String :=
  name ++ "(" ++ joined ", " arguments ++ ")"

/-- A distance in minutes, as whole days and the seconds behind them. -/
def shownDistance (minutes : Int) : String :=
  let days := Int.fdiv minutes 1440
  let seconds := Int.fmod minutes 1440 * 60
  call "datetime.timedelta"
    ((if days == 0 then [] else ["days=" ++ toString days]) ++
      (if seconds == 0 then [] else ["seconds=" ++ toString seconds]))

def shownDay (d : Day) : String := call "datetime.date" (d.fields.map toString)

def shownMoment (m : Moment) : String :=
  let zone : List String := match m.offset with
    | none => []
    | some 0 => ["tzinfo=datetime.timezone.utc"]
    | some minutes => ["tzinfo=" ++ call "datetime.timezone" [shownDistance minutes]]
  call "datetime.datetime" (m.fields.map toString ++ zone)

mutual

def shown : Value → String
  | .null => "None"
  | .bool b => if b then "True" else "False"
  | .int n => toString n
  | .float x => x.render
  | .text s => Text.quoted s
  | .bytes data => Text.quotedBytes data
  | .day d => shownDay d
  | .moment m => shownMoment m
  | .list items => "[" ++ joined ", " (shownItems items) ++ "]"
  | .tuple [item] => "(" ++ shown item ++ ",)"
  | .tuple items => "(" ++ joined ", " (shownItems items) ++ ")"
  | .set [] => "set()"
  | .set items => "\x7b" ++ joined ", " (shownItems items) ++ "\x7d"
  | .dict entries => "\x7b" ++ joined ", " (shownEntries entries) ++ "\x7d"
  | .labelled _ _ v => shown v
  | .around _ isList => if isList then "[...]" else "\x7b...\x7d"

def shownItems : List Value → List String
  | [] => []
  | item :: rest => shown item :: shownItems rest

def shownEntries : List (Value × Value) → List String
  | [] => []
  | (key, value) :: rest => (shown key ++ ": " ++ shown value) :: shownEntries rest

end

/-- The text of a value that stands alone. -/
def display : Value → String
  | .text s => s
  | .day d => d.isoText
  | .moment m => m.isoText
  | .labelled _ _ (.day d) => d.isoText
  | .labelled _ _ (.moment m) => m.isoText
  | v => v.shown

/-- 'shown' writes integers of every length; a message is never made from more than this. -/
def shown? (v : Value) : Option String := if v.hasLongInteger then none else some v.shown

@[simp] theorem shown?_eq_none : shown? v = none ↔ v.hasLongInteger = true := by
  simp [shown?]

theorem shown?_of_short {v : Value} (short : v.hasLongInteger = false) :
    v.shown? = some v.shown := by
  simp [shown?, short]

@[simp] theorem hasLongInteger_text (s : String) : (Value.text s).hasLongInteger = false := rfl

end SchemaNaming.Value
