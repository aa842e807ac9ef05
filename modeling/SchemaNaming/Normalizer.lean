import SchemaNaming.Fault
import SchemaNaming.Identifier.Cleaning
import SchemaNaming.Identifier.Casing

/-!
Normalization of a raw name in two stages. Substitution deletes some characters, turns others into
the separator and cleans the rest; casing joins the segments, applies the final replacements and
puts the digit prefix before a name that would not begin with a letter.
-/

namespace SchemaNaming
open Text Identifier

structure Normalizer where
  slot : Slot
  /-- Texts that become the separator. -/
  separated : List String := []
  /-- Texts that are deleted. -/
  deleted : List String := []
  /-- Replacements after casing; what they replace is kept until then. -/
  finals : List (String × String) := []
  separator : String := "-"
  digitPrefix : String := "N"
  /-- The kind of a separator that is no text; nothing can be replaced by one. -/
  foreign : Option String := none
  deriving Inhabited

namespace Normalizer

def replaceEach (olds : List String) (new : String) (cs : List Char) : List Char :=
  olds.foldl (fun cs old => replace old.toList new.toList cs) cs

/-- Replacements one after the other, each on the result of those before it. -/
def replaceInTurn (pairs : List (String × String)) (cs : List Char) : List Char :=
  pairs.foldl (fun cs pair => replace pair.1.toList pair.2.toList cs) cs

def keep (n : Normalizer) : List (List Char) := n.finals.map (·.1.toList)

def substitute (n : Normalizer) (cs : List Char) : List Char :=
  clean n.separator.toList n.keep
    (replaceEach n.separated n.separator (replaceEach n.deleted "" cs))

/-- Both stages; the separator must not be empty. -/
def form (n : Normalizer) (cs : List Char) : List Char :=
  let lead := n.digitPrefix.toList
  leadWithLetter lead
    (replaceInTurn n.finals (camelCase n.separator.toList lead (n.substitute cs)))

/-- A name, or the reason why there is none. -/
def normalize (n : Normalizer) (raw : String) : Except Failure String :=
  match n.foreign with
  | some kind => .error (.of (.mishap (.notReplacement kind)))
  | none =>
    if n.separator.isEmpty then .error (.of .emptySeparator)
    else
      let cs := n.form raw.toList
      if cs.isEmpty then
        .error (.of (.naming (.slot n.slot) (.text raw) "normalizes to an empty identifier"))
      else .ok (String.ofList cs)

def forSlot (slot : Slot) (separator digitPrefix : String) : Normalizer :=
  match slot with
  | .enum => { slot, separator, digitPrefix, separated := [":", "_"], finals := [(".", "_")] }
  | .type => { slot, separator, digitPrefix, separated := ["_"] }
  | .property => { slot, separator, digitPrefix, separated := ["_", "."], deleted := ["@"] }

end Normalizer

end SchemaNaming
