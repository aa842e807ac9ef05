import SchemaNaming.Text.Decomposition

/-!
The normal form of names. Names that stand for the same characters have one normal form: every
character is taken apart, the marks behind a base are put in order, and what can be put together
again is put together.
-/

namespace SchemaNaming.Text

def markClass (c : Char) : Nat := ((markClasses.find? (·.2.holds c)).map (·.1)).getD 0

/-- Puts a character before those with which a text ends, given in reverse: a mark goes past marks
of higher classes. -/
def placeMark (c : Char) : List Char → List Char
  | [] => [c]
  | d :: before =>
    if markClass c != 0 && markClass c < markClass d then d :: placeMark c before
    else c :: d :: before

def orderMarks (cs : List Char) : List Char :=
  (cs.foldl (fun before c => placeMark c before) []).reverse

def syllable? (first second : Char) : Option Char :=
  let lead := first.toNat - leadStart
  let vowel := second.toNat - vowelStart
  let tail := second.toNat - tailStart
  let n := first.toNat - syllableStart
  if leadStart ≤ first.toNat && lead < leadCount && vowelStart ≤ second.toNat &&
      vowel < vowelCount then
    some (Char.ofNat (syllableStart + (lead * vowelCount + vowel) * tailCount))
  else if syllableStart ≤ first.toNat && n < leadCount * vowelCount * tailCount &&
      n % tailCount == 0 && tailStart < second.toNat && tail < tailCount then
    some (Char.ofNat (first.toNat + tail))
  else none

/-- What a base becomes with a mark. -/
def compose? (base mark : Char) : Option Char :=
  (composites.findSome? (fun (m, bases, wholes) =>
    if m == mark then across base bases.toList wholes.toList else none)).or (syllable? base mark)

/-- Puts marks to the base they follow. Marks that stay between, given in reverse, keep out the ones
behind them that are not of a higher class. -/
def composeFrom (base : Char) (between : List Char) : List Char → List Char
  | [] => base :: between.reverse
  | c :: rest =>
    let isNear := between.head?.all (fun d => markClass d < markClass c)
    match if isNear then compose? base c else none with
    | some whole => composeFrom whole between rest
    | none =>
      if markClass c == 0 then base :: between.reverse ++ composeFrom c [] rest
      else composeFrom base (c :: between) rest

def composeMarks : List Char → List Char
  | [] => []
  | c :: rest => if markClass c == 0 then composeFrom c [] rest else c :: composeMarks rest

def normalForm (name : String) : String :=
  if name.toList.all (·.toNat < 0x80) then name
  else String.ofList (composeMarks (orderMarks (name.toList.flatMap decompose)))

end SchemaNaming.Text
