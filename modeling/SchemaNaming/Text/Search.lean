/-!
Search in texts: replacement, division at a separator, words and trimming. Occurrences are taken
from left to right and do not overlap.
-/

namespace SchemaNaming.Text

/-- Skips the first 'skip' characters, which belong to an occurrence already replaced. -/
def replaceFrom (old new : List Char) : Nat → List Char → List Char
  | _, [] => []
  | skip + 1, _ :: rest => replaceFrom old new skip rest
  | 0, c :: rest =>
    if old.isPrefixOf (c :: rest) then new ++ replaceFrom old new (old.length - 1) rest
    else c :: replaceFrom old new 0 rest

/-- An empty text occurs before each character and at the end. -/
def replace (old new : List Char) (cs : List Char) : List Char :=
  if old.isEmpty then new ++ cs.flatMap (fun c => c :: new)
  else replaceFrom old new 0 cs

def consHead (c : Char) : List (List Char) → List (List Char)
  | [] => [[c]]
  | segment :: rest => (c :: segment) :: rest

def divideFrom (separator : List Char) : Nat → List Char → List (List Char)
  | _, [] => [[]]
  | skip + 1, _ :: rest => divideFrom separator skip rest
  | 0, c :: rest =>
    if separator.isPrefixOf (c :: rest) then
      [] :: divideFrom separator (separator.length - 1) rest
    else consHead c (divideFrom separator 0 rest)

/-- The segments between occurrences of a nonempty separator; one more than there are occurrences. -/
def divide (separator : List Char) (cs : List Char) : List (List Char) :=
  divideFrom separator 0 cs

def divideAt (cut : Char → Bool) : List Char → List (List Char)
  | [] => [[]]
  | c :: rest => if cut c then [] :: divideAt cut rest else consHead c (divideAt cut rest)

/-- Line ends of every kind as one. -/
def withPlainLines : List Char → List Char
  | [] => []
  | '\r' :: rest =>
    match rest with
    | '\n' :: tail => '\n' :: withPlainLines tail
    | rest => '\n' :: withPlainLines rest
  | c :: rest => c :: withPlainLines rest

def trimLeft (cut : Char → Bool) (cs : List Char) : List Char := cs.dropWhile cut

def trimRight (cut : Char → Bool) (cs : List Char) : List Char :=
  (cs.reverse.dropWhile cut).reverse

def trim (cut : Char → Bool) (cs : List Char) : List Char := trimRight cut (trimLeft cut cs)

def divideLast? (mark : Char) : List Char → Option (List Char × List Char)
  | [] => none
  | c :: rest =>
    match divideLast? mark rest with
    | some (before, after) => some (c :: before, after)
    | none => if c == mark then some ([], rest) else none

def afterLast (mark : Char) (cs : List Char) : List Char :=
  ((divideLast? mark cs).map (·.2)).getD cs

theorem divideFrom_ne_nil (separator : List Char) (skip : Nat) (cs : List Char) :
    divideFrom separator skip cs ≠ [] := by
  induction cs generalizing skip with
  | nil => cases skip <;> simp [divideFrom]
  | cons c rest ih =>
    cases skip with
    | succ skip => exact ih skip
    | zero =>
      rw [divideFrom]
      split
      · simp
      · cases h : divideFrom separator 0 rest <;> simp [consHead]

theorem divideAt_ne_nil (cut : Char → Bool) (cs : List Char) : divideAt cut cs ≠ [] := by
  cases cs with
  | nil => simp [divideAt]
  | cons c rest =>
    rw [divideAt]
    split
    · simp
    · cases h : divideAt cut rest <;> simp [consHead]

/-- Division at a single character is division at the characters equal to it. -/
theorem divide_singleton (mark : Char) (cs : List Char) :
    divide [mark] cs = divideAt (· == mark) cs := by
  unfold divide
  induction cs with
  | nil => rfl
  | cons c rest ih =>
    have same : [mark].isPrefixOf (c :: rest) = (c == mark) := by
      simp [List.isPrefixOf, Bool.beq_comm]
    rw [divideFrom, divideAt, same]
    simp only [List.length_singleton, Nat.sub_self, ih]

/-- Replacement of a single character goes character by character. -/
theorem replace_singleton (old : Char) (new cs : List Char) :
    replace [old] new cs = cs.flatMap (fun c => if c == old then new else [c]) := by
  rw [replace, if_neg (by simp)]
  induction cs with
  | nil => rfl
  | cons c rest ih =>
    have same : [old].isPrefixOf (c :: rest) = (c == old) := by
      simp [List.isPrefixOf, Bool.beq_comm]
    rw [replaceFrom, same, List.flatMap_cons]
    simp only [List.length_singleton, Nat.sub_self, ih]
    split <;> simp

end SchemaNaming.Text
