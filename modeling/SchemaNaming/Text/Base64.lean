/-!
Bytes as text in sixty-four characters, six bits each. Written text has lines of at most
seventy-six characters and is padded to whole groups of four; characters outside the alphabet count
for nothing when it is read.
-/

namespace SchemaNaming.Text

def base64Alphabet : List Char :=
  "ABCDEFGHIJKLMNOPQRSTUVWXYZabcdefghijklmnopqrstuvwxyz0123456789+/".toList

def base64Char (n : Nat) : Char := base64Alphabet.getD n '='

def base64Group : List UInt8 → List Char
  | [a, b, c] =>
    let n := (a.toNat * 256 + b.toNat) * 256 + c.toNat
    [base64Char (n / 262144), base64Char (n / 4096 % 64), base64Char (n / 64 % 64),
     base64Char (n % 64)]
  | [a, b] =>
    let n := (a.toNat * 256 + b.toNat) * 4
    [base64Char (n / 4096), base64Char (n / 64 % 64), base64Char (n % 64), '=']
  | [a] =>
    let n := a.toNat * 16
    [base64Char (n / 64), base64Char (n % 64), '=', '=']
  | _ => []

def base64Groups : List UInt8 → List Char
  | a :: b :: c :: rest => base64Group [a, b, c] ++ base64Groups rest
  | rest => base64Group rest

def base64Width : Nat := 57

/-- The lines of written text; the first argument bounds their number. -/
def base64Lines : Nat → List UInt8 → List (List Char)
  | 0, _ => []
  | _, [] => []
  | fuel + 1, bytes =>
    base64Groups (bytes.take base64Width) :: base64Lines fuel (bytes.drop base64Width)

def base64Encode (bytes : List UInt8) : List (List Char) := base64Lines bytes.length bytes

/-- Reading in a group: how many characters of it have been read, the bits left over from the last
one, and the marks of padding since. -/
structure Base64State where
  position : Nat := 0
  left : Nat := 0
  pads : Nat := 0

def base64From (s : Base64State) : List Char → Option (List UInt8)
  | [] => if s.position == 0 then some [] else none
  | c :: rest =>
    if c == '=' then
      if 2 ≤ s.position then
        if 4 ≤ s.position + s.pads + 1 then some []
        else base64From { s with pads := s.pads + 1 } rest
      else base64From s rest
    else
      match base64Alphabet.idxOf? c with
      | none => base64From s rest
      | some n =>
        match s.position with
        | 0 => base64From ⟨1, n, 0⟩ rest
        | 1 => (base64From ⟨2, n % 16, 0⟩ rest).map ((s.left * 4 + n / 16).toUInt8 :: ·)
        | 2 => (base64From ⟨3, n % 4, 0⟩ rest).map ((s.left * 16 + n / 4).toUInt8 :: ·)
        | _ => (base64From ⟨0, 0, 0⟩ rest).map ((s.left * 64 + n).toUInt8 :: ·)

/-- The bytes of a text whose last group is complete or padded; padding ends the text. -/
def base64Decode? (cs : List Char) : Option (List UInt8) := base64From {} cs

end SchemaNaming.Text
