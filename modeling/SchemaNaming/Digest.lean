/-!
The SHA-1 digest of a byte sequence, by blocks of sixteen words of 32 bits.
-/

namespace SchemaNaming.Digest

structure State where
  a : UInt32
  b : UInt32
  c : UInt32
  d : UInt32
  e : UInt32

def start : State := ⟨0x67452301, 0xefcdab89, 0x98badcfe, 0x10325476, 0xc3d2e1f0⟩

def rotate (w : UInt32) (n : UInt32) : UInt32 := (w <<< n) ||| (w >>> (32 - n))

/-- The big endian bytes of a number, 'width' of them. -/
def bigEndian : Nat → Nat → List UInt8
  | 0, _ => []
  | width + 1, n => bigEndian width (n / 256) ++ [UInt8.ofNat n]

/-- A one bit, zeros up to 56 bytes in the last block, and the length in bits. -/
def padded (bytes : List UInt8) : List UInt8 :=
  let n := bytes.length
  let zeros := (119 - n % 64) % 64
  bytes ++ 0x80 :: List.replicate zeros 0 ++ bigEndian 8 (8 * n)

def words : List UInt8 → List UInt32
  | a :: b :: c :: d :: rest =>
    ((a.toUInt32 <<< 24) ||| (b.toUInt32 <<< 16) ||| (c.toUInt32 <<< 8) ||| d.toUInt32) :: words rest
  | _ => []

/-- Extends the latest sixteen words, newest first, by further ones. -/
def schedule : Nat → List UInt32 → List UInt32
  | 0, latest => latest
  | n + 1, latest =>
    let at' (i : Nat) : UInt32 := latest.getD i 0
    schedule n (rotate (at' 2 ^^^ at' 7 ^^^ at' 13 ^^^ at' 15) 1 :: latest)

def mix (round : Nat) (s : State) : UInt32 × UInt32 :=
  if round < 20 then ((s.b &&& s.c) ||| ((~~~s.b) &&& s.d), 0x5a827999)
  else if round < 40 then (s.b ^^^ s.c ^^^ s.d, 0x6ed9eba1)
  else if round < 60 then ((s.b &&& s.c) ||| (s.b &&& s.d) ||| (s.c &&& s.d), 0x8f1bbcdc)
  else (s.b ^^^ s.c ^^^ s.d, 0xca62c1d6)

def step (s : State) (entry : UInt32 × Nat) : State :=
  let (word, round) := entry
  let (f, k) := mix round s
  ⟨rotate s.a 5 + f + s.e + k + word, s.a, rotate s.b 30, s.c, s.d⟩

def block (s : State) (ws : List UInt32) : State :=
  let t := ((schedule 64 ws.reverse).reverse.zipIdx).foldl step s
  ⟨s.a + t.a, s.b + t.b, s.c + t.c, s.d + t.d, s.e + t.e⟩

/-- The first argument bounds the number of blocks. -/
def blocks : Nat → State → List UInt32 → State
  | 0, s, _ => s
  | n + 1, s, ws => if ws.isEmpty then s else blocks n (block s (ws.take 16)) (ws.drop 16)

def sha1 (bytes : List UInt8) : List UInt8 :=
  let ws := words (padded bytes)
  let s := blocks ws.length start ws
  [s.a, s.b, s.c, s.d, s.e].flatMap (fun w => bigEndian 4 w.toNat)

end SchemaNaming.Digest
