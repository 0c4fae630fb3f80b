/-!
# Bytes as text

`encode` writes characters as UTF-8 and `scan` reads bytes back, one byte at a time. Between bytes
it remembers at most one begun character (`Pending`). A byte that cannot continue it ends an
ill-formed part and is looked at again as a first byte, so an ill-formed part is as long as it can
be while it still begins a character; `decodeLossy` puts one replacement character for each.
-/

namespace SqlDialect.Text.Utf8

def encode (s : List Char) : List UInt8 := s.flatMap String.utf8EncodeChar

/-- A begun character. -/
structure Pending where
  /-- How many bytes are missing, at least one. -/
  left : Nat
  /-- Least value of the next byte. -/
  low : UInt8
  /-- Greatest value of the next byte. -/
  high : UInt8
  /-- The payload bits read so far. -/
  value : Nat

/-- What a first byte yields: a character, an ill-formed part, or a begun character. -/
def first (b : UInt8) : List (Option Char) × Option Pending :=
  if b < 0x80 then ([some (Char.ofNat b.toNat)], none)
  else if 0xC2 ≤ b && b ≤ 0xDF then ([], some ⟨1, 0x80, 0xBF, b.toNat % 32⟩)
  else if b == 0xE0 then ([], some ⟨2, 0xA0, 0xBF, 0⟩)
  else if b == 0xED then ([], some ⟨2, 0x80, 0x9F, 13⟩)
  else if 0xE1 ≤ b && b ≤ 0xEF then ([], some ⟨2, 0x80, 0xBF, b.toNat % 16⟩)
  else if b == 0xF0 then ([], some ⟨3, 0x90, 0xBF, 0⟩)
  else if 0xF1 ≤ b && b ≤ 0xF3 then ([], some ⟨3, 0x80, 0xBF, b.toNat % 8⟩)
  else if b == 0xF4 then ([], some ⟨3, 0x80, 0x8F, 4⟩)
  else ([none], none)

/-- What a byte yields after a begun character. -/
def Pending.next (p : Pending) (b : UInt8) : List (Option Char) × Option Pending :=
  if p.low ≤ b && b ≤ p.high then
    let value := p.value * 64 + b.toNat % 64
    if p.left = 1 then ([some (Char.ofNat value)], none)
    else ([], some ⟨p.left - 1, 0x80, 0xBF, value⟩)
  else
    let (out, pending) := first b
    (none :: out, pending)

/-- The characters from a state on; `none` stands for an ill-formed part. -/
def scanFrom : Option Pending → List UInt8 → List (Option Char)
  | none, [] => []
  | some _, [] => [none]
  | none, b :: r => (first b).1 ++ scanFrom (first b).2 r
  | some p, b :: r => (p.next b).1 ++ scanFrom (p.next b).2 r

/-- The characters of a byte sequence; `none` stands for an ill-formed part. -/
def scan (bytes : List UInt8) : List (Option Char) := scanFrom none bytes

/-- The text of a well-formed byte sequence. -/
def decode? (bytes : List UInt8) : Option (List Char) := (scan bytes).mapM id

/-- The text of any byte sequence, with U+FFFD for each ill-formed part. -/
def decodeLossy (bytes : List UInt8) : List Char :=
  (scan bytes).map fun c => c.getD (Char.ofNat 0xFFFD)

end SqlDialect.Text.Utf8
