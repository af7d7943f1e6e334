/-!
# Bytes as text

Reads bytes as UTF-8. A byte sequence that is no character is reported as one gap: as many bytes
as could still have begun a character, and at least one.
-/

namespace GoldenCapture.Utf8

/-- How a byte starts a character: the number of bytes that must follow, the bits it brings, and
the range that the next byte must fall in. -/
def leadByte (b : Nat) : Option (Nat × Nat × Nat × Nat) :=
  if b < 0x80 then some (0, b, 0x80, 0xBF)
  else if 0xC2 ≤ b ∧ b ≤ 0xDF then some (1, b - 0xC0, 0x80, 0xBF)
  else if b = 0xE0 then some (2, 0, 0xA0, 0xBF)
  else if b = 0xED then some (2, 0xD, 0x80, 0x9F)
  else if 0xE1 ≤ b ∧ b ≤ 0xEF then some (2, b - 0xE0, 0x80, 0xBF)
  else if b = 0xF0 then some (3, 0, 0x90, 0xBF)
  else if 0xF1 ≤ b ∧ b ≤ 0xF3 then some (3, b - 0xF0, 0x80, 0xBF)
  else if b = 0xF4 then some (3, 4, 0x80, 0x8F)
  else none

/-- A character that has begun: bytes still to come, its bits so far, the range of the next. -/
structure Pending where
  missing : Nat
  bits : Nat
  low : Nat
  high : Nat

/-- Reads one byte where a character may begin. -/
def start (b : Nat) : List (Option Char) × Option Pending :=
  match leadByte b with
  | none => ([none], none)
  | some (0, bits, _, _) => ([some (Char.ofNat bits)], none)
  | some (n + 1, bits, low, high) => ([], some ⟨n + 1, bits, low, high⟩)

/-- Reads one byte. -/
def step (pending : Option Pending) (b : Nat) : List (Option Char) × Option Pending :=
  match pending with
  | none => start b
  | some p =>
    if p.low ≤ b ∧ b ≤ p.high then
      let bits := p.bits * 64 + b % 64
      if p.missing ≤ 1 then ([some (Char.ofNat bits)], none)
      else ([], some ⟨p.missing - 1, bits, 0x80, 0xBF⟩)
    else
      let (out, next) := start b
      (none :: out, next)

/-- Reads the bytes after a character that may have begun. -/
def decodeFrom (pending : Option Pending) : List UInt8 → List (Option Char)
  | [] => if pending.isSome then [none] else []
  | b :: rest =>
    let (out, next) := step pending b.toNat
    out ++ decodeFrom next rest

/-- The characters of a byte sequence, with `none` for each gap. -/
def decode (bytes : List UInt8) : List (Option Char) := decodeFrom none bytes

/-- The text with a replacement character for each gap. -/
def lossy (bytes : List UInt8) : String :=
  String.ofList ((decode bytes).map fun c => c.getD (Char.ofNat 0xFFFD))

/-- The text of a byte sequence without gaps. -/
def text? (bytes : List UInt8) : Option String :=
  ((decode bytes).mapM id).map String.ofList

end GoldenCapture.Utf8
