import BundleLedger.Text.Numeral

/-!
# Text from bytes

Bytes read as text in which a character takes one to four bytes. What is no character becomes the
replacement character: one for a lone byte, and one for the longest start of a character that is not
finished. Percent signs with two hexadecimal digits stand for bytes.
-/

set_option autoImplicit false

namespace BundleLedger.Text

/-- The character that stands for what cannot be read. -/
def replacement : Char := '\ufffd'

/-- A character in the course of reading: the bits so far, how many bytes are missing, and the range in
which the next byte must lie. -/
structure Pending where
  bits : Nat
  missing : Nat
  low : Nat
  high : Nat
deriving DecidableEq, Repr

/-- What the first byte of a longer character says; none for a byte that starts no such character. The
range of the second byte keeps out forms that are too long, surrogates and numbers that are too large. -/
def Pending.ofLead? (b : Nat) : Option Pending :=
  if 0xc2 ≤ b ∧ b ≤ 0xdf then some ⟨b - 0xc0, 1, 0x80, 0xbf⟩
  else if b = 0xe0 then some ⟨0, 2, 0xa0, 0xbf⟩
  else if b = 0xed then some ⟨13, 2, 0x80, 0x9f⟩
  else if 0xe1 ≤ b ∧ b ≤ 0xef then some ⟨b - 0xe0, 2, 0x80, 0xbf⟩
  else if b = 0xf0 then some ⟨0, 3, 0x90, 0xbf⟩
  else if b = 0xf4 then some ⟨4, 3, 0x80, 0x8f⟩
  else if 0xf1 ≤ b ∧ b ≤ 0xf3 then some ⟨b - 0xf0, 3, 0x80, 0xbf⟩
  else none

/-- A byte that does not go on with a character: a character of its own, the start of a longer one, or
none. -/
def startByte (b : Nat) : List Char × Option Pending :=
  if b < 0x80 then ([Char.ofNat b], none)
  else
    match Pending.ofLead? b with
    | some p => ([], some p)
    | none => ([replacement], none)

/-- One more byte after a character in the course of reading. -/
def nextByte (pending : Option Pending) (b : Nat) : List Char × Option Pending :=
  match pending with
  | none => startByte b
  | some p =>
    if p.low ≤ b ∧ b ≤ p.high then
      let bits := p.bits * 64 + (b - 0x80)
      if p.missing ≤ 1 then ([Char.ofNat bits], none)
      else ([], some ⟨bits, p.missing - 1, 0x80, 0xbf⟩)
    else
      let (characters, p) := startByte b
      (replacement :: characters, p)

/-- The characters of bytes that follow a character in the course of reading. -/
def readOctets (pending : Option Pending) : List UInt8 → List Char
  | [] => if pending.isSome then [replacement] else []
  | b :: rest =>
    let (characters, pending) := nextByte pending b.toNat
    characters ++ readOctets pending rest

/-! ### Percent signs -/

/-- The bytes that a text stands for, percent signs with two digits read. -/
def percentBytes : List Char → List UInt8
  | [] => []
  | '%' :: a :: b :: rest =>
    match hex? [a, b] with
    | some n => UInt8.ofNat n :: percentBytes rest
    | none => "%".toUTF8.toList ++ percentBytes (a :: b :: rest)
  | c :: rest => (String.ofList [c]).toUTF8.toList ++ percentBytes rest

/-- A text with percent signs read. -/
def percentDecoded (s : List Char) : List Char :=
  readOctets none (percentBytes s)

end BundleLedger.Text
