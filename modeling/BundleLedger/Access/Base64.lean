import BundleLedger.Access.Digest
import BundleLedger.Text.Numeral

/-!
# Bytes from text in base 64

Four characters of six bits each make three bytes. Both alphabets are read, the one with `+` and `/` and
the one with `-` and `_`; any other character is passed over. Text is first filled with equals signs to a
multiple of four characters. What follows the equals signs of a finished group is not read, and a text that
ends inside a group is refused.
-/

set_option autoImplicit false

namespace BundleLedger.Base64

/-- The six bits of a character of either alphabet. -/
def sixBits? (c : Char) : Option Nat :=
  let n := c.toNat
  if 65 ≤ n && n ≤ 90 then some (n - 65)
  else if 97 ≤ n && n ≤ 122 then some (n - 71)
  else if 48 ≤ n && n ≤ 57 then some (n + 4)
  else if c = '+' || c = '-' then some 62
  else if c = '/' || c = '_' then some 63
  else none

/-- A group in the course of reading: how many of its characters have been read, the bits of the last of
them that no byte has taken yet, and the equals signs since then. -/
structure Group where
  read : Nat
  left : Nat
  marks : Nat

namespace Group

def start : Group := ⟨0, 0, 0⟩

/-- The group after the six bits of one more character, and the byte that they complete. -/
def take (g : Group) (bits : Nat) : Group × Option UInt8 :=
  match g.read with
  | 0 => (⟨1, bits, 0⟩, none)
  | 1 => (⟨2, bits % 16, 0⟩, some (UInt8.ofNat (g.left * 4 + bits / 16)))
  | 2 => (⟨3, bits % 4, 0⟩, some (UInt8.ofNat (g.left * 16 + bits / 4)))
  | _ => (⟨0, 0, 0⟩, some (UInt8.ofNat (g.left * 64 + bits)))

/-- Whether one more equals sign finishes the group. -/
def isFinishedByMark (g : Group) : Bool :=
  2 ≤ g.read && 3 ≤ g.read + g.marks

end Group

/-- Why a text stands for no bytes. -/
inductive Fault where
  /-- A group of two or three characters is not filled up. -/
  | unfilled
  /-- The last of this many characters is alone in its group. -/
  | alone (characters : Nat)
deriving DecidableEq, Repr

def Fault.text : Fault → String
  | .unfilled => "Incorrect padding"
  | .alone characters => "Invalid base64-encoded string: number of data characters (" ++
      Text.natural characters ++ ") cannot be 1 more than a multiple of 4"

/-- The bytes of characters that follow a group in the course of reading and `count` bytes. -/
def readFrom (g : Group) (count : Nat) : List Char → Except Fault Bytes
  | [] =>
    match g.read with
    | 0 => .ok []
    | 1 => .error (.alone (count / 3 * 4 + 1))
    | _ => .error .unfilled
  | c :: rest =>
    if c = '=' then
      if g.isFinishedByMark then .ok []
      else readFrom (if 2 ≤ g.read then { g with marks := g.marks + 1 } else g) count rest
    else
      match sixBits? c with
      | none => readFrom g count rest
      | some bits =>
        match g.take bits with
        | (next, none) => readFrom next count rest
        | (next, some byte) => (readFrom next (count + 1) rest).map (byte :: ·)

/-- Text filled with equals signs to a multiple of four bytes. -/
def filled (s : String) : List Char :=
  s.toList ++ List.replicate ((4 - s.utf8ByteSize % 4) % 4) '='

/-- The bytes that a text stands for. -/
def decode (s : String) : Except Fault Bytes :=
  readFrom .start 0 (filled s)

/-- The bytes that a text stands for, if there are any. -/
def bytes? (s : String) : Option Bytes :=
  (decode s).toOption

end BundleLedger.Base64
