import BundleLedger.Text.Quoted

/-!
# Character sets

A character set holds the characters whose numbers are below a limit. A text goes into it unless it has a
character beyond; the complaint names the first such character, or the places of several in a row.
-/

set_option autoImplicit false

namespace BundleLedger

/-- A character set, with the name that complaints give it. -/
structure Charset where
  name : String
  limit : Nat
deriving DecidableEq, Repr

namespace Charset

def ascii : Charset := ⟨"ascii", 128⟩

def latin : Charset := ⟨"latin-1", 256⟩

def holds (set : Charset) (c : Char) : Bool :=
  c.toNat < set.limit

/-- The characters that a complaint is about, where the first of them stands. -/
def misfits (c : Char) (start count : Nat) : String :=
  if count = 1 then
    "character \x27" ++ String.ofList (Text.numbered c) ++ "\x27 in position " ++ Text.natural start
  else
    "characters in position " ++ Text.natural start ++ "-" ++ Text.natural (start + count - 1)

/-- What is wrong with a text that does not go into the set. -/
def complaint? (set : Charset) (s : String) : Option String :=
  match s.toList.dropWhile set.holds with
  | [] => none
  | c :: rest =>
    let start := (s.toList.takeWhile set.holds).length
    let count := 1 + (rest.takeWhile fun c ↦ !set.holds c).length
    some (Text.quoted set.name ++ " codec can\x27t encode " ++
      misfits c start count ++ ": ordinal not in range(" ++ Text.natural set.limit ++ ")")

end Charset
end BundleLedger
