import BundleLedger.Access.Digest

/-!
# Message authentication codes

The code of a message under a key: two nested digests, each over a block of the key combined with a
constant byte.
-/

set_option autoImplicit false

namespace BundleLedger

/-- The algorithms that tokens are signed with. -/
inductive Algorithm where
  | hs256 | hs384 | hs512
deriving DecidableEq, Repr

namespace Algorithm

def name : Algorithm → String
  | .hs256 => "HS256"
  | .hs384 => "HS384"
  | .hs512 => "HS512"

def ofName? (name : String) : Option Algorithm :=
  [Algorithm.hs256, .hs384, .hs512].find? fun algorithm ↦ algorithm.name = name

/-- The digest that an algorithm is built on. -/
def digest : Algorithm → Bytes → Bytes
  | .hs256 => Digest.sha256.digest
  | .hs384 => Digest.sha384.digest
  | .hs512 => Digest.sha512.digest

/-- The number of bytes of a block of the digest. -/
def blockSize : Algorithm → Nat
  | .hs256 => Digest.sha256.blockSize
  | .hs384 => Digest.sha384.blockSize
  | .hs512 => Digest.sha512.blockSize

/-- A key brought to one block: a longer one is replaced by its digest, and zeros fill it up. -/
def keyBlock (algorithm : Algorithm) (key : Bytes) : Bytes :=
  let key := if algorithm.blockSize < key.length then algorithm.digest key else key
  key ++ List.replicate (algorithm.blockSize - key.length) 0

/-- The code of a message under a key. -/
def code (algorithm : Algorithm) (key message : Bytes) : Bytes :=
  let block := algorithm.keyBlock key
  let masked (mask : UInt8) := block.map fun byte ↦ byte ^^^ mask
  algorithm.digest (masked 0x5c ++ algorithm.digest (masked 0x36 ++ message))

theorem ofName?_name (algorithm : Algorithm) : ofName? algorithm.name = some algorithm := by
  cases algorithm <;> decide +kernel

end Algorithm
end BundleLedger
