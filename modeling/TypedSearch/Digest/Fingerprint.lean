import TypedSearch.Digest.Blake3
import TypedSearch.Json.Decode

/-!
Fingerprints (`Fingerprint`): the digest of a text, or of the compact text of a JSON value, with its
written forms (`to_hex`, `short`).
-/

namespace TypedSearch

structure Fingerprint where
  bytes : List UInt8
  deriving DecidableEq, Repr

namespace Fingerprint

def size : Nat := 32

def ofBytes (bytes : List UInt8) : Fingerprint := ⟨Blake3.digest bytes⟩

def ofText (text : String) : Fingerprint := ofBytes text.toUTF8.toList

/-- The fingerprint of a value, that of its compact text. -/
def ofJson (value : Json) : Fingerprint := ofText value.compact

def hex (print : Fingerprint) : String :=
  String.ofList (print.bytes.flatMap fun byte => Text.hex 2 byte.toNat)

/-- The first twelve digits. -/
def short (print : Fingerprint) : String := String.ofList (print.hex.toList.take 12)

def toJson (print : Fingerprint) : Json := .array (print.bytes.map fun byte => .ofInt byte.toNat)

/-- Reads the bytes one by one, as many as a fingerprint has. -/
def readBytes : (count : Nat) → List Json → Json.Decoded (List UInt8)
  | 0, _ => .ok []
  | count + 1, [] => .error (.invalidLength (size - count - 1) s!"an array of length {size}")
  | count + 1, item :: rest => do
    let byte ← item.toByte
    return byte :: (← readBytes count rest)

def ofJson? : Json → Json.Decoded Fingerprint
  | .array items => do
    let bytes ← readBytes size items
    if items.length ≤ size then return ⟨bytes⟩ else throw (Json.overlong items)
  | other => other.unexpected s!"an array of length {size}"

end Fingerprint

end TypedSearch
