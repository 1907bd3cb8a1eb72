import TypedSearch.Json.Basic
import TypedSearch.Text.Position

/-!
Reading JSON text (`from_str`). The reader takes a list of characters apart; each step answers a value
and the characters that are left, or the fault found and where it was found. A key that occurs again
keeps its first place and takes the last value. Nesting is limited to a fixed depth.

What is assumed of the JSON library is that real numbers are rounded in steps, as it does where it is
not asked for exact ones, and the wording of its faults.
-/

namespace TypedSearch.Json

inductive Fault where
  | unfinishedList
  | unfinishedObject
  | unfinishedString
  | unfinishedValue
  | expectedColon
  | expectedListEnd
  | expectedObjectEnd
  | expectedWord
  | expectedValue
  | invalidEscape
  | invalidNumber
  | numberOutOfRange
  | controlCharacter
  | keyNotString
  | loneSurrogate
  | trailingComma
  | trailingCharacters
  | unfinishedEscape
  | tooDeep
  deriving DecidableEq, Repr

def Fault.message : Fault → String
  | unfinishedList => "EOF while parsing a list"
  | unfinishedObject => "EOF while parsing an object"
  | unfinishedString => "EOF while parsing a string"
  | unfinishedValue => "EOF while parsing a value"
  | expectedColon => "expected `:`"
  | expectedListEnd => "expected `,` or `]`"
  | expectedObjectEnd => "expected `,` or `\x7d`"
  | expectedWord => "expected ident"
  | expectedValue => "expected value"
  | invalidEscape => "invalid escape"
  | invalidNumber => "invalid number"
  | numberOutOfRange => "number out of range"
  | controlCharacter => "control character (\\u0000-\\u001F) found while parsing a string"
  | keyNotString => "key must be a string"
  | loneSurrogate => "lone leading surrogate in hex escape"
  | trailingComma => "trailing comma"
  | trailingCharacters => "trailing characters"
  | unfinishedEscape => "unexpected end of hex escape"
  | tooDeep => "recursion limit exceeded"

/-- A fault and its place: `extra` bytes into the characters that were left. -/
structure Failure where
  fault : Fault
  /-- The characters not yet taken when the fault was found. -/
  rest : List Char
  /-- How many bytes of them the fault includes, cut off at the end of the text. -/
  extra : Nat
  deriving Repr

/-- A fault after the characters taken so far. -/
def Fault.here {α : Type} (fault : Fault) (rest : List Char) : Except Failure α :=
  .error ⟨fault, rest, 0⟩

def Fault.ahead {α : Type} (fault : Fault) (rest : List Char) : Except Failure α :=
  .error ⟨fault, rest, 1⟩

def isBlank (c : Char) : Bool := c = ' ' || c = '\n' || c = '\t' || c = '\r'

/-- The text from its first character that is not blank. -/
def skipBlanks (text : List Char) : List Char := text.dropWhile isBlank

def depthLimit : Nat := 127

def hexValue? (c : Char) : Option Nat :=
  if '0' ≤ c ∧ c ≤ '9' then some (c.toNat - '0'.toNat)
  else if 'a' ≤ c ∧ c ≤ 'f' then some (c.toNat - 'a'.toNat + 10)
  else if 'A' ≤ c ∧ c ≤ 'F' then some (c.toNat - 'A'.toNat + 10)
  else none

def readHex (text : List Char) : Except Failure (Nat × List Char) :=
  if Text.byteCount (text.take 4) < 4 then
    .error ⟨.unfinishedString, text, 4⟩
  else
    match (text.take 4).mapM hexValue? with
    | some [a, b, c, d] => .ok (((a * 16 + b) * 16 + c) * 16 + d, text.drop 4)
    | _ => .error ⟨.invalidEscape, text, 4⟩

/-- The character of a `\u` escape; a leading surrogate needs its trailing one right after it. -/
def readUnicode (text : List Char) : Except Failure (Char × List Char) := do
  let (first, rest) ← readHex text
  if 0xDC00 ≤ first ∧ first ≤ 0xDFFF then
    Fault.here .loneSurrogate rest
  else if first < 0xD800 ∨ 0xDBFF < first then
    return (Char.ofNat first, rest)
  else
    match rest with
    | '\\' :: 'u' :: tail =>
      let (second, rest) ← readHex tail
      if second < 0xDC00 ∨ 0xDFFF < second then
        Fault.here .loneSurrogate rest
      else
        return (Char.ofNat ((first - 0xD800) * 1024 + (second - 0xDC00) + 0x10000), rest)
    | [] => Fault.here .unfinishedString rest
    | ['\\'] => Fault.here .unfinishedString []
    | '\\' :: tail => Fault.ahead .unfinishedEscape tail
    | _ => Fault.ahead .unfinishedEscape rest

/-- The character of an escape, after its backslash. -/
def readEscape : List Char → Except Failure (Char × List Char)
  | [] => Fault.here .unfinishedString []
  | '"' :: rest => .ok ('"', rest)
  | '\\' :: rest => .ok ('\\', rest)
  | '/' :: rest => .ok ('/', rest)
  | 'b' :: rest => .ok ('\x08', rest)
  | 'f' :: rest => .ok ('\x0c', rest)
  | 'n' :: rest => .ok ('\n', rest)
  | 'r' :: rest => .ok ('\r', rest)
  | 't' :: rest => .ok ('\t', rest)
  | 'u' :: rest => readUnicode rest
  | rest => Fault.ahead .invalidEscape rest

/-- A string after its opening quote, with the characters read so far in reverse. `fuel` is at least
the number of characters left. -/
def readString : (fuel : Nat) → List Char → List Char → Except Failure (String × List Char)
  | _, read, '"' :: rest => .ok (String.ofList read.reverse, rest)
  | _, _, [] => Fault.here .unfinishedString []
  | 0, _, rest => Fault.here .unfinishedString rest
  | fuel + 1, read, '\\' :: rest => do
    let (c, rest) ← readEscape rest
    readString fuel (c :: read) rest
  | fuel + 1, read, c :: rest =>
    if c.toNat < 32 then Fault.ahead .controlCharacter (c :: rest)
    else readString fuel (c :: read) rest

def takeDigits (text : List Char) : List Char × List Char := text.span Char.isDigit

def digitsValue (digits : List Char) : Nat :=
  digits.foldl (fun total c => total * 10 + (c.toNat - '0'.toNat)) 0

/-- Digits read onto a number as long as it stays below two to the sixty-fourth, and the digits that
are left. -/
def keepDigits (kept : Nat) : List Char → Nat × List Char
  | [] => (kept, [])
  | c :: rest =>
    let next := kept * 10 + digitsValue [c]
    if next < powerOfTwo 64 then keepDigits next rest else (kept, c :: rest)

/-- The leading digits of a decimal and the power of ten they are multiplied by. Whole digits beyond
64 bits count as powers of ten only, and decimals beyond them do not count. -/
def decimalParts (whole fraction : List Char) : Nat × Int :=
  let (leading, beyond) := keepDigits 0 whole
  let (kept, unread) := keepDigits leading fraction
  (kept, Int.subNatNat beyond.length (fraction.length - unread.length))

/-- The value of a decimal, or a fault if it is too large. The leading digits are rounded to a
binary64 number, which is then scaled by the power of ten. -/
def readReal (negative : Bool) (decimal : Nat × Int) (shift : Int) (rest : List Char) :
    Except Failure (Number × List Char) :=
  match (Binary64.ofRatio negative decimal.1 1).timesTen? (decimal.2 + shift) with
  | some value => .ok (.real value, rest)
  | none => Fault.here .numberOutOfRange rest

/-- The digits of an exponent as long as it stays below two to the thirty-first, and the digits from
the first one that makes it larger. -/
def keepExponent (kept : Nat) : List Char → Nat × List Char
  | [] => (kept, [])
  | c :: rest =>
    let next := kept * 10 + digitsValue [c]
    if next < powerOfTwo 31 then keepExponent next rest else (kept, c :: rest)

/-- An exponent after its `e`, for the decimal read before it. -/
def readExponent (negative : Bool) (decimal : Nat × Int) (text : List Char) :
    Except Failure (Number × List Char) :=
  let (down, afterSign) :=
    match text with
    | '+' :: rest => (false, rest)
    | '-' :: rest => (true, rest)
    | rest => (false, rest)
  match takeDigits afterSign with
  | ([], []) => Fault.here .unfinishedValue []
  | ([], rest) => Fault.ahead .invalidNumber rest
  | (power, rest) =>
    match keepExponent 0 power with
    | (shift, []) =>
      readReal negative decimal (if down then Int.negOfNat shift else (shift : Int)) rest
    | (_, _ :: unread) =>
      if decimal.1 = 0 ∨ down then .ok (.real (.zero negative), rest)
      else Fault.here .numberOutOfRange (unread ++ rest)

/-- The rest of a number after its whole digits. Without a point or an exponent it is an integer,
unless it is a negative zero or lies outside the 64-bit ranges. -/
def readFraction (negative : Bool) (whole : List Char) (text : List Char) :
    Except Failure (Number × List Char) :=
  match text with
  | '.' :: rest =>
    match takeDigits rest with
    | ([], []) => Fault.here .unfinishedValue []
    | ([], rest) => Fault.ahead .invalidNumber rest
    | (fraction, rest) =>
      let decimal := decimalParts whole fraction
      match rest with
      | 'e' :: tail | 'E' :: tail => readExponent negative decimal tail
      | _ => readReal negative decimal 0 rest
  | 'e' :: rest | 'E' :: rest => readExponent negative (decimalParts whole []) rest
  | rest =>
    let value := digitsValue whole
    if negative then
      if value = 0 ∨ powerOfTwo 63 < value then readReal true (decimalParts whole []) 0 rest
      else .ok (.integer (Int.negOfNat value), rest)
    else if powerOfTwo 64 ≤ value then readReal false (decimalParts whole []) 0 rest
    else .ok (.integer value, rest)

/-- A number after its sign. -/
def readNumber (negative : Bool) (text : List Char) : Except Failure (Number × List Char) :=
  match text with
  | [] => Fault.here .unfinishedValue []
  | '0' :: rest =>
    match rest with
    | c :: _ => if c.isDigit then Fault.ahead .invalidNumber rest else readFraction negative ['0'] rest
    | [] => readFraction negative ['0'] []
  | rest =>
    match takeDigits rest with
    | ([], rest) => Fault.ahead .invalidNumber rest
    | (whole, rest) => readFraction negative whole rest

def readWord : (word text : List Char) → Except Failure (List Char)
  | [], rest => .ok rest
  | _ :: _, [] => Fault.here .unfinishedValue []
  | letter :: word, c :: rest =>
    if c = letter then readWord word rest else Fault.ahead .expectedWord (c :: rest)

mutual

/-- A value. `depth` is how deep arrays and objects may still nest, and `fuel` is at least twice the
number of characters left, since no character costs more than two steps. -/
def readValue (depth : Nat) : (fuel : Nat) → List Char → Except Failure (Json × List Char)
  | 0, text => Fault.here .unfinishedValue text
  | fuel + 1, text =>
    match skipBlanks text with
    | [] => Fault.here .unfinishedValue []
    | 'n' :: rest => do return (.null, ← readWord "ull".toList rest)
    | 't' :: rest => do return (.bool true, ← readWord "rue".toList rest)
    | 'f' :: rest => do return (.bool false, ← readWord "alse".toList rest)
    | '"' :: rest => do
      let (text, rest) ← readString fuel [] rest
      return (.string text, rest)
    | '-' :: rest => do
      let (value, rest) ← readNumber true rest
      return (.number value, rest)
    | '[' :: rest =>
      match depth with
      | 0 => Fault.ahead .tooDeep ('[' :: rest)
      | depth + 1 =>
        match skipBlanks rest with
        | [] => Fault.here .unfinishedList []
        | ']' :: rest => .ok (.array [], rest)
        | rest => do
          let (items, rest) ← readItems depth fuel rest
          return (.array items, rest)
    | '\x7b' :: rest =>
      match depth with
      | 0 => Fault.ahead .tooDeep ('\x7b' :: rest)
      | depth + 1 =>
        match skipBlanks rest with
        | [] => Fault.here .unfinishedObject []
        | '\x7d' :: rest => .ok (.object [], rest)
        | rest => do
          let (entries, rest) ← readEntries depth fuel [] rest
          return (.object entries, rest)
    | c :: rest =>
      if c.isDigit then do
        let (value, rest) ← readNumber false (c :: rest)
        return (.number value, rest)
      else Fault.ahead .expectedValue (c :: rest)
termination_by structural x => x

/-- The items of an array that has at least one more, up to and with its closing bracket. -/
def readItems (depth : Nat) : (fuel : Nat) → List Char → Except Failure (List Json × List Char)
  | 0, text => Fault.here .unfinishedList text
  | fuel + 1, text => do
    let (item, rest) ← readValue depth fuel text
    match skipBlanks rest with
    | [] => Fault.here .unfinishedList []
    | ']' :: rest => return ([item], rest)
    | ',' :: rest =>
      match skipBlanks rest with
      | [] => Fault.here .unfinishedValue []
      | ']' :: rest => Fault.ahead .trailingComma (']' :: rest)
      | rest =>
        let (items, rest) ← readItems depth fuel rest
        return (item :: items, rest)
    | rest => Fault.ahead .expectedListEnd rest
termination_by structural x => x

/-- The entries of an object that has at least one more, up to and with its closing brace, added to
those read before. -/
def readEntries (depth : Nat) :
    (fuel : Nat) → Entries → List Char → Except Failure (Entries × List Char)
  | 0, _, text => Fault.here .unfinishedObject text
  | fuel + 1, entries, '"' :: text => do
    let (key, rest) ← readString fuel [] text
    match skipBlanks rest with
    | [] => Fault.here .unfinishedObject []
    | ':' :: rest =>
      let (value, rest) ← readValue depth fuel rest
      let entries := entries.insert key value
      match skipBlanks rest with
      | [] => Fault.here .unfinishedObject []
      | '\x7d' :: rest => return (entries, rest)
      | ',' :: rest =>
        match skipBlanks rest with
        | [] => Fault.here .unfinishedValue []
        | '\x7d' :: rest => Fault.ahead .trailingComma ('\x7d' :: rest)
        | rest => readEntries depth fuel entries rest
      | rest => Fault.ahead .expectedObjectEnd rest
    | rest => Fault.ahead .expectedColon rest
  | _, _, text => Fault.ahead .keyNotString text
termination_by structural x => x

end

/-- The one value of a text, with nothing but blanks around it. -/
def readDocument (text : List Char) : Except Failure Json := do
  let (value, rest) ← readValue depthLimit (2 * text.length + 2) text
  match skipBlanks rest with
  | [] => return value
  | rest => Fault.ahead .trailingCharacters rest

/-- The wording of a failure in a text, with its line and column. -/
def Failure.message (failure : Failure) (text : List Char) : String :=
  let total := Text.byteCount text
  let offset := min total (total - Text.byteCount failure.rest + failure.extra)
  let place := Text.positionAt offset text
  s!"{failure.fault.message} at line {place.line} column {place.column}"

/-- The value that a text denotes, or the wording of what is wrong with it. -/
def parse (text : String) : Except String Json :=
  match readDocument text.toList with
  | .ok value => .ok value
  | .error failure => .error (failure.message text.toList)

end TypedSearch.Json
