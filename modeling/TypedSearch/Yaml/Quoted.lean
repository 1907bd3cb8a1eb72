import TypedSearch.Yaml.Plain

/-!
Quoted scalars (`yaml_parser_scan_flow_scalar`). Between single quotes a quote is written twice;
between double quotes a backslash starts an escape, and one at the end of a line joins it to the next
line.
-/

namespace TypedSearch.Yaml

/-- The character that an escape of one letter stands for. -/
def shortEscape? : Char → Option Char
  | '0' => some '\x00'
  | 'a' => some '\x07'
  | 'b' => some '\x08'
  | 't' | '\t' => some '\t'
  | 'n' => some '\n'
  | 'v' => some '\x0b'
  | 'f' => some '\x0c'
  | 'r' => some '\r'
  | 'e' => some '\x1b'
  | ' ' => some ' '
  | '"' => some '"'
  | '/' => some '/'
  | '\\' => some '\\'
  | 'N' => some (Char.ofNat 0x85)
  | '_' => some (Char.ofNat 0xA0)
  | 'L' => some (Char.ofNat 0x2028)
  | 'P' => some (Char.ofNat 0x2029)
  | _ => none

def escapeWidth? : Char → Option Nat
  | 'x' => some 2
  | 'u' => some 4
  | 'U' => some 8
  | _ => none

def hexDigit? (c : Char) : Option Nat :=
  if c.isDigit then some (c.toNat - '0'.toNat)
  else if 'a' ≤ c ∧ c ≤ 'f' then some (c.toNat - 'a'.toNat + 10)
  else if 'A' ≤ c ∧ c ≤ 'F' then some (c.toNat - 'A'.toNat + 10)
  else none

def hexNumber? (digits : List Char) : Option Nat := do
  return (← digits.mapM hexDigit?).foldl (fun total digit => total * 16 + digit) 0

/-- The character of an escape after its backslash, and the number of characters it takes. -/
def takeEscape? : List Char → Option (Char × Nat)
  | [] => none
  | c :: rest =>
    match escapeWidth? c with
    | none => (shortEscape? c).map fun meant => (meant, 1)
    | some width => do
      if (rest.take width).length < width then failure
      let code ← hexNumber? (rest.take width)
      if h : code.isValidChar then return (Char.ofNatAux code h, 1 + width) else failure

/-- A run of a quoted scalar up to a gap or to the closing quote, and whether it ends with an escaped
line end. `fuel` is at least the number of characters left. -/
def takeQuotedRun? (quote : Char) : (fuel : Nat) → Cursor → Option (List Char × Bool × Cursor)
  | 0, cursor => some ([], false, cursor)
  | fuel + 1, cursor =>
    match cursor.rest with
    | [] => some ([], false, cursor)
    | c :: rest =>
      if isBlank c ∨ isBreak c then some ([], false, cursor)
      else if c = quote then
        if quote = '\'' ∧ rest.head? = some '\'' then do
          let (run, joined, next) ← takeQuotedRun? quote fuel (cursor.skip 2)
          return (c :: run, joined, next)
        else some ([], false, cursor)
      else if quote = '"' ∧ c = '\\' then
        if rest.head?.any isBreak then some ([], true, (cursor.skip 1).takeBreak.2)
        else do
          let (meant, count) ← takeEscape? rest
          let (run, joined, next) ← takeQuotedRun? quote fuel (cursor.skip (1 + count))
          return (meant :: run, joined, next)
      else do
        let (run, joined, next) ← takeQuotedRun? quote fuel (cursor.skip 1)
        return (c :: run, joined, next)

/-- Takes a quoted scalar after its opening quote, up to and with the closing one. `fuel` is more than
the number of characters left. -/
def takeQuoted? (quote : Char) : (fuel : Nat) → Cursor → Option Scanned
  | 0, _ => none
  | fuel + 1, cursor =>
    if cursor.atMarker ∨ cursor.rest.isEmpty then none
    else do
      let (run, joined, after) ← takeQuotedRun? quote cursor.rest.length cursor
      if after.sees quote then return ⟨run, false, after.skip 1⟩
      let start : Gap := if joined then { first := some [] } else {}
      let (gap, following) ← Gap.take? 0 after.rest.length start after
      let more ← takeQuoted? quote fuel following
      return { more with text := run ++ gap.text ++ more.text }

end TypedSearch.Yaml
