import TypedSearch.Json.Number

/-!
JSON values (`Value`). An object is a list of entries in the order of insertion, and a lookup finds the
first entry of a key. Two notions of sameness are kept apart: equality, which sees the order of
entries, and `agrees`, which does not and is the equality of the JSON library.
-/

namespace TypedSearch

inductive Json where
  | null
  | bool (value : Bool)
  | number (value : Json.Number)
  | string (value : String)
  | array (items : List Json)
  /-- Named values in their order of insertion. -/
  | object (entries : List (String × Json))
  deriving Repr, Inhabited

namespace Json

abbrev Entries := List (String × Json)

mutual

def decideEq : (left right : Json) → Decidable (left = right)
  | .null, .null => isTrue rfl
  | .bool a, .bool b => decidable_of_iff (a = b) (by simp)
  | .number a, .number b => decidable_of_iff (a = b) (by simp)
  | .string a, .string b => decidable_of_iff (a = b) (by simp)
  | .array a, .array b =>
    match decideEqItems a b with
    | isTrue equal => isTrue (by rw [equal])
    | isFalse differ => isFalse (by simpa using differ)
  | .object a, .object b =>
    match decideEqEntries a b with
    | isTrue equal => isTrue (by rw [equal])
    | isFalse differ => isFalse (by simpa using differ)
  | .null, .bool _ | .null, .number _ | .null, .string _ | .null, .array _ | .null, .object _
  | .bool _, .null | .bool _, .number _ | .bool _, .string _ | .bool _, .array _
  | .bool _, .object _ | .number _, .null | .number _, .bool _ | .number _, .string _
  | .number _, .array _ | .number _, .object _ | .string _, .null | .string _, .bool _
  | .string _, .number _ | .string _, .array _ | .string _, .object _ | .array _, .null
  | .array _, .bool _ | .array _, .number _ | .array _, .string _ | .array _, .object _
  | .object _, .null | .object _, .bool _ | .object _, .number _ | .object _, .string _
  | .object _, .array _ => isFalse nofun
termination_by structural x => x

def decideEqItems : (left right : List Json) → Decidable (left = right)
  | [], [] => isTrue rfl
  | [], _ :: _ | _ :: _, [] => isFalse nofun
  | a :: as, b :: bs =>
    match decideEq a b, decideEqItems as bs with
    | isTrue head, isTrue tail => isTrue (by rw [head, tail])
    | isFalse differ, _ => isFalse fun equal => differ (List.cons.inj equal).1
    | _, isFalse differ => isFalse fun equal => differ (List.cons.inj equal).2
termination_by structural x => x

def decideEqEntries : (left right : List (String × Json)) → Decidable (left = right)
  | [], [] => isTrue rfl
  | [], _ :: _ | _ :: _, [] => isFalse nofun
  | (j, a) :: as, (k, b) :: bs =>
    match decEq j k, decideEq a b, decideEqEntries as bs with
    | isTrue key, isTrue head, isTrue tail => isTrue (by rw [key, head, tail])
    | isFalse differ, _, _ => isFalse fun equal => differ (Prod.mk.inj (List.cons.inj equal).1).1
    | _, isFalse differ, _ => isFalse fun equal => differ (Prod.mk.inj (List.cons.inj equal).1).2
    | _, _, isFalse differ => isFalse fun equal => differ (List.cons.inj equal).2
termination_by structural x => x

end

instance : DecidableEq Json := decideEq

def ofInt (value : Int) : Json := .number (.integer value)

def ofStrings (items : List String) : Json := .array (items.map .string)

def single (key : String) (value : Json) : Json := .object [(key, value)]

/-- An optional part as a value, null if there is none. -/
def ofOption {α : Type} (write : α → Json) : Option α → Json
  | some part => write part
  | none => .null

def ofOptionString : Option String → Json := ofOption .string

namespace Entries

/-- Sets the value of a key: in place if the key is present, otherwise at the end. -/
def insert (key : String) (value : Json) : Entries → Entries
  | [] => [(key, value)]
  | (other, old) :: rest =>
    if other = key then (key, value) :: rest else (other, old) :: Entries.insert key value rest

/-- The keys in order. -/
def keys (entries : Entries) : List String := entries.map (·.1)

end Entries

/-- The value of a key of an object; other values have no keys. -/
def get? (key : String) : Json → Option Json
  | .object entries => entries.lookup key
  | _ => none

def items? : Json → Option (List Json)
  | .array items => some items
  | _ => none

def entries? : Json → Option Entries
  | .object entries => some entries
  | _ => none

def text? : Json → Option String
  | .string text => some text
  | _ => none

def isNull : Json → Bool
  | .null => true
  | _ => false

/-- Whether the value is an array or an object with nothing in it. -/
def isEmpty : Json → Bool
  | .array items => items.isEmpty
  | .object entries => entries.isEmpty
  | _ => false

mutual

/-- Sameness up to the order of object entries. Numbers agree by value within their kind. -/
def agrees : Json → Json → Bool
  | .null, .null => true
  | .bool a, .bool b => a == b
  | .number a, .number b => a.agrees b
  | .string a, .string b => a == b
  | .array a, .array b => itemsAgree a b
  | .object a, .object b => a.length == b.length && entriesAgree a b
  | _, _ => false
termination_by structural x => x

def itemsAgree : List Json → List Json → Bool
  | [], [] => true
  | a :: as, b :: bs => agrees a b && itemsAgree as bs
  | _, _ => false
termination_by structural x => x

/-- Every entry on the left has an agreeing entry of its key on the right. -/
def entriesAgree : List (String × Json) → List (String × Json) → Bool
  | [], _ => true
  | (key, value) :: rest, others =>
    (match others.lookup key with
      | some other => agrees value other
      | none => false) && entriesAgree rest others
termination_by structural x => x

end

end Json

end TypedSearch
