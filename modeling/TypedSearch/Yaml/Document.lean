import TypedSearch.Yaml.Lexer
import TypedSearch.Yaml.Node

/-!
Documents made from tokens (`yaml_parser_parse_node`). A text holds at most one document. Where a node
is called for and none is written, an empty scalar stands, except as an item between commas.
-/

namespace TypedSearch.Yaml

structure Parsing where
  tokens : List Token
  names : List (String × Nat) := []
  handles : List (String × String) := []

/-- A step through the tokens, which may find them ill-formed. -/
abbrev Parser := StateT Parsing Option

namespace Parser

def peek : Parser (Option Token) := do return (← get).tokens.head?

def skip : Parser Unit := modify fun state => { state with tokens := state.tokens.tail }

def declare (name : String) : Parser Nat := do
  let state ← get
  let number := state.names.length
  set { state with names := (name, number) :: state.names.filter fun entry => entry.1 ≠ name }
  return number

/-- The name that a handle and the rest of a tag stand for. -/
def tagName (handle rest : String) : Parser String := do
  if handle.isEmpty then return rest
  match (← get).handles.lookup handle with
  | some meaning => return meaning ++ rest
  | none => failure

/-- An anchor, if one comes next. -/
def anchor : Parser (Option Nat) := do
  match ← peek with
  | some (.anchor name) => skip; return some (← declare name)
  | _ => return none

/-- A tag, if one comes next. -/
def tag : Parser (Option String) := do
  match ← peek with
  | some (.tag handle rest) => skip; return some (← tagName handle rest)
  | _ => return none

/-- The anchor and the tag of a node, in either order. -/
def properties : Parser Properties := do
  match ← peek with
  | some (.tag _ _) =>
    let tag ← tag
    return ⟨← anchor, tag⟩
  | _ =>
    let anchor ← anchor
    return ⟨anchor, ← tag⟩

/-- A scalar's properties: the single exclamation mark is no tag of its own. -/
def ofScalar (properties : Properties) : Properties :=
  if properties.tag = some "!" then { properties with tag := none } else properties

def isOneOf (kinds : List Token) : Option Token → Bool
  | some token => kinds.contains token
  | none => false

mutual

/-- A node. Inside brackets, where `block` does not hold, there are no blocks, and an item list
without indentation of its own is read only where `indentless` holds. -/
def node (block indentless : Bool) : (fuel : Nat) → Parser Node
  | 0 => failure
  | fuel + 1 => do
    match ← peek with
    | some (.alias name) =>
      skip
      match (← get).names.lookup name with
      | some number => return .alias number
      | none => failure
    | _ =>
      let properties ← properties
      match ← peek with
      | some .blockEntry =>
        if indentless then return .sequence properties (← indentlessItems fuel)
        else bare properties
      | some (.scalar style text) =>
        skip
        return .scalar (ofScalar properties) (style == .plain) (style == .literal) text
      | some .flowSequenceStart =>
        skip
        return .sequence properties (← flowItems true fuel)
      | some .flowMappingStart =>
        skip
        return .mapping properties (← flowEntries true fuel)
      | some .blockSequenceStart =>
        if block then
          skip
          return .sequence properties (← blockItems fuel)
        else bare properties
      | some .blockMappingStart =>
        if block then
          skip
          return .mapping properties (← blockEntries fuel)
        else bare properties
      | _ => bare properties
termination_by structural fuel => fuel

/-- The node of properties without contents; there must be some. -/
def bare (properties : Properties) : Parser Node :=
  if properties = {} then failure else return .missing properties

/-- A node of a block, or an empty scalar if one of some tokens comes next. -/
def blockNode (indentless : Bool) (ends : List Token) : (fuel : Nat) → Parser Node
  | 0 => failure
  | fuel + 1 => do
    if isOneOf ends (← peek) then return .missing {} else node true indentless fuel
termination_by structural fuel => fuel

/-- A node inside brackets, or an empty scalar if one of some tokens comes next. -/
def flowNode (ends : List Token) : (fuel : Nat) → Parser Node
  | 0 => failure
  | fuel + 1 => do
    if isOneOf ends (← peek) then return .missing {} else node false false fuel
termination_by structural fuel => fuel

/-- The items of a block, up to and with its end. -/
def blockItems : (fuel : Nat) → Parser (List Node)
  | 0 => failure
  | fuel + 1 => do
    match ← peek with
    | some .blockEntry =>
      skip
      let item ← blockNode false [.blockEntry, .blockEnd] fuel
      return item :: (← blockItems fuel)
    | some .blockEnd => skip; return []
    | _ => failure
termination_by structural fuel => fuel

/-- The items of a list that is indented no further than the map it stands in. -/
def indentlessItems : (fuel : Nat) → Parser (List Node)
  | 0 => failure
  | fuel + 1 => do
    match ← peek with
    | some .blockEntry =>
      skip
      let item ← blockNode false [.blockEntry, .key, .value, .blockEnd] fuel
      return item :: (← indentlessItems fuel)
    | _ => return []
termination_by structural fuel => fuel

/-- The entries of a block, up to and with its end. -/
def blockEntries : (fuel : Nat) → Parser (List (Node × Node))
  | 0 => failure
  | fuel + 1 => do
    match ← peek with
    | some .key =>
      skip
      let key ← blockNode true [.key, .value, .blockEnd] fuel
      let value ← blockValue fuel
      return (key, value) :: (← blockEntries fuel)
    | some .blockEnd => skip; return []
    | _ => failure
termination_by structural fuel => fuel

def blockValue : (fuel : Nat) → Parser Node
  | 0 => failure
  | fuel + 1 => do
    match ← peek with
    | some .value => skip; blockNode true [.key, .value, .blockEnd] fuel
    | _ => return .missing {}
termination_by structural fuel => fuel

/-- The items between brackets, up to and with the closing one; before any but the first there must
be a comma. -/
def flowItems (first : Bool) : (fuel : Nat) → Parser (List Node)
  | 0 => failure
  | fuel + 1 => do
    if (← peek) = some .flowSequenceEnd then skip; return []
    if !first then
      if (← peek) = some .flowEntry then skip else failure
    match ← peek with
    | some .flowSequenceEnd => skip; return []
    | some .key =>
      skip
      let item ← flowPair fuel
      return item :: (← flowItems false fuel)
    | _ =>
      let item ← node false false fuel
      return item :: (← flowItems false fuel)
termination_by structural fuel => fuel

/-- A single entry that stands as an item between brackets. A key that is marked and missing takes
the token after it along. -/
def flowPair : (fuel : Nat) → Parser Node
  | 0 => failure
  | fuel + 1 => do
    if isOneOf [.value, .flowEntry, .flowSequenceEnd] (← peek) then
      skip
      let value ← flowValue .flowSequenceEnd fuel
      return .mapping {} [(.missing {}, value)]
    else
      let key ← node false false fuel
      let value ← flowValue .flowSequenceEnd fuel
      return .mapping {} [(key, value)]
termination_by structural fuel => fuel

/-- The value of an entry inside brackets that end with a given token. -/
def flowValue (last : Token) : (fuel : Nat) → Parser Node
  | 0 => failure
  | fuel + 1 => do
    if (← peek) = some .value then
      skip
      flowNode [.flowEntry, last] fuel
    else return .missing {}
termination_by structural fuel => fuel

/-- The entries between braces, up to and with the closing one; before any but the first there must
be a comma. -/
def flowEntries (first : Bool) : (fuel : Nat) → Parser (List (Node × Node))
  | 0 => failure
  | fuel + 1 => do
    if (← peek) = some .flowMappingEnd then skip; return []
    if !first then
      if (← peek) = some .flowEntry then skip else failure
    match ← peek with
    | some .flowMappingEnd => skip; return []
    | some .key =>
      skip
      let key ← flowNode [.value, .flowEntry, .flowMappingEnd] fuel
      let value ← flowValue .flowMappingEnd fuel
      return (key, value) :: (← flowEntries false fuel)
    | _ =>
      let key ← node false false fuel
      return (key, .missing {}) :: (← flowEntries false fuel)
termination_by structural fuel => fuel

end

def standardHandles : List (String × String) := [("!", "!"), ("!!", "tag:yaml.org,2002:")]

/-- The directives before a document. The version may be given once and has to be one that is known;
a handle may be given once. -/
def directives (versioned : Bool) : (fuel : Nat) → Parser Unit
  | 0 => failure
  | fuel + 1 => do
    match ← peek with
    | some (.version major minor) =>
      if versioned ∨ major ≠ 1 ∨ (minor ≠ 1 ∧ minor ≠ 2) then failure
      skip
      directives true fuel
    | some (.tagHandle handle meaning) =>
      if ((← get).handles.lookup handle).isSome then failure
      skip
      modify fun state => { state with handles := (handle, meaning) :: state.handles }
      directives versioned fuel
    | _ => return ()

def documentEnds : (fuel : Nat) → Parser Unit
  | 0 => failure
  | fuel + 1 => do
    if (← peek) = some .documentEnd then
      skip
      documentEnds fuel
    else return ()

/-- Whether a token starts the part before a document's root. -/
def startsDocument : Token → Bool
  | .version _ _ | .tagHandle _ _ | .documentStart => true
  | _ => false

/-- Whether a token stands where a document's root is missing. -/
def endsDocument : Option Token → Bool
  | none => true
  | some token => startsDocument token || token == .documentEnd

/-- The root of the only document; nothing may come after its end. -/
def document (fuel : Nat) : Parser (Option Node) := do
  match ← peek with
  | none => return none
  | some first =>
    let explicit := startsDocument first
    if explicit then
      directives false fuel
      if (← peek) = some .documentStart then skip else failure
    modify fun state => { state with handles := state.handles ++ standardHandles }
    let root ←
      if explicit && endsDocument (← peek) then pure (Node.missing {}) else node true false fuel
    documentEnds fuel
    if (← peek).isSome then failure
    return some root

end Parser

/-- The document that a text denotes, if it denotes one. -/
def Document.ofText? (text : String) : Option Document := do
  let tokens ← tokens? text
  let (root, _) ← (Parser.document (3 * tokens.length + 3)).run { tokens }
  return .ofRoot root

end TypedSearch.Yaml
