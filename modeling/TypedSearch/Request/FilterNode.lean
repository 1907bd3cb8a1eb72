import TypedSearch.Json.Decode

/-!
Filter trees as clients send them (`FilterNode`). A node holds conditions on single fields and two
lists of further nodes, all of which must hold or one of which must; each part may be absent, which is
kept apart from being empty.
-/

namespace TypedSearch

inductive FilterNode where
  /-- Conditions by field name, the nodes that must all hold, and the nodes of which one must. -/
  | mk (cond : Option (List (String × Json))) (all any : Option (List FilterNode))
  deriving Inhabited

namespace FilterNode

def cond : FilterNode → Option Json.Entries
  | ⟨cond, _, _⟩ => cond

def all : FilterNode → Option (List FilterNode)
  | ⟨_, all, _⟩ => all

def any : FilterNode → Option (List FilterNode)
  | ⟨_, _, any⟩ => any

/-- The node without parts. -/
def empty : FilterNode := ⟨none, none, none⟩

mutual

def decideEq : (left right : FilterNode) → Decidable (left = right)
  | ⟨a, b, c⟩, ⟨x, y, z⟩ =>
    match decEq a x, decideEqChildren b y, decideEqChildren c z with
    | isTrue cond, isTrue all, isTrue any => isTrue (by rw [cond, all, any])
    | isFalse differ, _, _ => isFalse fun equal => differ (FilterNode.mk.inj equal).1
    | _, isFalse differ, _ => isFalse fun equal => differ (FilterNode.mk.inj equal).2.1
    | _, _, isFalse differ => isFalse fun equal => differ (FilterNode.mk.inj equal).2.2
termination_by structural x => x

def decideEqChildren : (left right : Option (List FilterNode)) → Decidable (left = right)
  | none, none => isTrue rfl
  | none, some _ | some _, none => isFalse nofun
  | some as, some bs =>
    match decideEqNodes as bs with
    | isTrue equal => isTrue (by rw [equal])
    | isFalse differ => isFalse fun equal => differ (Option.some.inj equal)
termination_by structural x => x

def decideEqNodes : (left right : List FilterNode) → Decidable (left = right)
  | [], [] => isTrue rfl
  | [], _ :: _ | _ :: _, [] => isFalse nofun
  | a :: as, b :: bs =>
    match decideEq a b, decideEqNodes as bs with
    | isTrue head, isTrue tail => isTrue (by rw [head, tail])
    | isFalse differ, _ => isFalse fun equal => differ (List.cons.inj equal).1
    | _, isFalse differ => isFalse fun equal => differ (List.cons.inj equal).2
termination_by structural x => x

end

instance : DecidableEq FilterNode := decideEq

def keys : List String := ["cond", "and", "or"]

mutual

/-- A node as a value; absent parts are left out. -/
def toJson : FilterNode → Json
  | ⟨cond, all, any⟩ =>
    .object
      ((cond.map fun entries => ("cond", Json.object entries)).toList ++
        childrenToJson "and" all ++ childrenToJson "or" any)
termination_by structural x => x

/-- A list of nodes as the entry of a key, if it is present. -/
def childrenToJson (key : String) : Option (List FilterNode) → Json.Entries
  | none => []
  | some nodes => [(key, .array (nodesToJson nodes))]
termination_by structural x => x

def nodesToJson : List FilterNode → List Json
  | [] => []
  | node :: rest => node.toJson :: nodesToJson rest
termination_by structural x => x

end

mutual

/-- Reads a node from its entries or from a list of its parts. -/
def ofJson? : Json → Json.Decoded FilterNode
  | .object entries => ofEntries empty entries
  | .array [] => .ok empty
  | .array [first] => do
    return ⟨← first.toOption Json.toEntries, none, none⟩
  | .array [first, second] => do
    let cond ← first.toOption Json.toEntries
    return ⟨cond, ← childrenOfJson? second, none⟩
  | .array (first :: second :: third :: rest) => do
    let cond ← first.toOption Json.toEntries
    let all ← childrenOfJson? second
    let any ← childrenOfJson? third
    if rest.isEmpty then return ⟨cond, all, any⟩
    else throw (Json.overlong (first :: second :: third :: rest))
  | other => other.unexpected "struct FilterNode"
termination_by structural x => x

/-- Reads the entries of a node, after the parts read before them; unknown keys are refused. -/
def ofEntries (node : FilterNode) : List (String × Json) → Json.Decoded FilterNode
  | [] => .ok node
  | (key, value) :: rest =>
    if key = "cond" then do
      ofEntries ⟨← value.toOption Json.toEntries, node.all, node.any⟩ rest
    else if key = "and" then do
      ofEntries ⟨node.cond, ← childrenOfJson? value, node.any⟩ rest
    else if key = "or" then do
      ofEntries ⟨node.cond, node.all, ← childrenOfJson? value⟩ rest
    else .error (.unknownField key keys)
termination_by structural x => x

def childrenOfJson? : Json → Json.Decoded (Option (List FilterNode))
  | .null => .ok none
  | .array items => do return some (← nodesOfJson? items)
  | other => other.unexpected "a sequence"
termination_by structural x => x

def nodesOfJson? : List Json → Json.Decoded (List FilterNode)
  | [] => .ok []
  | item :: rest => do
    let node ← ofJson? item
    return node :: (← nodesOfJson? rest)
termination_by structural x => x

end

end FilterNode

end TypedSearch
