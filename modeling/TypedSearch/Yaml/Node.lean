/-!
The nodes of a YAML document. A node with an anchor has a number, which is the count of the anchor
names that were known before; a reference holds the number that its name had where it stands. If a
name is given twice, two anchors can share a number, and then the last node with it is meant.
-/

namespace TypedSearch.Yaml

structure Properties where
  anchor : Option Nat := none
  tag : Option String := none
  deriving DecidableEq, Repr, Inhabited

inductive Node where
  /-- A scalar; `bare` holds if it is written without quotes, `literal` if as lines that keep their
  ends. -/
  | scalar (properties : Properties) (bare literal : Bool) (text : String)
  | sequence (properties : Properties) (items : List Node)
  | mapping (properties : Properties) (entries : List (Node × Node))
  | alias (number : Nat)
  deriving Repr, Inhabited

namespace Node

def missing (properties : Properties) : Node := .scalar properties true false ""

/-- A node with its number, if it has one. -/
def numbered (properties : Properties) (node : Node) : List (Nat × Node) :=
  (properties.anchor.map fun number => (number, node)).toList

mutual

/-- The nodes with anchors, in the order in which they start. -/
def anchored : Node → List (Nat × Node)
  | .scalar properties bare literal text =>
    numbered properties (.scalar properties bare literal text)
  | .sequence properties items =>
    numbered properties (.sequence properties items) ++ anchoredItems items
  | .mapping properties entries =>
    numbered properties (.mapping properties entries) ++ anchoredEntries entries
  | .alias _ => []
termination_by structural node => node

def anchoredItems : List Node → List (Nat × Node)
  | [] => []
  | item :: rest => anchored item ++ anchoredItems rest
termination_by structural items => items

def anchoredEntries : List (Node × Node) → List (Nat × Node)
  | [] => []
  | (key, value) :: rest => anchored key ++ anchored value ++ anchoredEntries rest
termination_by structural entries => entries

end

mutual

/-- The number of scalars, references and brackets that a node consists of. -/
def size : Node → Nat
  | .scalar .. | .alias _ => 1
  | .sequence _ items => 2 + itemsSize items
  | .mapping _ entries => 2 + entriesSize entries
termination_by structural node => node

def itemsSize : List Node → Nat
  | [] => 0
  | item :: rest => size item + itemsSize rest
termination_by structural items => items

def entriesSize : List (Node × Node) → Nat
  | [] => 0
  | (key, value) :: rest => size key + size value + entriesSize rest
termination_by structural entries => entries

end

end Node

/-- A document: its root, unless the text has no content at all. -/
structure Document where
  root : Option Node
  /-- The nodes with anchors, in the order in which they start. -/
  anchored : List (Nat × Node)
  /-- How many references may be followed while the document is read. -/
  limit : Nat

namespace Document

def ofRoot (root : Option Node) : Document :=
  { root
    anchored := (root.map Node.anchored).getD []
    limit := 100 * (root.map Node.size).getD 1 }

/-- The last node with a number. -/
def node? (document : Document) (number : Nat) : Option Node :=
  document.anchored.reverse.lookup number

end Document

end TypedSearch.Yaml
