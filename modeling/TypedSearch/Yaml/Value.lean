import TypedSearch.Yaml.Document
import TypedSearch.Yaml.Scalar

/-!
Reading documents. Reading goes down the nodes with a place that messages name, follows references and
counts them, and stops at a fixed depth. Besides typed parts a whole node can be read as a value, which
is how a part is kept whose type is told by its shape.
-/

namespace TypedSearch.Yaml

/-- A value, with its local tags. -/
inductive Value where
  | scalar (meaning : Meaning)
  | sequence (items : List Value)
  | mapping (entries : List (Value × Value))
  | tagged (name : String) (content : Value)
  deriving Inhabited

inductive Step where
  | key (name : String)
  /-- To the value of a key that is not written as a scalar. -/
  | hidden
  | item (index : Nat)
  deriving DecidableEq, Repr

/-- Where a node stands and how deep further nodes may be nested in it. -/
structure Place where
  /-- The steps from the root, the last one first. -/
  steps : List Step := []
  depth : Nat := 128
  deriving DecidableEq, Repr

namespace Place

/-- A place as text, or nothing for the root. -/
def textOf? : List Step → Option String
  | [] => none
  | .key name :: rest => some (((textOf? rest).map (· ++ ".")).getD "" ++ name)
  | .hidden :: rest => some (((textOf? rest).map (· ++ ".")).getD "" ++ "?")
  | .item index :: rest => some ((textOf? rest).getD "." ++ s!"[{index}]")

/-- The name of a place in messages, empty for the root. -/
def text (place : Place) : String := (textOf? place.steps).getD ""

/-- The place one step further, inside one more bracket. -/
def inside (place : Place) (step : Step) : Place := ⟨step :: place.steps, place.depth - 1⟩

end Place

inductive Failure where
  /-- It is not in order. -/
  | disorder
  /-- A part of it is not what was expected there. -/
  | mismatch (place : Place) (cause : DecodeError)
  deriving DecidableEq

/-- Reading, with the number of references followed so far. -/
abbrev Reading := StateT Nat (Except Failure)

namespace Reading

/-- Stops at a part that is not what was expected. -/
def refuse {α : Type} (place : Place) (cause : DecodeError) : Reading α :=
  throw (.mismatch place cause)

/-- Stops at a document that is not in order. -/
def disorder {α : Type} : Reading α := throw .disorder

/-- The node that is meant by one, which is another one only for a reference. -/
def follow (document : Document) (node : Node) : Reading Node := do
  match node with
  | .alias number =>
    let count := (← get) + 1
    set count
    if document.limit < count then disorder
    match document.node? number with
    | some target => return target
    | none => disorder
  | _ => return node

def stepTo : Node → Step
  | .scalar _ _ _ text => .key text
  | _ => .hidden

def withSteps {α : Type} (items : List α) : List (Step × α) :=
  items.zipIdx.map fun (item, index) => (.item index, item)

/-- Reads a node as a value. Local tags are kept or, unless `tags` holds, refused where they stand;
whole numbers of more than 64 bits are not in order. `depth` is the number of brackets that may still
be opened. -/
def value (document : Document) (tags : Bool) :
    (depth : Nat) → (steps : List Step) → Node → Reading Value
  | depth, steps, start => do
    let node ← follow document start
    let content ←
      match node with
      | .scalar properties bare _ text =>
        if (localTag? properties.tag).isSome ∧ !tags then refuse ⟨steps, depth⟩ .taggedAlternative
        match meaning? properties.tag bare text with
        | some (.integer number) =>
          if -(powerOfTwo 63 : Int) ≤ number ∧ number < powerOfTwo 64 then pure (Value.scalar (.integer number))
          else disorder
        | some meaning => pure (.scalar meaning)
        | none => disorder
      | .sequence properties items =>
        if (localTag? properties.tag).isSome ∧ !tags then refuse ⟨steps, depth⟩ .taggedAlternative
        match depth with
        | 0 => disorder
        | depth + 1 =>
          Value.sequence <$> (withSteps items).mapM fun (step, item) =>
            value document tags depth (step :: steps) item
      | .mapping properties entries =>
        if (localTag? properties.tag).isSome ∧ !tags then refuse ⟨steps, depth⟩ .taggedAlternative
        match depth with
        | 0 => disorder
        | depth + 1 =>
          Value.mapping <$> entries.mapM fun (key, content) => do
            let name ← value document tags depth steps key
            return (name, ← value document tags depth (stepTo key :: steps) content)
      | .alias _ => disorder
    match node with
    | .scalar properties .. | .sequence properties _ | .mapping properties _ =>
      match localTag? properties.tag with
      | some name => return .tagged name content
      | none => return content
    | .alias _ => return content
termination_by structural depth => depth

end Reading

end TypedSearch.Yaml
