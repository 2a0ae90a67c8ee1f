import PixelBrush.Document
import PixelBrush.Node

/-! # Outlines of program trees

A tree is laid out as a document: each node becomes fields that start with
its type and location and go on with what is particular to its type.  Going
down to a child takes one unit of a budget, and down to an item of a list
two.
-/

namespace PixelBrush
namespace Node

/-- Why a tree cannot be laid out. -/
inductive OutlineError
  | tooDeep
  | notANode
  deriving DecidableEq

def textField (text : String) : Document :=
  .scalar (some (.string text))

/-- The fields of a node: its type, its location, and those that are
particular to it. -/
def fields (node : Node) (location : Location) (particular : List (String × Document)) :
    Document :=
  .fields (("type", textField node.typeName) ::
    ("line", .scalar (some (.number location.line))) ::
    ("position", .scalar (some (.number location.column))) :: particular)

mutual

def outline : (budget : Nat) → Node → Except OutlineError Document
  | 0, _ => .error .tooDeep
  | budget + 1, node =>
      match node with
      | .program statements location => do
          return node.fields location [("statements", ← outlineItems budget statements)]
      | .label name location =>
          .ok (node.fields location [("name", .scalar name.payload)])
      | .assignment name value location => do
          return node.fields location
            [("name", .scalar name.payload), ("value", ← outline budget value)]
      | .instruction code arguments location => do
          return node.fields location
            [("op", .scalar code.payload), ("args", ← outlineItems budget arguments)]
      | .jump target condition location => do
          return node.fields location
            [("label", .scalar target.payload), ("condition", ← outline budget condition)]
      | .binary operator left right location => do
          return node.fields location
            [("op", .scalar operator.payload), ("left", ← outline budget left),
              ("right", ← outline budget right)]
      | .unary operator operand location => do
          return node.fields location
            [("op", .scalar operator.payload), ("operand", ← outline budget operand)]
      | .call code arguments location => do
          return node.fields location
            [("name", .scalar code.payload), ("args", ← outlineItems budget arguments)]
      | .literal kind value location =>
          .ok (node.fields location [("kind", .scalar kind.payload), ("value", .scalar value)])
      | .reference name location =>
          .ok (node.fields location [("name", .scalar name.payload)])
      | .foreign _ description location =>
          .ok (node.fields location [("raw", textField description)])
      | .text _ => .error .notANode
      | .missing => .ok (.scalar none)

/-- The outlines of the items of a list, as one document. -/
def outlineItems : (budget : Nat) → List Node → Except OutlineError Document
  | 0, _ => .error .tooDeep
  | budget + 1, nodes => do
      return .list (← nodes.mapM (outline budget))

end

end Node
end PixelBrush
