import PixelBrush.Command
import PixelBrush.Node

/-! # The nodes of a tree

The nodes of a tree can be listed in the order in which they stand in a text: a
binary operator between its operands, and any other node before its children.
-/

namespace PixelBrush
namespace Node

mutual

/-- A node and all nodes below it, in reading order. -/
def parts : Node → List Node
  | program statements location => program statements location :: partsOfAll statements
  | assignment name value location => assignment name value location :: value.parts
  | instruction code arguments location =>
      instruction code arguments location :: partsOfAll arguments
  | jump target condition location => jump target condition location :: condition.parts
  | binary operator left right location =>
      left.parts ++ binary operator left right location :: right.parts
  | unary operator operand location => unary operator operand location :: operand.parts
  | call code arguments location => call code arguments location :: partsOfAll arguments
  | node => [node]

def partsOfAll : List Node → List Node
  | [] => []
  | node :: others => node.parts ++ partsOfAll others

end

theorem mem_parts_self (node : Node) : node ∈ node.parts := by
  cases node <;> simp [parts]

theorem mem_partsOfAll {part : Node} {nodes : List Node} :
    part ∈ partsOfAll nodes ↔ ∃ node ∈ nodes, part ∈ node.parts := by
  induction nodes with
  | nil => simp [partsOfAll]
  | cons node others induction => simp [partsOfAll, induction]

theorem forall_mem_partsOfAll {property : Node → Prop} {nodes : List Node} :
    (∀ part ∈ partsOfAll nodes, property part) ↔
      ∀ node ∈ nodes, ∀ part ∈ node.parts, property part := by
  constructor
  · exact fun all node member part inside => all part (mem_partsOfAll.mpr ⟨node, member, inside⟩)
  · intro each part member
    obtain ⟨node, among, inside⟩ := mem_partsOfAll.mp member
    exact each node among part inside

/-- The query that a node asks, if it is the call of one. -/
def query? : Node → Option Query
  | call code _ _ => code.text?.bind Query.ofCode?
  | _ => none

end Node
end PixelBrush
