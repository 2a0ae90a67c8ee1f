import PixelBrush.Proofs.Grammar
import PixelBrush.Proofs.Source

/-! # Derivations from changed tokens

What a derivation makes of its tokens depends on their kinds and values.  When
tokens change in nothing else, the derivation stays, and its tree moves to
where the tokens have moved.
-/

namespace PixelBrush

namespace Node

mutual

/-- A tree in which every location has moved. -/
def relocate (move : Location → Location) : Node → Node
  | program statements location => program (relocateAll move statements) (move location)
  | label name location => label name (move location)
  | assignment name value location => assignment name (value.relocate move) (move location)
  | instruction code arguments location =>
      instruction code (relocateAll move arguments) (move location)
  | jump target condition location => jump target (condition.relocate move) (move location)
  | binary operator left right location =>
      binary operator (left.relocate move) (right.relocate move) (move location)
  | unary operator operand location => unary operator (operand.relocate move) (move location)
  | call code arguments location => call code (relocateAll move arguments) (move location)
  | literal kind value location => literal kind value (move location)
  | reference name location => reference name (move location)
  | foreign type description location => foreign type description (move location)
  | text content => text content
  | missing => missing

def relocateAll (move : Location → Location) : List Node → List Node
  | [] => []
  | node :: others => node.relocate move :: relocateAll move others

end

mutual

theorem relocate_nowhere : ∀ node : Node, node.relocate (fun _ => .nowhere) = node.unlocated
  | program statements _ | instruction _ statements _ | call _ statements _ => by
      rw [relocate, unlocated, relocateAll_nowhere statements]
  | assignment _ value _ | jump _ value _ | unary _ value _ => by
      rw [relocate, unlocated, relocate_nowhere value]
  | binary _ left right _ => by
      rw [relocate, unlocated, relocate_nowhere left, relocate_nowhere right]
  | label _ _ | literal _ _ _ | reference _ _ | foreign _ _ _ | text _ | missing => rfl

theorem relocateAll_nowhere :
    ∀ nodes : List Node, relocateAll (fun _ => .nowhere) nodes = unlocatedAll nodes
  | [] => rfl
  | node :: others => by
      rw [relocateAll, unlocatedAll, relocate_nowhere node, relocateAll_nowhere others]

end

mutual

theorem relocate_id : ∀ node : Node, node.relocate id = node
  | program statements _ | instruction _ statements _ | call _ statements _ => by
      rw [relocate, relocateAll_id statements, id]
  | assignment _ value _ | jump _ value _ | unary _ value _ => by
      rw [relocate, relocate_id value, id]
  | binary _ left right _ => by rw [relocate, relocate_id left, relocate_id right, id]
  | label _ _ | literal _ _ _ | reference _ _ | foreign _ _ _ | text _ | missing => rfl

theorem relocateAll_id : ∀ nodes : List Node, relocateAll id nodes = nodes
  | [] => rfl
  | node :: others => by rw [relocateAll, relocate_id node, relocateAll_id others]

end

end Node

namespace Grammar

/-- A change of tokens that keeps their kinds and values, and moves them. -/
structure Restyling (move : Location → Location) where
  apply : Token → Token
  kind : ∀ token, (apply token).kind = token.kind
  value : ∀ token, (apply token).value = token.value
  location : ∀ token, (apply token).location = move token.location

/-- Tokens as they are. -/
def unchanged : Restyling id where
  apply token := token
  kind _ := rfl
  value _ := rfl
  location _ := rfl

theorem map_unchanged (tokens : List Token) : tokens.map unchanged.apply = tokens :=
  List.map_id tokens

variable {move : Location → Location} (restyling : Restyling move)

def Terminal.restyle {kind : TokenKind} (token : Terminal kind) : Terminal kind :=
  ⟨restyling.apply token.val, by rw [restyling.kind, token.kind_val]⟩

@[simp]
theorem Terminal.val_restyle {kind : TokenKind} (token : Terminal kind) :
    (token.restyle restyling).val = restyling.apply token.val := rfl

mutual

def Atom.restyle : Atom → Atom
  | .literal kind token => .literal kind (token.restyle restyling)
  | .reference name => .reference (name.restyle restyling)
  | .call query name opening arguments closing =>
      .call query (name.restyle restyling) (opening.restyle restyling) arguments.restyle
        (closing.restyle restyling)
  | .enclosed opening inner closing =>
      .enclosed (opening.restyle restyling) inner.restyle (closing.restyle restyling)
  | .unary operator sign operand => .unary operator (sign.restyle restyling) operand.restyle

def Expression.restyle : {level : Nat} → Expression level → Expression level
  | _, .atom atom => .atom atom.restyle
  | _, .operand below operand => .operand below operand.restyle
  | _, .binary left operator member sign right =>
      .binary left.restyle operator member (sign.restyle restyling) right.restyle

def Arguments.restyle : Arguments → Arguments
  | .none => .none
  | .last argument => .last argument.restyle
  | .more argument comma others =>
      .more argument.restyle (comma.restyle restyling) others.restyle

end

mutual

theorem Atom.tokens_restyle :
    ∀ atom : Atom, (atom.restyle restyling).tokens = atom.tokens.map restyling.apply
  | .literal _ _ | .reference _ => rfl
  | .call _ _ _ arguments _ => by
      simp [Atom.restyle, Atom.tokens, arguments.tokens_restyle]
  | .enclosed _ inner _ => by simp [Atom.restyle, Atom.tokens, inner.tokens_restyle]
  | .unary _ _ operand => by simp [Atom.restyle, Atom.tokens, operand.tokens_restyle]

theorem Expression.tokens_restyle : ∀ {level : Nat} (expression : Expression level),
    (expression.restyle restyling).tokens = expression.tokens.map restyling.apply
  | _, .atom atom => by simp [Expression.restyle, Expression.tokens, atom.tokens_restyle]
  | _, .operand _ operand => by
      simp [Expression.restyle, Expression.tokens, operand.tokens_restyle]
  | _, .binary left _ _ _ right => by
      simp [Expression.restyle, Expression.tokens, left.tokens_restyle, right.tokens_restyle]

theorem Arguments.tokens_restyle : ∀ arguments : Arguments,
    (arguments.restyle restyling).tokens = arguments.tokens.map restyling.apply
  | .none => rfl
  | .last argument => by
      simp [Arguments.restyle, Arguments.tokens, argument.tokens_restyle]
  | .more argument _ others => by
      simp [Arguments.restyle, Arguments.tokens, argument.tokens_restyle, others.tokens_restyle]

end

mutual

theorem Atom.tree_restyle :
    ∀ atom : Atom, (atom.restyle restyling).tree = atom.tree.relocate move
  | .literal _ _ | .reference _ => by
      simp [Atom.restyle, Atom.tree, Node.relocate, restyling.value, restyling.location]
  | .call _ _ _ arguments _ => by
      simp [Atom.restyle, Atom.tree, Node.relocate, restyling.location, arguments.trees_restyle]
  | .enclosed _ inner _ => by simp [Atom.restyle, Atom.tree, inner.tree_restyle]
  | .unary _ _ operand => by
      simp [Atom.restyle, Atom.tree, Node.relocate, restyling.location, operand.tree_restyle]

theorem Expression.tree_restyle : ∀ {level : Nat} (expression : Expression level),
    (expression.restyle restyling).tree = expression.tree.relocate move
  | _, .atom atom => by simp [Expression.restyle, Expression.tree, atom.tree_restyle]
  | _, .operand _ operand => by
      simp [Expression.restyle, Expression.tree, operand.tree_restyle]
  | _, .binary left _ _ _ right => by
      simp [Expression.restyle, Expression.tree, Node.relocate, restyling.location,
        left.tree_restyle, right.tree_restyle]

theorem Arguments.trees_restyle : ∀ arguments : Arguments,
    (arguments.restyle restyling).trees = Node.relocateAll move arguments.trees
  | .none => rfl
  | .last argument => by
      simp [Arguments.restyle, Arguments.trees, Node.relocateAll, argument.tree_restyle]
  | .more argument _ others => by
      simp [Arguments.restyle, Arguments.trees, Node.relocateAll, argument.tree_restyle,
        others.trees_restyle]

end

namespace Statement

def restyle : Statement → Statement
  | label name colon => label (name.restyle restyling) (colon.restyle restyling)
  | assignment name arrow value =>
      assignment (name.restyle restyling) (arrow.restyle restyling) (value.restyle restyling)
  | instruction command name opening arguments closing =>
      instruction command (name.restyle restyling) (opening.restyle restyling)
        (arguments.restyle restyling) (closing.restyle restyling)
  | jump word openingBracket target closingBracket opening condition closing =>
      jump (word.restyle restyling) (openingBracket.restyle restyling) (target.restyle restyling)
        (closingBracket.restyle restyling) (opening.restyle restyling)
        (condition.restyle restyling) (closing.restyle restyling)

theorem tokens_restyle (statement : Statement) :
    (statement.restyle restyling).tokens = statement.tokens.map restyling.apply := by
  cases statement with
  | label name colon => rfl
  | assignment name arrow value =>
      simp [restyle, tokens, Expression.tokens_restyle]
  | instruction command name opening arguments closing =>
      simp [restyle, tokens, Arguments.tokens_restyle]
  | jump word openingBracket target closingBracket opening condition closing =>
      simp [restyle, tokens, Expression.tokens_restyle]

theorem tree_restyle (statement : Statement) :
    (statement.restyle restyling).tree = statement.tree.relocate move := by
  cases statement with
  | label name colon =>
      simp [restyle, tree, Node.relocate, restyling.value, restyling.location]
  | assignment name arrow value =>
      simp [restyle, tree, Node.relocate, restyling.value, restyling.location,
        Expression.tree_restyle]
  | instruction command name opening arguments closing =>
      simp [restyle, tree, Node.relocate, restyling.location, Arguments.trees_restyle]
  | jump word openingBracket target closingBracket opening condition closing =>
      simp [restyle, tree, Node.relocate, restyling.value, restyling.location,
        Expression.tree_restyle]

end Statement

def Separator.restyle (separator : Separator) : Separator :=
  ⟨restyling.apply separator.val, by rw [restyling.kind]; exact separator.property⟩

theorem map_val_restyle (separators : List Separator) :
    (separators.map (Separator.restyle restyling)).map Subtype.val =
      (separators.map Subtype.val).map restyling.apply := by
  rw [List.map_map, List.map_map]
  rfl

namespace Program

def restyle (program : Program) : Program where
  leading := program.leading.map (Separator.restyle restyling)
  statements := program.statements.map fun part =>
    (part.1.restyle restyling, part.2.map (Separator.restyle restyling))

theorem statementTokens_restyle (parts : List (Statement × List Separator)) :
    statementTokens (parts.map fun part =>
        (part.1.restyle restyling, part.2.map (Separator.restyle restyling))) =
      (statementTokens parts).map restyling.apply := by
  induction parts with
  | nil => rfl
  | cons part later induction =>
      rw [List.map_cons, statementTokens, statementTokens, induction, map_val_restyle,
        Statement.tokens_restyle, List.map_append, List.map_append]

theorem tokens_restyle (program : Program) :
    (program.restyle restyling).tokens = program.tokens.map restyling.apply := by
  rw [tokens, tokens, List.map_append]
  exact congrArg₂ _ (map_val_restyle restyling program.leading)
    (statementTokens_restyle restyling program.statements)

theorem trees_restyle (program : Program) :
    (program.restyle restyling).trees = program.trees.map (Node.relocate move) := by
  simp [trees, restyle, Statement.tree_restyle]

end Program

/-- The tokens before the end of the input, whatever style they are in. -/
theorem beforeEnd_map_apply (tokens : List Token) :
    beforeEnd (tokens.map restyling.apply) = (beforeEnd tokens).map restyling.apply := by
  rw [beforeEnd, beforeEnd, List.takeWhile_map]
  congr 2
  funext token
  exact congrArg (fun kind => decide (kind ≠ .endOfInput)) (restyling.kind token)

end Grammar
end PixelBrush
