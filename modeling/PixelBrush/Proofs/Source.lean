import PixelBrush.Node
import PixelBrush.Proofs.Grammar
import PixelBrush.Proofs.Segmentation

/-! # Writing programs down

A program tree is written with one statement on a line.  Operands stand in
parentheses, arguments are divided by commas, and keywords are in lowercase.
Which blanks stand between the pieces of a line is free.  What is written this
way are the trees that can come from a program text.
-/

namespace PixelBrush

namespace Lexeme

/-- A lexeme that denotes no value. -/
def sign (kind : TokenKind) (text : String) : Lexeme :=
  ⟨kind, text.toList, none⟩

def opening : Lexeme := sign .leftParenthesis "("

def closing : Lexeme := sign .rightParenthesis ")"

def endOfLine : Lexeme := sign .endOfLine "\n"

def identifier (name : String) : Lexeme :=
  ⟨.identifier, name.toList, some (.string name)⟩

/-- The lexeme of a literal. -/
def literal : Value → Lexeme
  | .number value => ⟨.number, Nat.toDigits 10 value.toNat, some (.number value)⟩
  | .boolean true => ⟨.boolean, "true".toList, some (.boolean true)⟩
  | .boolean false => ⟨.boolean, "false".toList, some (.boolean false)⟩
  | .string text => ⟨.string, '"' :: (text.toList ++ ['"']), some (.string text)⟩

theorem kind_literal (value : Value) :
    (literal value).kind = Grammar.literalToken value.kind := by
  cases value with
  | boolean value => cases value <;> rfl
  | _ => rfl

theorem value_literal (value : Value) : (literal value).value = some value := by
  cases value with
  | boolean value => cases value <;> rfl
  | _ => rfl

def binary (operator : BinaryOperator) : Lexeme :=
  sign (.binary operator) operator.text

def unary (operator : UnaryOperator) : Lexeme :=
  sign (Grammar.unaryToken operator) operator.text

/-- A keyword is the title of what it stands for, in lowercase. -/
def command (drawn : Command) : Lexeme :=
  ⟨.command drawn, Text.foldCase drawn.title.toList, none⟩

def query (asked : Query) : Lexeme :=
  ⟨.query asked, Text.foldCase asked.title.toList, none⟩

/-- Lexemes in parentheses. -/
def enclosed (lexemes : List Lexeme) : List Lexeme :=
  opening :: (lexemes ++ [closing])

end Lexeme

namespace Node

mutual

/-- The lexemes that an expression or a statement is written with.  What a tree
refers to by a name that means nothing is left out. -/
def lexemes : Node → List Lexeme
  | label name _ => (name.text?.map Lexeme.identifier).toList ++ [Lexeme.sign .colon ":"]
  | assignment name value _ =>
      (name.text?.map Lexeme.identifier).toList ++ Lexeme.sign .arrow "<-" :: value.lexemes
  | instruction code arguments _ =>
      ((code.text?.bind Command.ofCode?).map Lexeme.command).toList ++
        Lexeme.enclosed (argumentLexemes arguments)
  | jump target condition _ =>
      Lexeme.sign .jump "goto" :: Lexeme.sign .leftBracket "[" ::
        ((target.text?.map Lexeme.identifier).toList ++
          Lexeme.sign .rightBracket "]" :: Lexeme.enclosed condition.lexemes)
  | binary operator left right _ =>
      Lexeme.enclosed left.lexemes ++
        (((operator.text?.bind BinaryOperator.ofText?).map Lexeme.binary).toList ++
          Lexeme.enclosed right.lexemes)
  | unary operator operand _ =>
      ((operator.text?.bind UnaryOperator.ofText?).map Lexeme.unary).toList ++
        Lexeme.enclosed operand.lexemes
  | call code arguments _ =>
      ((code.text?.bind Query.ofCode?).map Lexeme.query).toList ++
        Lexeme.enclosed (argumentLexemes arguments)
  | literal _ value _ => (value.map Lexeme.literal).toList
  | reference name _ => (name.text?.map Lexeme.identifier).toList
  | program _ _ | foreign _ _ _ | text _ | missing => []

/-- The lexemes of arguments, divided by commas. -/
def argumentLexemes : List Node → List Lexeme
  | [] => []
  | argument :: others =>
      argument.lexemes ++
        if others.isEmpty then [] else Lexeme.sign .comma "," :: argumentLexemes others

end

mutual

/-- A tree without its locations. -/
def unlocated : Node → Node
  | program statements _ => program (unlocatedAll statements) .nowhere
  | label name _ => label name .nowhere
  | assignment name value _ => assignment name value.unlocated .nowhere
  | instruction code arguments _ => instruction code (unlocatedAll arguments) .nowhere
  | jump target condition _ => jump target condition.unlocated .nowhere
  | binary operator left right _ => binary operator left.unlocated right.unlocated .nowhere
  | unary operator operand _ => unary operator operand.unlocated .nowhere
  | call code arguments _ => call code (unlocatedAll arguments) .nowhere
  | literal kind value _ => literal kind value .nowhere
  | reference name _ => reference name .nowhere
  | foreign type description _ => foreign type description .nowhere
  | text content => text content
  | missing => missing

def unlocatedAll : List Node → List Node
  | [] => []
  | node :: others => node.unlocated :: unlocatedAll others

end

theorem unlocatedAll_eq_map (nodes : List Node) : unlocatedAll nodes = nodes.map unlocated := by
  induction nodes with
  | nil => rfl
  | cons node others induction => rw [unlocatedAll, induction, List.map_cons]

@[simp]
theorem length_unlocatedAll (nodes : List Node) :
    (unlocatedAll nodes).length = nodes.length := by
  rw [unlocatedAll_eq_map, List.length_map]

mutual

/-- How deep reading a tree nests that is written with all its parentheses. -/
def nesting : Node → Nat
  | assignment _ value _ => value.nesting
  | instruction _ arguments _ => nestingOfAll arguments + 1
  | jump _ condition _ => condition.nesting
  | binary _ left right _ => max (left.nesting + 2) (right.nesting + 3)
  | unary _ operand _ => operand.nesting + 3
  | call _ arguments _ => nestingOfAll arguments + 4
  | literal _ _ _ | reference _ _ => 2
  | program _ _ | label _ _ | foreign _ _ _ | text _ | missing => 0

def nestingOfAll : List Node → Nat
  | [] => 0
  | node :: others => max node.nesting (nestingOfAll others)

end

end Node

/-- Whether a text can be written as a string or a number without being mistaken. -/
def Value.Writable : Value → Prop
  | number value => 0 ≤ value ∧ (Nat.toDigits 10 value.toNat).length ≤ Text.digitLimit
  | boolean _ => True
  | string text => '"' ∉ text.toList

/-- Whether a text is a word that is no keyword. -/
structure IsIdentifier (name : String) : Prop where
  word : Segmentation.Word name.toList []
  unknown : Cursor.keyword? (String.ofList (Text.foldCase name.toList)) = none

namespace Node

/-- The expressions that can come from a program text. -/
inductive WellFormedExpression : Node → Prop
  | literal {value : Value} {location : Location} (writable : value.Writable) :
      WellFormedExpression (literal value.kind.name (some value) location)
  | reference {name : String} {location : Location} (identifier : IsIdentifier name) :
      WellFormedExpression (reference name location)
  | binary {operator : BinaryOperator} {left right : Node} {location : Location}
      (leftFormed : WellFormedExpression left) (rightFormed : WellFormedExpression right) :
      WellFormedExpression (binary operator.text left right location)
  | unary {operator : UnaryOperator} {operand : Node} {location : Location}
      (operandFormed : WellFormedExpression operand) :
      WellFormedExpression (unary operator.text operand location)
  | call {query : Query} {arguments : List Node} {location : Location}
      (each : ∀ argument ∈ arguments, WellFormedExpression argument) :
      WellFormedExpression (call query.code arguments location)

/-- The statements that can come from a program text. -/
inductive WellFormedStatement : Node → Prop
  | label {name : String} {location : Location} (identifier : IsIdentifier name) :
      WellFormedStatement (label name location)
  | assignment {name : String} {value : Node} {location : Location}
      (identifier : IsIdentifier name) (valueFormed : WellFormedExpression value) :
      WellFormedStatement (assignment name value location)
  | instruction {command : Command} {arguments : List Node} {location : Location}
      (each : ∀ argument ∈ arguments, WellFormedExpression argument) :
      WellFormedStatement (instruction command.code arguments location)
  | jump {target : String} {condition : Node} {location : Location}
      (identifier : IsIdentifier target) (conditionFormed : WellFormedExpression condition) :
      WellFormedStatement (jump target condition location)

section Lexemes

variable (name : String) (arguments : List Node) (location : Location)

@[simp]
theorem lexemes_label :
    (label name location).lexemes = [Lexeme.identifier name, Lexeme.sign .colon ":"] := by
  simp [lexemes]

@[simp]
theorem lexemes_assignment (value : Node) :
    (assignment name value location).lexemes =
      Lexeme.identifier name :: Lexeme.sign .arrow "<-" :: value.lexemes := by
  simp [lexemes]

@[simp]
theorem lexemes_instruction (command : Command) :
    (instruction command.code arguments location).lexemes =
      Lexeme.command command :: Lexeme.enclosed (argumentLexemes arguments) := by
  simp [lexemes]

@[simp]
theorem lexemes_jump (condition : Node) :
    (jump name condition location).lexemes =
      Lexeme.sign .jump "goto" :: Lexeme.sign .leftBracket "[" :: Lexeme.identifier name ::
        Lexeme.sign .rightBracket "]" :: Lexeme.enclosed condition.lexemes := by
  simp [lexemes]

@[simp]
theorem lexemes_binary (operator : BinaryOperator) (left right : Node) :
    (binary operator.text left right location).lexemes =
      Lexeme.enclosed left.lexemes ++
        Lexeme.binary operator :: Lexeme.enclosed right.lexemes := by
  simp [lexemes]

@[simp]
theorem lexemes_unary (operator : UnaryOperator) (operand : Node) :
    (unary operator.text operand location).lexemes =
      Lexeme.unary operator :: Lexeme.enclosed operand.lexemes := by
  simp [lexemes]

@[simp]
theorem lexemes_call (query : Query) :
    (call query.code arguments location).lexemes =
      Lexeme.query query :: Lexeme.enclosed (argumentLexemes arguments) := by
  simp [lexemes]

@[simp]
theorem lexemes_literal (kind : Name) (value : Value) :
    (literal kind (some value) location).lexemes = [Lexeme.literal value] := by
  simp [lexemes]

@[simp]
theorem lexemes_reference :
    (reference name location).lexemes = [Lexeme.identifier name] := by
  simp [lexemes]

@[simp]
theorem argumentLexemes_singleton (argument : Node) :
    argumentLexemes [argument] = argument.lexemes := by
  simp [argumentLexemes]

theorem argumentLexemes_cons_cons (argument next : Node) :
    argumentLexemes (argument :: next :: arguments) =
      argument.lexemes ++ Lexeme.sign .comma "," :: argumentLexemes (next :: arguments) := by
  rw [argumentLexemes]
  rfl

end Lexemes

/-- The lexemes of a program, each statement on a line of its own. -/
def programLexemes (statements : List Node) : List Lexeme :=
  statements.flatMap fun statement => statement.lexemes ++ [Lexeme.endOfLine]

end Node

/-- A text of blanks that end no line. -/
def IsSpace (text : List Char) : Prop :=
  ∀ character ∈ text, Text.isBlank character = true ∧ Segmentation.staysInLine character = true

/-- Whether a text consists of some lexemes, with blanks between and around them
at will. -/
inductive Spelled : List Lexeme → (text : List Char) → Prop
  | nil {space : List Char} (blank : IsSpace space) : Spelled [] space
  | cons {space text : List Char} {lexeme : Lexeme} {lexemes : List Lexeme}
      (blank : IsSpace space) (later : Spelled lexemes text) :
      Spelled (lexeme :: lexemes) (space ++ (lexeme.text ++ text))

namespace Node

/-- A program written without blanks. -/
def source (statements : List Node) : String :=
  String.ofList ((programLexemes statements).flatMap Lexeme.text)

theorem spelled_source (statements : List Node) :
    Spelled (programLexemes statements) (source statements).toList := by
  have none : IsSpace [] := fun _ member => absurd member List.not_mem_nil
  rw [source, String.toList_ofList]
  induction programLexemes statements with
  | nil => exact .nil none
  | cons lexeme later induction => exact .cons none induction

end Node
end PixelBrush
