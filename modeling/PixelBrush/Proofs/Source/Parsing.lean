import PixelBrush.Proofs.Grammar.Unambiguity
import PixelBrush.Proofs.Parser
import PixelBrush.Proofs.Source

/-! # Written programs are parsed back

From the tokens of a written tree the parser builds a tree that differs from it
in its locations at most.  The budget that this takes is the nesting of the
tree.
-/

namespace PixelBrush

open Grammar Reading

section Tokens

variable {tokens : List Token} {token : Token} {inner lexemes : List Lexeme}

theorem exists_enclosed (same : tokens.map Token.lexeme = Lexeme.enclosed inner) :
    ∃ opening within closing, tokens = opening :: (within ++ [closing]) ∧
      opening.kind = .leftParenthesis ∧ closing.kind = .rightParenthesis ∧
      within.map Token.lexeme = inner := by
  obtain ⟨opening, later, rfl, opens, rest⟩ := List.map_eq_cons_iff.mp same
  obtain ⟨within, last, rfl, insideSame, lastSame⟩ := List.map_eq_append_iff.mp rest
  obtain ⟨closing, none, rfl, closes, noneSame⟩ := List.map_eq_cons_iff.mp lastSame
  obtain rfl := List.map_eq_nil_iff.mp noneSame
  exact ⟨opening, within, closing, rfl, congrArg Lexeme.kind opens, congrArg Lexeme.kind closes,
    insideSame⟩

end Tokens

section Atoms

variable {read : Node} {enough budget floor : Nat} {tokens within rest : List Token}

/-- Whether tokens are read as an atom with a large enough budget. -/
def ReadAsAtom (read : Node) (enough : Nat) (tokens : List Token) : Prop :=
  ∀ budget, enough ≤ budget → ∀ rest, Parser.atom budget (tokens ++ rest) = .ok read rest

/-- Whether tokens are read as an expression with a large enough budget. -/
def ReadAsExpression (read : Node) (enough : Nat) (tokens : List Token) : Prop :=
  ∀ budget, enough ≤ budget → ∀ rest, Settled 0 rest →
    Parser.expression budget 0 (tokens ++ rest) = .ok read rest

theorem ReadAsAtom.read_expression (atom : ReadAsAtom read enough tokens)
    (large : enough + 1 ≤ budget) (settled : Settled floor rest) :
    Parser.expression budget floor (tokens ++ rest) = .ok read rest := by
  cases budget with
  | zero => omega
  | succ budget =>
      rw [Parser.expression, bind_of_ok (atom budget (by omega) rest), remaining_bind,
        Parser.operators_settled _ _ _ _ settled]

theorem ReadAsAtom.expression (atom : ReadAsAtom read enough tokens) :
    ReadAsExpression read (enough + 1) tokens :=
  fun _ large _ settled => atom.read_expression large settled

theorem ReadAsExpression.enclosed {opening closing : Token}
    (inside : ReadAsExpression read enough within) (opens : opening.kind = .leftParenthesis)
    (closes : closing.kind = .rightParenthesis) :
    ReadAsAtom read (enough + 1) (opening :: (within ++ [closing])) := by
  intro budget large rest
  cases budget with
  | zero => omega
  | succ budget =>
      have readInside := inside budget (by omega) (closing :: rest)
        (settled_of_closing ⟨closing, closes⟩ rest)
      rw [List.cons_append, List.append_assoc, List.cons_append, List.nil_append,
        Parser.atom_enclosed _ opens, bind_of_ok readInside,
        bind_of_ok (expect_of_kind closes rest)]
      rfl

theorem readAsAtom_literal {kind : Kind} {token : Token}
    (isLiteral : token.kind = literalToken kind) :
    ReadAsAtom (.literal kind.name token.value token.location) 1 [token] := by
  intro budget large rest
  cases budget with
  | zero => omega
  | succ budget => exact Parser.atom_literal budget isLiteral

theorem readAsAtom_reference {token : Token} (isName : token.kind = .identifier) :
    ReadAsAtom (.reference ⟨token.value⟩ token.location) 1 [token] := by
  intro budget large rest
  cases budget with
  | zero => omega
  | succ budget => exact Parser.atom_reference budget isName

theorem ReadAsAtom.unary {operator : UnaryOperator} {sign : Token}
    (operand : ReadAsAtom read enough within) (isSign : sign.kind = unaryToken operator) :
    ReadAsAtom (.unary operator.text read sign.location) (enough + 1) (sign :: within) := by
  intro budget large rest
  cases budget with
  | zero => omega
  | succ budget =>
      rw [List.cons_append, Parser.atom_unary _ isSign,
        bind_of_ok (operand budget (by omega) rest)]
      rfl

theorem ReadAsAtom.binary {operator : BinaryOperator} {sign : Token} {left right : Node}
    {enoughLeft enoughRight : Nat} {leftTokens rightTokens : List Token}
    (leftRead : ReadAsAtom left enoughLeft leftTokens)
    (rightRead : ReadAsAtom right enoughRight rightTokens)
    (isSign : sign.kind = .binary operator) :
    ReadAsExpression (.binary operator.text left right sign.location)
      (max (enoughLeft + 1) (enoughRight + 2)) (leftTokens ++ sign :: rightTokens) := by
  intro budget large rest settled
  cases budget with
  | zero => omega
  | succ budget =>
      have positive : 0 < operator.precedence := by cases operator <;> decide
      have readRight : Parser.expression budget operator.precedence (rightTokens ++ rest) =
          .ok right rest :=
        rightRead.read_expression (by omega) (settled.mono (Nat.zero_le _))
      rw [List.append_assoc, List.cons_append, Parser.expression,
        bind_of_ok (leftRead budget (by omega) _), remaining_bind, List.length_cons,
        Parser.operators_join _ _ _ _ isSign positive, bind_of_ok readRight,
        Parser.operators_settled _ _ _ _ settled]

/-- Whether tokens are read as arguments with a large enough budget, up to a
closing parenthesis. -/
def ReadAsArguments (read : List Node) (enough : Nat) (tokens : List Token) : Prop :=
  ∀ budget, enough ≤ budget → ∀ owner rounds, tokens.length ≤ rounds →
    ∀ closing rest, closing.kind = .rightParenthesis →
      Parser.argumentList (Parser.expression budget 0) owner rounds
        (tokens ++ closing :: rest) = .ok read rest

theorem ReadAsArguments.read_arguments {arguments : List Node} {closing : Token}
    (inside : ReadAsArguments arguments enough within)
    (closes : closing.kind = .rightParenthesis) (large : enough + 1 ≤ budget) (owner : String)
    (rest : List Token) :
    Parser.arguments budget owner (within ++ closing :: rest) = .ok arguments rest := by
  cases budget with
  | zero => omega
  | succ budget =>
      rw [Parser.arguments, remaining_bind]
      exact inside budget (by omega) owner _ (by simp) closing rest closes

theorem ReadAsArguments.call {arguments : List Node} {query : Query}
    {name opening closing : Token} (inside : ReadAsArguments arguments enough within)
    (isQuery : name.kind = .query query) (opens : opening.kind = .leftParenthesis)
    (closes : closing.kind = .rightParenthesis) :
    ReadAsAtom (.call query.code arguments name.location) (enough + 3)
      (name :: opening :: (within ++ [closing])) := by
  intro budget large rest
  obtain ⟨budget, rfl⟩ : ∃ fewer, budget = fewer + 2 := ⟨budget - 2, by omega⟩
  have readInside := inside.read_arguments closes (by omega : enough + 1 ≤ budget) name.text rest
  rw [List.cons_append, List.cons_append, List.append_assoc, List.cons_append, List.nil_append,
    Parser.atom_call _ isQuery, Parser.call_cons, bind_of_ok (expect_of_kind opens _),
    bind_of_ok readInside, isQuery]
  rfl

end Atoms

section Arguments

variable {read : Node} {reads : List Node} {enough enoughOthers : Nat}
  {tokens otherTokens : List Token}

/-- Whether the first of some tokens can start an expression. -/
def StartsExpression (tokens : List Token) : Prop :=
  ∃ first later, tokens = first :: later ∧ startsAtom first.kind = true

/-- An argument is read, and what comes behind it decides what follows. -/
theorem ReadAsExpression.read_argument {budget rounds : Nat} {rest : List Token}
    (argument : ReadAsExpression read enough tokens) (starts : StartsExpression tokens)
    (large : enough ≤ budget) (settled : Settled 0 rest) (owner : String) :
    Parser.argumentList (Parser.expression budget 0) owner (rounds + 1) (tokens ++ rest) =
      (accept .comma >>= fun accepted => do
        if accepted then
          let others ← Parser.argumentList (Parser.expression budget 0) owner rounds
          pure (read :: others)
        else
          let _ ← expect .rightParenthesis (.separatorWanted owner)
          pure [read]) rest := by
  obtain ⟨first, later, rfl, begins⟩ := starts
  have notClosing : first.kind ≠ .rightParenthesis := by
    intro kind
    rw [kind] at begins
    cases begins
  have notEnd : first.kind ≠ .endOfInput := by
    intro kind
    rw [kind] at begins
    cases begins
  have readFirst := argument budget large rest settled
  rw [List.cons_append] at readFirst ⊢
  rw [Parser.argumentList_item _ _ _ notClosing notEnd, bind_of_ok readFirst]

theorem StartsExpression.length_pos (starts : StartsExpression tokens) : 0 < tokens.length := by
  obtain ⟨first, later, rfl, -⟩ := starts
  exact Nat.zero_lt_succ _

theorem readAsArguments_nil : ReadAsArguments [] 0 [] :=
  fun _ _ owner rounds _ _ _ closes => Parser.argumentList_closing _ owner rounds closes

theorem ReadAsExpression.last (argument : ReadAsExpression read enough tokens)
    (starts : StartsExpression tokens) : ReadAsArguments [read] enough tokens := by
  intro budget large owner rounds many closing rest closes
  have some := starts.length_pos
  obtain ⟨rounds, rfl⟩ : ∃ fewer, rounds = fewer + 1 := ⟨rounds - 1, by omega⟩
  have notComma : closing.kind ≠ .comma := by simp [closes]
  rw [argument.read_argument starts large (settled_of_closing ⟨closing, closes⟩ rest) owner,
    bind_of_ok (accept_of_other notComma rest), if_neg Bool.false_ne_true,
    bind_of_ok (expect_of_kind closes rest)]
  rfl

theorem ReadAsExpression.more {comma : Token} (argument : ReadAsExpression read enough tokens)
    (starts : StartsExpression tokens) (isComma : comma.kind = .comma)
    (others : ReadAsArguments reads enoughOthers otherTokens) :
    ReadAsArguments (read :: reads) (max enough enoughOthers)
      (tokens ++ comma :: otherTokens) := by
  intro budget large owner rounds many closing rest closes
  simp only [List.length_append, List.length_cons] at many
  obtain ⟨rounds, rfl⟩ : ∃ fewer, rounds = fewer + 1 := ⟨rounds - 1, by omega⟩
  have readOthers := others budget (by omega) owner rounds (by omega) closing rest closes
  rw [List.append_assoc, List.cons_append,
    argument.read_argument starts (by omega) (settled_of_comma ⟨comma, isComma⟩ _) owner,
    bind_of_ok (accept_of_kind isComma _), if_pos rfl, bind_of_ok readOthers]
  rfl

end Arguments

section Trees

variable {node : Node} {nodes : List Node} {tokens : List Token}

/-- Whether tokens are read as an expression like a given one, with a budget of
its nesting. -/
def ReadLike (node : Node) (tokens : List Token) : Prop :=
  ∃ read, read.unlocated = node.unlocated ∧ ReadAsExpression read node.nesting tokens

theorem starts_of_lexemes {starts : TokenKind → Bool} {lexemes : List Lexeme}
    (begins : ∃ first later, lexemes = first :: later ∧ starts first.kind = true)
    (same : tokens.map Token.lexeme = lexemes) :
    ∃ first later, tokens = first :: later ∧ starts first.kind = true := by
  obtain ⟨lexeme, others, rfl, begins⟩ := begins
  obtain ⟨first, later, rfl, firstSame, -⟩ := List.map_eq_cons_iff.mp same
  rw [← firstSame] at begins
  exact ⟨first, later, rfl, begins⟩

theorem startsExpression_of_lexemes (formed : node.WellFormedExpression)
    (same : tokens.map Token.lexeme = node.lexemes) : StartsExpression tokens := by
  apply starts_of_lexemes _ same
  cases formed with
  | @literal value _ _ =>
      refine ⟨_, _, Node.lexemes_literal _ _ _, ?_⟩
      rw [Lexeme.kind_literal]
      cases value.kind <;> rfl
  | reference _ => exact ⟨_, _, Node.lexemes_reference _ _, rfl⟩
  | binary _ _ => exact ⟨_, _, Node.lexemes_binary _ _ _ _, rfl⟩
  | @unary operator _ _ _ =>
      refine ⟨_, _, Node.lexemes_unary _ _ _, ?_⟩
      cases operator <;> rfl
  | call _ => exact ⟨_, _, Node.lexemes_call _ _ _, rfl⟩

theorem exists_readAsArguments (formed : ∀ node ∈ nodes, node.WellFormedExpression)
    (each : ∀ node ∈ nodes, ∀ tokens, tokens.map Token.lexeme = node.lexemes →
      ReadLike node tokens)
    (same : tokens.map Token.lexeme = Node.argumentLexemes nodes) :
    ∃ reads, Node.unlocatedAll reads = Node.unlocatedAll nodes ∧
      ReadAsArguments reads (Node.nestingOfAll nodes) tokens := by
  induction nodes generalizing tokens with
  | nil =>
      obtain rfl := List.map_eq_nil_iff.mp same
      exact ⟨[], rfl, readAsArguments_nil⟩
  | cons first others induction =>
      obtain ⟨firstFormed, othersFormed⟩ := List.forall_mem_cons.mp formed
      obtain ⟨readsFirst, readsOthers⟩ := List.forall_mem_cons.mp each
      cases others with
      | nil =>
          rw [Node.argumentLexemes_singleton] at same
          obtain ⟨read, like, argument⟩ := readsFirst tokens same
          refine ⟨[read], by simp [Node.unlocatedAll, like], ?_⟩
          have last := argument.last (startsExpression_of_lexemes firstFormed same)
          simpa [Node.nestingOfAll] using last
      | cons second more =>
          rw [Node.argumentLexemes_cons_cons] at same
          obtain ⟨firstTokens, rest, rfl, firstSame, restSame⟩ := List.map_eq_append_iff.mp same
          obtain ⟨comma, otherTokens, rfl, isComma, othersSame⟩ :=
            List.map_eq_cons_iff.mp restSame
          obtain ⟨read, like, argument⟩ := readsFirst firstTokens firstSame
          obtain ⟨reads, othersLike, arguments⟩ := induction othersFormed readsOthers othersSame
          have bothLike : Node.unlocatedAll (read :: reads) =
              Node.unlocatedAll (first :: second :: more) := by
            rw [Node.unlocatedAll, Node.unlocatedAll, like, othersLike]
          refine ⟨read :: reads, bothLike, ?_⟩
          have starts := startsExpression_of_lexemes firstFormed firstSame
          exact argument.more starts (congrArg Lexeme.kind isComma) arguments

theorem exists_single {lexeme : Lexeme} (same : tokens.map Token.lexeme = [lexeme]) :
    ∃ token, tokens = [token] ∧ token.lexeme = lexeme := by
  obtain ⟨token, none, rfl, isLexeme, noneSame⟩ := List.map_eq_cons_iff.mp same
  obtain rfl := List.map_eq_nil_iff.mp noneSame
  exact ⟨token, rfl, isLexeme⟩

/-- An expression in parentheses is read as an atom, so that operators on either side
leave it whole. -/
theorem exists_operand
    (reads : ∀ {inner : List Token}, inner.map Token.lexeme = node.lexemes → ReadLike node inner)
    (same : tokens.map Token.lexeme = Lexeme.enclosed node.lexemes) :
    ∃ read, read.unlocated = node.unlocated ∧ ReadAsAtom read (node.nesting + 1) tokens := by
  obtain ⟨opening, within, closing, rfl, opens, closes, inside⟩ := exists_enclosed same
  obtain ⟨read, like, expression⟩ := reads inside
  exact ⟨read, like, expression.enclosed opens closes⟩

/-- An expression is read from its lexemes, wherever these stand. -/
theorem readLike_expression (formed : node.WellFormedExpression)
    (same : tokens.map Token.lexeme = node.lexemes) : ReadLike node tokens := by
  induction formed generalizing tokens with
  | @literal value location writable =>
      rw [Node.lexemes_literal] at same
      obtain ⟨token, rfl, isLiteral⟩ := exists_single same
      have kind : token.kind = literalToken value.kind := by
        rw [← Lexeme.kind_literal, ← isLiteral]
        rfl
      have denotes : token.value = some value := by
        rw [← Lexeme.value_literal, ← isLiteral]
        rfl
      refine ⟨_, ?_, (readAsAtom_literal kind).expression⟩
      rw [Node.unlocated, Node.unlocated, denotes]
  | @reference name location identifier =>
      rw [Node.lexemes_reference] at same
      obtain ⟨token, rfl, isName⟩ := exists_single same
      have denotes : token.value = some (.string name) := congrArg Lexeme.value isName
      refine ⟨_, ?_, (readAsAtom_reference (congrArg Lexeme.kind isName)).expression⟩
      rw [Node.unlocated, Node.unlocated, denotes]
      rfl
  | @binary operator left right location leftFormed rightFormed leftReads rightReads =>
      rw [Node.lexemes_binary] at same
      obtain ⟨leftTokens, rest, rfl, leftSame, restSame⟩ := List.map_eq_append_iff.mp same
      obtain ⟨sign, rightTokens, rfl, isSign, rightSame⟩ := List.map_eq_cons_iff.mp restSame
      obtain ⟨leftRead, leftLike, leftAtom⟩ := exists_operand leftReads leftSame
      obtain ⟨rightRead, rightLike, rightAtom⟩ := exists_operand rightReads rightSame
      refine ⟨_, ?_, leftAtom.binary rightAtom (congrArg Lexeme.kind isSign)⟩
      rw [Node.unlocated, Node.unlocated, leftLike, rightLike]
  | @unary operator operand location operandFormed reads =>
      rw [Node.lexemes_unary] at same
      obtain ⟨sign, rest, rfl, isSign, restSame⟩ := List.map_eq_cons_iff.mp same
      obtain ⟨read, like, atom⟩ := exists_operand reads restSame
      refine ⟨_, ?_, (atom.unary (congrArg Lexeme.kind isSign)).expression⟩
      rw [Node.unlocated, Node.unlocated, like]
  | @call query arguments location each reads =>
      rw [Node.lexemes_call] at same
      obtain ⟨name, rest, rfl, isQuery, restSame⟩ := List.map_eq_cons_iff.mp same
      obtain ⟨opening, within, closing, rfl, opens, closes, inside⟩ := exists_enclosed restSame
      obtain ⟨read, like, readArguments⟩ :=
        exists_readAsArguments each (fun argument member _ => reads argument member) inside
      have atom := readArguments.call (congrArg Lexeme.kind isQuery) opens closes
      refine ⟨_, ?_, atom.expression⟩
      rw [Node.unlocated, Node.unlocated, like]

/-- Whether tokens are read as a statement like a given one, with a budget of its
nesting. -/
def ReadLikeStatement (node : Node) (tokens : List Token) : Prop :=
  ∃ read, read.unlocated = node.unlocated ∧
    ∀ budget, node.nesting ≤ budget → ∀ rest, Settled 0 rest →
      Parser.statement budget (tokens ++ rest) = .ok read rest

theorem startsStatement_of_lexemes (formed : node.WellFormedStatement)
    (same : tokens.map Token.lexeme = node.lexemes) :
    ∃ first later, tokens = first :: later ∧ startsStatement first.kind = true := by
  apply starts_of_lexemes _ same
  cases formed with
  | label _ => exact ⟨_, _, Node.lexemes_label _ _, rfl⟩
  | assignment _ _ => exact ⟨_, _, Node.lexemes_assignment _ _ _, rfl⟩
  | instruction _ => exact ⟨_, _, Node.lexemes_instruction _ _ _, rfl⟩
  | jump _ _ => exact ⟨_, _, Node.lexemes_jump _ _ _, rfl⟩

theorem readLike_statement (formed : node.WellFormedStatement)
    (same : tokens.map Token.lexeme = node.lexemes) : ReadLikeStatement node tokens := by
  cases formed with
  | @label name location identifier =>
      rw [Node.lexemes_label] at same
      obtain ⟨word, rest, rfl, isName, restSame⟩ := List.map_eq_cons_iff.mp same
      obtain ⟨colon, rfl, isColon⟩ := exists_single restSame
      have wordKind : word.kind = .identifier := congrArg Lexeme.kind isName
      have colonKind : colon.kind = .colon := congrArg Lexeme.kind isColon
      have denotes : word.value = some (.string name) := congrArg Lexeme.value isName
      refine ⟨.label ⟨word.value⟩ word.location, ?_, fun budget _ rest _ => ?_⟩
      · rw [Node.unlocated, Node.unlocated, denotes]
        rfl
      · rw [List.cons_append, Parser.statement_named _ wordKind, List.cons_append,
          bind_of_ok (accept_of_kind colonKind _), if_pos rfl]
        rfl
  | @assignment name value location identifier valueFormed =>
      rw [Node.lexemes_assignment] at same
      obtain ⟨word, rest, rfl, isName, restSame⟩ := List.map_eq_cons_iff.mp same
      obtain ⟨arrow, valueTokens, rfl, isArrow, valueSame⟩ := List.map_eq_cons_iff.mp restSame
      obtain ⟨read, like, reads⟩ := readLike_expression valueFormed valueSame
      have wordKind : word.kind = .identifier := congrArg Lexeme.kind isName
      have arrowKind : arrow.kind = .arrow := congrArg Lexeme.kind isArrow
      have notColon : arrow.kind ≠ .colon := by simp [arrowKind]
      have denotes : word.value = some (.string name) := congrArg Lexeme.value isName
      refine ⟨.assignment ⟨word.value⟩ read word.location, ?_, fun budget large rest settled => ?_⟩
      · rw [Node.unlocated, Node.unlocated, denotes, like]
        rfl
      · rw [List.cons_append, Parser.statement_named _ wordKind, List.cons_append,
          bind_of_ok (accept_of_other notColon _), if_neg Bool.false_ne_true,
          bind_of_ok (accept_of_kind arrowKind _), if_pos rfl,
          bind_of_ok (reads budget large rest settled)]
        rfl
  | @instruction command arguments location each =>
      rw [Node.lexemes_instruction] at same
      obtain ⟨word, rest, rfl, isCommand, restSame⟩ := List.map_eq_cons_iff.mp same
      obtain ⟨opening, within, closing, rfl, opens, closes, inside⟩ := exists_enclosed restSame
      obtain ⟨read, like, reads⟩ := exists_readAsArguments each
        (fun argument member _ => readLike_expression (each argument member)) inside
      have wordKind : word.kind = .command command := congrArg Lexeme.kind isCommand
      refine ⟨.instruction command.code read word.location, ?_, fun budget large rest _ => ?_⟩
      · rw [Node.unlocated, Node.unlocated, like]
      · rw [List.cons_append, Parser.statement_instruction _ wordKind, List.cons_append,
          bind_of_ok (expect_of_kind opens _), List.append_assoc, List.cons_append,
          List.nil_append, bind_of_ok (reads.read_arguments closes large word.text rest)]
        rfl
  | @jump target condition location identifier conditionFormed =>
      rw [Node.lexemes_jump] at same
      obtain ⟨word, rest, rfl, isJump, restSame⟩ := List.map_eq_cons_iff.mp same
      obtain ⟨openingBracket, rest, rfl, opensBracket, restSame⟩ :=
        List.map_eq_cons_iff.mp restSame
      obtain ⟨label, rest, rfl, isLabel, restSame⟩ := List.map_eq_cons_iff.mp restSame
      obtain ⟨closingBracket, rest, rfl, closesBracket, restSame⟩ :=
        List.map_eq_cons_iff.mp restSame
      obtain ⟨opening, within, closing, rfl, opens, closes, inside⟩ := exists_enclosed restSame
      obtain ⟨read, like, reads⟩ := readLike_expression conditionFormed inside
      have wordKind : word.kind = .jump := congrArg Lexeme.kind isJump
      have bracketOpens : openingBracket.kind = .leftBracket := congrArg Lexeme.kind opensBracket
      have labelKind : label.kind = .identifier := congrArg Lexeme.kind isLabel
      have bracketCloses : closingBracket.kind = .rightBracket :=
        congrArg Lexeme.kind closesBracket
      have denotes : label.value = some (.string target) := congrArg Lexeme.value isLabel
      refine ⟨.jump ⟨label.value⟩ read word.location, ?_, fun budget large rest _ => ?_⟩
      · rw [Node.unlocated, Node.unlocated, denotes, like]
        rfl
      · have readInside := reads budget large (closing :: rest)
          (settled_of_closing ⟨closing, closes⟩ rest)
        rw [List.cons_append, Parser.statement_jump _ wordKind]
        simp only [List.cons_append, List.append_assoc, List.nil_append]
        rw [bind_of_ok (expect_of_kind bracketOpens _), bind_of_ok (expect_of_kind labelKind _),
          bind_of_ok (expect_of_kind bracketCloses _), bind_of_ok (expect_of_kind opens _),
          bind_of_ok readInside, bind_of_ok (expect_of_kind closes rest)]
        rfl

/-- What is left of some tokens behind the line ends and comments in front. -/
def behindSeparators (tokens : List Token) : List Token :=
  tokens.dropWhile fun token => Parser.separates token.kind

theorem behindSeparators_of_endOfLine {token : Token} (isEnd : token.kind = .endOfLine) :
    behindSeparators (token :: tokens) = behindSeparators tokens := by
  have passed : Parser.separates token.kind = true := by
    rw [isEnd]
    rfl
  rw [behindSeparators, List.dropWhile_cons, if_pos passed]
  rfl

theorem behindSeparators_of_other {token : Token} (other : Parser.separates token.kind = false) :
    behindSeparators (token :: tokens) = token :: tokens := by
  rw [behindSeparators, List.dropWhile_cons, other, if_neg Bool.false_ne_true]

theorem length_behindSeparators (tokens : List Token) :
    (behindSeparators tokens).length ≤ tokens.length :=
  (List.dropWhile_suffix _).length_le

/-- Whether tokens are read as the lines of some statements, up to the end of the
input. -/
def ReadAsLines (reads : List Node) (enough : Nat) (tokens : List Token) : Prop :=
  ∀ budget, enough ≤ budget → ∀ rounds, (behindSeparators tokens).length ≤ rounds →
    ∃ rest, Parser.statements budget rounds (behindSeparators tokens) = .ok reads rest

theorem ReadAsLines.cons {read : Node} {reads : List Node} {enoughFirst enough : Nat}
    {first ended : Token} {later others : List Token}
    (starts : startsStatement first.kind = true)
    (line : ∀ budget, enoughFirst ≤ budget → ∀ rest, Settled 0 rest →
      Parser.statement budget (first :: later ++ rest) = .ok read rest)
    (isEnd : ended.kind = .endOfLine) (lines : ReadAsLines reads enough others) :
    ReadAsLines (read :: reads) (max enoughFirst enough) (first :: later ++ ended :: others) := by
  have notSeparator : Parser.separates first.kind = false := by
    obtain kind | ⟨command, kind⟩ | kind := startsStatement_iff.mp starts <;> rw [kind] <;> rfl
  have notEnd : first.kind ≠ .endOfInput := by
    intro kind
    rw [kind] at starts
    cases starts
  intro budget large rounds many
  rw [List.cons_append, behindSeparators_of_other notSeparator] at many ⊢
  simp only [List.length_cons, List.length_append] at many
  obtain ⟨rounds, rfl⟩ : ∃ fewer, rounds = fewer + 1 := ⟨rounds - 1, by omega⟩
  have shorter := length_behindSeparators others
  obtain ⟨rest, readOthers⟩ := lines budget (by omega) rounds (by omega)
  have readFirst := line budget (by omega) (ended :: others)
    (settled_of_kind ⟨ended, isEnd⟩ 0 others (by simp))
  have passes : Parser.separators (ended :: others) = .ok () (behindSeparators others) := by
    rw [← behindSeparators_of_endOfLine isEnd]
    rfl
  refine ⟨rest, ?_⟩
  rw [List.cons_append] at readFirst
  rw [Parser.statements_cons _ _ notEnd, bind_of_ok readFirst, bind_of_ok passes,
    bind_of_ok readOthers]
  rfl

/-- The lines of a program are read up to the end of the input. -/
theorem exists_readAsLines (formed : ∀ node ∈ nodes, node.WellFormedStatement)
    (same : tokens.map Token.lexeme =
      Node.programLexemes nodes ++ [Lexeme.endOfLine, Lexeme.endOfInput]) :
    ∃ reads, Node.unlocatedAll reads = Node.unlocatedAll nodes ∧
      ReadAsLines reads (Node.nestingOfAll nodes) tokens := by
  induction nodes generalizing tokens with
  | nil =>
      obtain ⟨ended, rest, rfl, isEnd, restSame⟩ := List.map_eq_cons_iff.mp same
      obtain ⟨last, rfl, isLast⟩ := exists_single restSame
      have lastKind : last.kind = .endOfInput := congrArg Lexeme.kind isLast
      have other : Parser.separates last.kind = false := by
        rw [lastKind]
        rfl
      refine ⟨[], rfl, fun budget _ rounds _ => ⟨[last], ?_⟩⟩
      rw [behindSeparators_of_endOfLine (congrArg Lexeme.kind isEnd),
        behindSeparators_of_other other]
      exact Parser.statements_end budget rounds lastKind
  | cons node others induction =>
      obtain ⟨nodeFormed, othersFormed⟩ := List.forall_mem_cons.mp formed
      have line : Node.programLexemes (node :: others) =
          node.lexemes ++ Lexeme.endOfLine :: Node.programLexemes others := by
        simp [Node.programLexemes]
      rw [line, List.append_assoc, List.cons_append] at same
      obtain ⟨nodeTokens, rest, rfl, nodeSame, restSame⟩ := List.map_eq_append_iff.mp same
      obtain ⟨ended, otherTokens, rfl, isEnd, othersSame⟩ := List.map_eq_cons_iff.mp restSame
      obtain ⟨first, later, rfl, starts⟩ := startsStatement_of_lexemes nodeFormed nodeSame
      obtain ⟨read, like, reads⟩ := readLike_statement nodeFormed nodeSame
      obtain ⟨readOthers, othersLike, lines⟩ := induction othersFormed othersSame
      refine ⟨read :: readOthers, ?_, lines.cons starts reads (congrArg Lexeme.kind isEnd)⟩
      rw [Node.unlocatedAll, Node.unlocatedAll, like, othersLike]

end Trees

/-- From the tokens of a written program, the parser builds that program. -/
theorem parseWithin_of_lexemes {statements : List Node} {tokens : List Token}
    (formed : ∀ statement ∈ statements, statement.WellFormedStatement)
    (same : tokens.map Token.lexeme =
      Node.programLexemes statements ++ [Lexeme.endOfLine, Lexeme.endOfInput]) :
    ∃ read, Node.unlocatedAll read = Node.unlocatedAll statements ∧
      ∀ limit, Node.nestingOfAll statements ≤ limit → parseWithin limit tokens = .ok read := by
  obtain ⟨read, like, lines⟩ := exists_readAsLines formed same
  refine ⟨read, like, fun limit large => ?_⟩
  obtain ⟨rest, reads⟩ := lines limit large _ (Nat.le_refl _)
  have passes : Parser.separators tokens = .ok () (behindSeparators tokens) := rfl
  have program : Parser.program limit tokens = .ok read rest := by
    rw [Parser.program, bind_of_ok passes, remaining_bind]
    exact reads
  rw [parseWithin, program]

end PixelBrush
