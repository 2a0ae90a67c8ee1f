import PixelBrush.Proofs.Grammar.Completeness
import PixelBrush.Proofs.Grammar.Soundness
import PixelBrush.Proofs.NestingLimit

/-! # Parsing decides the grammar

The parser accepts the token lists that have a derivation, apart from those that
nest too deeply, and yields the statements of the only derivation there is.
-/

namespace PixelBrush
namespace Grammar

/-- Whether tokens of a kind stand between statements or behind all of them, and so
never within one. -/
def isMargin : TokenKind → Bool
  | .endOfLine | .comment | .endOfInput => true
  | _ => false

theorem isMargin_literalToken (kind : Kind) : isMargin (literalToken kind) = false := by
  cases kind <;> rfl

theorem isMargin_unaryToken (operator : UnaryOperator) :
    isMargin (unaryToken operator) = false := by
  cases operator <;> rfl

mutual

theorem Atom.not_isMargin : ∀ (atom : Atom), ∀ token ∈ atom.tokens, isMargin token.kind = false
  | .literal kind token => by simp [Atom.tokens, isMargin_literalToken]
  | .reference name => by simp [Atom.tokens, isMargin]
  | .call query name opening arguments closing => by
      simpa [Atom.tokens, or_imp, forall_and, isMargin] using arguments.not_isMargin
  | .enclosed opening inner closing => by
      simpa [Atom.tokens, or_imp, forall_and, isMargin] using inner.not_isMargin
  | .unary operator sign operand => by
      simpa [Atom.tokens, isMargin_unaryToken] using operand.not_isMargin

theorem Expression.not_isMargin :
    ∀ {level : Nat} (expression : Expression level), ∀ token ∈ expression.tokens,
      isMargin token.kind = false
  | _, .atom atom => by simpa [Expression.tokens] using atom.not_isMargin
  | _, .operand _ inner => by simpa [Expression.tokens] using inner.not_isMargin
  | _, .binary left _ _ sign right => by
      simpa [Expression.tokens, or_imp, forall_and, isMargin] using
        ⟨left.not_isMargin, right.not_isMargin⟩

theorem Arguments.not_isMargin :
    ∀ (arguments : Arguments), ∀ token ∈ arguments.tokens, isMargin token.kind = false
  | .none => by simp [Arguments.tokens]
  | .last argument => by simpa [Arguments.tokens] using argument.not_isMargin
  | .more argument comma others => by
      simpa [Arguments.tokens, or_imp, forall_and, isMargin] using
        ⟨argument.not_isMargin, others.not_isMargin⟩

end

theorem Statement.not_isMargin (statement : Statement) :
    ∀ token ∈ statement.tokens, isMargin token.kind = false := by
  cases statement with
  | label name colon => simp [Statement.tokens, isMargin]
  | assignment name arrow value =>
      simpa [Statement.tokens, isMargin] using value.not_isMargin
  | instruction command name opening arguments closing =>
      simpa [Statement.tokens, or_imp, forall_and, isMargin] using arguments.not_isMargin
  | jump word openingBracket target closingBracket opening condition closing =>
      simpa [Statement.tokens, or_imp, forall_and, isMargin] using condition.not_isMargin

theorem separates_of_not_isMargin {kind : TokenKind} (inside : isMargin kind = false) :
    Parser.separates kind = false := by
  cases kind <;> first | rfl | cases inside

theorem ne_endOfInput_of_not_isMargin {kind : TokenKind} (inside : isMargin kind = false) :
    kind ≠ .endOfInput := by
  rintro rfl
  cases inside

theorem Separator.ne_end (separators : List Separator) :
    ∀ token ∈ separators.map Subtype.val, token.kind ≠ .endOfInput := by
  intro token member
  obtain ⟨⟨_, kind | kind⟩, -, rfl⟩ := List.mem_map.mp member <;> simp [kind]

theorem Program.ne_end (program : Program) :
    ∀ token ∈ program.tokens, token.kind ≠ .endOfInput := by
  have statements : ∀ parts : List (Statement × List Separator),
      ∀ token ∈ Program.statementTokens parts, token.kind ≠ .endOfInput := by
    intro parts
    induction parts with
    | nil => simp [Program.statementTokens]
    | cons part later induction =>
        intro token member
        simp only [Program.statementTokens, List.mem_append] at member
        rcases member with inStatement | inSeparators | inLater
        · exact ne_endOfInput_of_not_isMargin (part.1.not_isMargin token inStatement)
        · exact Separator.ne_end part.2 token inSeparators
        · exact induction token inLater
  intro token member
  rcases List.mem_append.mp member with inLeading | inStatements
  · exact Separator.ne_end program.leading token inLeading
  · exact statements program.statements token inStatements

theorem exists_program_of_parseWithin {limit : Nat} {tokens : List Token} {statements : List Node}
    (read : parseWithin limit tokens = .ok statements) :
    ∃ rest, Parser.program limit tokens = .ok statements rest := by
  rw [parseWithin] at read
  cases program : Parser.program limit tokens with
  | error complaint rest =>
      rw [program] at read
      cases read
  | ok found rest =>
      rw [program] at read
      cases read
      exact ⟨rest, rfl⟩

theorem derivation_of_parseWithin {limit : Nat} {tokens : List Token} {statements : List Node}
    (read : parseWithin limit tokens = .ok statements) :
    ∃ derivation : Derivation tokens, derivation.val.trees = statements := by
  obtain ⟨rest, program⟩ := exists_program_of_parseWithin read
  obtain ⟨derivation, rfl, rfl, ended⟩ := program_sound program
  exact ⟨⟨derivation, (beforeEnd_append derivation.ne_end ended).symm⟩, rfl⟩

theorem parseWithin_of_derivation {tokens : List Token} (derivation : Derivation tokens) :
    ∃ enough, ∀ limit, enough ≤ limit →
      parseWithin limit tokens = .ok derivation.val.trees := by
  obtain ⟨program, derived⟩ := derivation
  obtain ⟨rest, split, ended⟩ := exists_beforeEnd_append tokens
  obtain ⟨enough, reads⟩ := program.complete
  refine ⟨enough, fun limit large => ?_⟩
  have read := reads limit large rest ended
  rw [derived, split] at read
  rw [parseWithin, read]

/-- A limit can only make parsing fail, and only because of nesting. -/
theorem parseWithin_cutsOff {limit more : Nat} (atMost : limit ≤ more) (tokens : List Token) :
    (∃ location, parseWithin limit tokens = .error ⟨.nestedTooDeeply, location⟩) ∨
      parseWithin more tokens = parseWithin limit tokens := by
  rcases Parser.program_cutsOff atMost tokens with ⟨location, rest, failed⟩ | same
  · exact .inl ⟨location, by rw [parseWithin, failed]⟩
  · exact .inr (by rw [parseWithin, parseWithin, same])

/-- Parsing yields a list of statements exactly if the tokens before the end of
the input derive it, unless it finds them nested too deeply, which no large
enough limit does.  There is only one derivation. -/
theorem parse_iff_derivation (tokens : List Token) (statements : List Node) :
    (parse tokens = .ok statements ↔
      (∃ derivation : Derivation tokens, derivation.val.trees = statements) ∧
        ∀ location, parse tokens ≠ .error ⟨.nestedTooDeeply, location⟩) ∧
    ((∃ derivation : Derivation tokens, derivation.val.trees = statements) ↔
      ∃ enough, ∀ limit, enough ≤ limit → parseWithin limit tokens = .ok statements) ∧
    Subsingleton (Derivation tokens) := by
  refine ⟨⟨fun read => ?_, ?_⟩, ⟨?_, ?_⟩, ?_⟩
  · exact ⟨derivation_of_parseWithin read, fun location failed => by cases read.symm.trans failed⟩
  · rintro ⟨⟨derivation, rfl⟩, notTooDeep⟩
    obtain ⟨enough, reads⟩ := parseWithin_of_derivation derivation
    rcases parseWithin_cutsOff (Nat.le_max_left Node.nestingLimit enough) tokens with
      ⟨location, failed⟩ | same
    · exact (notTooDeep location failed).elim
    · exact same.symm.trans (reads _ (Nat.le_max_right Node.nestingLimit enough))
  · rintro ⟨derivation, rfl⟩
    exact parseWithin_of_derivation derivation
  · rintro ⟨enough, reads⟩
    exact derivation_of_parseWithin (reads enough (Nat.le_refl enough))
  · exact ⟨fun first second =>
      Subtype.ext (Program.eq_of_tokens (first.property.trans second.property.symm))⟩

end Grammar
end PixelBrush
