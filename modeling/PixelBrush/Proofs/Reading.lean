import PixelBrush.Token.Reading

/-! # How readings succeed and fail

A chain of readings succeeds if each of them does, the next one from where the
last one has stopped.  It fails where the first of them fails.
-/

namespace PixelBrush
namespace Reading

variable {α β : Type} {tokens middle rest : List Token} {complaint : Complaint}

theorem bind_eq (reading : Reading α) (next : α → Reading β) (tokens : List Token) :
    (reading >>= next) tokens = match reading tokens with
      | .ok result left => next result left
      | .error complaint left => .error complaint left := by
  change EStateM.bind reading next tokens = _
  unfold EStateM.bind
  cases reading tokens <;> rfl

theorem bind_of_ok {reading : Reading α} {next : α → Reading β} {result : α}
    (read : reading tokens = .ok result middle) :
    (reading >>= next) tokens = next result middle := by
  rw [bind_eq, read]

theorem bind_of_error {reading : Reading α} {next : α → Reading β} {complaint : Complaint}
    (failed : reading tokens = .error complaint middle) :
    (reading >>= next) tokens = .error complaint middle := by
  rw [bind_eq, failed]

theorem bind_ok {reading : Reading α} {next : α → Reading β} {result : β}
    (read : (reading >>= next) tokens = .ok result rest) :
    ∃ first middle, reading tokens = .ok first middle ∧ next first middle = .ok result rest := by
  rw [bind_eq] at read
  cases found : reading tokens with
  | ok first middle =>
      rw [found] at read
      exact ⟨first, middle, rfl, read⟩
  | error complaint left =>
      rw [found] at read
      cases read

theorem current?_bind (next : Option Token → Reading β) (tokens : List Token) :
    (current? >>= next) tokens = next tokens.head? tokens :=
  bind_of_ok rfl

theorem remaining_bind (next : Nat → Reading β) (tokens : List Token) :
    (remaining >>= next) tokens = next tokens.length tokens :=
  bind_of_ok rfl

theorem next_bind (token : Token) (next : Token → Reading β) (tokens : List Token) :
    (Reading.next >>= next) (token :: tokens) = next token tokens :=
  bind_of_ok rfl

theorem pure_ok {value result : α} (read : (pure value : Reading α) tokens = .ok result rest) :
    value = result ∧ tokens = rest := by
  cases read
  exact ⟨rfl, rfl⟩

theorem fail_not_ok {reason : Reason} {result : α} :
    (fail reason : Reading α) tokens ≠ .ok result rest := by
  intro read
  cases read

theorem expect_ok {kind : TokenKind} {reason : Reason} {token : Token}
    (read : expect kind reason tokens = .ok token rest) :
    token.kind = kind ∧ tokens = token :: rest := by
  cases tokens with
  | nil => cases read
  | cons first later =>
      by_cases fits : first.kind = kind
      · rw [expect, if_pos fits] at read
        cases read
        exact ⟨fits, rfl⟩
      · rw [expect, if_neg fits] at read
        cases read

theorem expect_of_kind {kind : TokenKind} {reason : Reason} {token : Token}
    (fits : token.kind = kind) (rest : List Token) :
    expect kind reason (token :: rest) = .ok token rest := by
  rw [expect, if_pos fits]

theorem accept_ok_true {kind : TokenKind} (read : accept kind tokens = .ok true rest) :
    ∃ token, token.kind = kind ∧ tokens = token :: rest := by
  cases tokens with
  | nil => cases read
  | cons first later =>
      by_cases fits : first.kind = kind
      · rw [accept, if_pos fits] at read
        cases read
        exact ⟨first, fits, rfl⟩
      · rw [accept, if_neg fits] at read
        cases read

theorem accept_ok_false {kind : TokenKind} (read : accept kind tokens = .ok false rest) :
    tokens = rest := by
  cases tokens with
  | nil =>
      cases read
      rfl
  | cons first later =>
      by_cases fits : first.kind = kind
      · rw [accept, if_pos fits] at read
        cases read
      · rw [accept, if_neg fits] at read
        cases read
        rfl

theorem accept_of_kind {kind : TokenKind} {token : Token} (fits : token.kind = kind)
    (rest : List Token) : accept kind (token :: rest) = .ok true rest := by
  rw [accept, if_pos fits]

theorem accept_of_other {kind : TokenKind} {token : Token} (differs : token.kind ≠ kind)
    (rest : List Token) : accept kind (token :: rest) = .ok false (token :: rest) := by
  rw [accept, if_neg differs]

theorem bind_error {reading : Reading α} {next : α → Reading β}
    (failed : (reading >>= next) tokens = .error complaint rest) :
    reading tokens = .error complaint rest ∨
      ∃ first middle, reading tokens = .ok first middle ∧
        next first middle = .error complaint rest := by
  rw [bind_eq] at failed
  cases found : reading tokens with
  | ok first middle =>
      rw [found] at failed
      exact .inr ⟨first, middle, rfl, failed⟩
  | error earlier left =>
      rw [found] at failed
      cases failed
      exact .inl rfl

theorem expect_error {kind : TokenKind} {reason : Reason}
    (failed : expect kind reason tokens = .error complaint rest) :
    rest = tokens ∧ complaint = ⟨reason, here tokens⟩ := by
  cases tokens with
  | nil =>
      cases failed
      exact ⟨rfl, rfl⟩
  | cons token later =>
      by_cases fits : token.kind = kind
      · rw [expect_of_kind fits] at failed
        cases failed
      · rw [expect, if_neg fits] at failed
        cases failed
        exact ⟨rfl, rfl⟩

theorem accept_not_error {kind : TokenKind} : accept kind tokens ≠ .error complaint rest := by
  intro failed
  cases tokens with
  | nil => cases failed
  | cons token later =>
      by_cases fits : token.kind = kind
      · rw [accept_of_kind fits] at failed
        cases failed
      · rw [accept_of_other fits] at failed
        cases failed

end Reading
end PixelBrush
