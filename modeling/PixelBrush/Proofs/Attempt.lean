import PixelBrush.State.Step

/-! # How attempts succeed

A chain of attempts succeeds if each of them does, and a requirement is met if
its condition holds.  The same goes for attempts that fail without a reason.
-/

namespace PixelBrush

@[simp]
theorem ok_bind {ε α β : Type} (value : α) (next : α → Except ε β) :
    (Except.ok value >>= next) = next value := rfl

theorem exists_of_bind_ok {ε α β : Type} {attempt : Except ε α} {next : α → Except ε β}
    {result : β} (done : (attempt >>= next) = .ok result) :
    ∃ value, attempt = .ok value ∧ next value = .ok result := by
  cases attempt with
  | error failure => cases done
  | ok value => exact ⟨value, rfl, done⟩

theorem exists_of_bind_some {α β : Type} {attempt : Option α} {next : α → Option β} {result : β}
    (done : (attempt >>= next) = some result) :
    ∃ value, attempt = some value ∧ next value = some result :=
  Option.bind_eq_some_iff.mp done

theorem bind_eq_none_iff {α β : Type} {attempt : Option α} {next : α → Option β}
    {condition : Prop} (later : ∀ value, next value = none ↔ condition) :
    (attempt >>= next) = none ↔ attempt = none ∨ condition := by
  cases attempt with
  | none => simp
  | some value => simpa using later value

theorem pure_eq_none_iff {α : Type} (value : α) : (pure value : Option α) = none ↔ False := by
  simp

theorem Command.of_require_bind_ok {α : Type} {condition : Bool} {cause : Mishap} {node : Node}
    {next : Unit → Except Fault α} {result : α}
    (done : (Command.require condition cause node >>= next) = .ok result) :
    condition = true ∧ next () = .ok result := by
  cases condition with
  | false => cases done
  | true => exact ⟨rfl, done⟩

end PixelBrush
