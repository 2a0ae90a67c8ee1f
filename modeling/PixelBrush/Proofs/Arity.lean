import Mathlib.Data.List.Basic
import PixelBrush.Proofs.Attempt

/-! # Wrong numbers of arguments

A query with a wrong number of arguments is refused before any of them is
looked at, and so is a command, but for a check of whether the robot has been
spawned.
-/

namespace PixelBrush

theorem exists_of_length_eq_five {α : Type} {items : List α} (fits : items.length = 5) :
    ∃ first second third fourth fifth, items = [first, second, third, fourth, fifth] := by
  match items, fits with
  | [first, second, third, fourth, fifth], _ =>
      exact ⟨first, second, third, fourth, fifth, rfl⟩

theorem Evaluation.answer_of_length_ne (view : View) (node : Node)
    (number : Node → Except Fault Int) (color : Node → Except Fault Color) {query : Query}
    {arguments : List Node} (wrong : arguments.length ≠ query.arity) :
    answer view node number color query arguments =
      .error (.ofMishap (.arity query.title query.arity arguments.length) node) := by
  unfold answer
  split <;> first | exact absurd rfl wrong | rfl

namespace Command

/-- Whether the robot has been spawned decides on a command before its arguments do. -/
def spawnCheck (robot : Robot) (node : Node) (command : Command) : Except Fault Unit :=
  if command = .spawn then require (!robot.spawned) .spawnRepeated node
  else require robot.spawned .spawnMissing node

theorem perform_of_length_ne (settings : Settings) (robot : Robot) (node : Node)
    (number : Node → Except Fault Int) (color : Node → Except Fault Color) {command : Command}
    {arguments : List Node} (wrong : arguments.length ≠ command.arity) :
    command.perform settings robot node number color arguments =
      (spawnCheck robot node command >>= fun _ =>
        .error (.ofMishap (.arity command.title command.arity arguments.length) node)) := by
  unfold perform spawnCheck
  by_cases isSpawn : command = .spawn
  · rw [if_pos isSpawn, if_pos isSpawn]
    refine congrArg _ (funext fun checked => ?_)
    split <;> first | exact absurd rfl wrong | rfl
  · rw [if_neg isSpawn, if_neg isSpawn]
    refine congrArg _ (funext fun checked => ?_)
    split <;> first | exact absurd rfl wrong | rfl

end Command
end PixelBrush
