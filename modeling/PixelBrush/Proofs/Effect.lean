import PixelBrush.Proofs.Attempt

/-! # The effects of commands

A command that is carried out does one of seven things to the robot, and tells
the painter exactly that.  The checks that it has passed on the way are part
of its effect.
-/

namespace PixelBrush

/-- What becomes of a robot, and what the painter is told. -/
inductive Effect (settings : Settings) (robot : Robot) : Robot → Notification → Prop
  | spawn {x y : Int} (fresh : robot.spawned = false) (inside : settings.inBounds x y = true) :
      Effect settings robot { robot with x := x, y := y, spawned := true } (.spawn x y)
  | color {shade : Color} (spawned : robot.spawned = true) :
      Effect settings robot { robot with color := shade } (.color shade.name)
  | size {asked : Int} (spawned : robot.spawned = true) (positive : 0 < asked) :
      Effect settings robot { robot with size := oddBrushSize asked } (.size (oddBrushSize asked))
  | line {dx dy distance : Int} (spawned : robot.spawned = true)
      (direction : isDirection dx dy = true) (positive : 0 < distance)
      (inside : settings.inBounds (robot.x + dx * distance) (robot.y + dy * distance) = true) :
      Effect settings robot
        { robot with x := robot.x + dx * distance, y := robot.y + dy * distance }
        (.line robot.x robot.y (robot.x + dx * distance) (robot.y + dy * distance)
          robot.color.name robot.size)
  | circle {dx dy radius : Int} (spawned : robot.spawned = true)
      (direction : isDirection dx dy = true) (positive : 0 < radius)
      (inside : settings.inBounds (robot.x + dx * radius) (robot.y + dy * radius) = true) :
      Effect settings robot
        { robot with x := robot.x + dx * radius, y := robot.y + dy * radius }
        (.circle (robot.x + dx * radius) (robot.y + dy * radius) radius
          robot.color.name robot.size)
  | rectangle {dx dy distance width height : Int} (spawned : robot.spawned = true)
      (direction : isDirection dx dy = true)
      (positive : 0 < distance ∧ 0 < width ∧ 0 < height)
      (nearInside : settings.inBounds (robot.x + dx * distance) (robot.y + dy * distance) = true)
      (farInside : settings.inBounds (robot.x + dx * distance + width - 1)
        (robot.y + dy * distance + height - 1) = true) :
      Effect settings robot
        { robot with x := robot.x + dx * distance, y := robot.y + dy * distance }
        (.rectangle (robot.x + dx * distance) (robot.y + dy * distance) width height
          robot.color.name robot.size)
  | fill (spawned : robot.spawned = true) :
      Effect settings robot robot (.fill robot.x robot.y robot.color.name)

variable {settings : Settings} {robot after : Robot} {notification : Notification} {node : Node}
  {number : Node → Except Fault Int} {color : Node → Except Fault Color}
  {command : Command} {arguments : List Node}

/-- A command that is carried out has one of the seven effects. -/
theorem Effect.of_perform
    (done : command.perform settings robot node number color arguments =
      .ok (after, notification)) :
    Effect settings robot after notification := by
  cases command with
  | spawn =>
      rcases Command.of_require_bind_ok done with ⟨fresh, done⟩
      match arguments, done with
      | [first, second], done =>
          rcases exists_of_bind_ok done with ⟨x, -, done⟩
          rcases exists_of_bind_ok done with ⟨y, -, done⟩
          rcases Command.of_require_bind_ok done with ⟨inside, done⟩
          cases done
          exact .spawn (by simpa using fresh) inside
      | [], done | [_], done | _ :: _ :: _ :: _, done => cases done
  | color =>
      rcases Command.of_require_bind_ok done with ⟨spawned, done⟩
      match arguments, done with
      | [first], done =>
          rcases exists_of_bind_ok done with ⟨shade, -, done⟩
          cases done
          exact .color spawned
      | [], done | _ :: _ :: _, done => cases done
  | size =>
      rcases Command.of_require_bind_ok done with ⟨spawned, done⟩
      match arguments, done with
      | [first], done =>
          rcases exists_of_bind_ok done with ⟨asked, -, done⟩
          rcases Command.of_require_bind_ok done with ⟨positive, done⟩
          cases done
          exact .size spawned (of_decide_eq_true positive)
      | [], done | _ :: _ :: _, done => cases done
  | drawLine =>
      rcases Command.of_require_bind_ok done with ⟨spawned, done⟩
      match arguments, done with
      | [first, second, third], done =>
          rcases exists_of_bind_ok done with ⟨dx, -, done⟩
          rcases exists_of_bind_ok done with ⟨dy, -, done⟩
          rcases exists_of_bind_ok done with ⟨distance, -, done⟩
          rcases Command.of_require_bind_ok done with ⟨direction, done⟩
          rcases Command.of_require_bind_ok done with ⟨positive, done⟩
          rcases Command.of_require_bind_ok done with ⟨inside, done⟩
          cases done
          exact .line spawned direction (of_decide_eq_true positive) inside
      | [], done | [_], done | [_, _], done | _ :: _ :: _ :: _ :: _, done => cases done
  | drawCircle =>
      rcases Command.of_require_bind_ok done with ⟨spawned, done⟩
      match arguments, done with
      | [first, second, third], done =>
          rcases exists_of_bind_ok done with ⟨dx, -, done⟩
          rcases exists_of_bind_ok done with ⟨dy, -, done⟩
          rcases exists_of_bind_ok done with ⟨radius, -, done⟩
          rcases Command.of_require_bind_ok done with ⟨direction, done⟩
          rcases Command.of_require_bind_ok done with ⟨positive, done⟩
          rcases Command.of_require_bind_ok done with ⟨inside, done⟩
          cases done
          exact .circle spawned direction (of_decide_eq_true positive) inside
      | [], done | [_], done | [_, _], done | _ :: _ :: _ :: _ :: _, done => cases done
  | drawRectangle =>
      rcases Command.of_require_bind_ok done with ⟨spawned, done⟩
      match arguments, done with
      | [first, second, third, fourth, fifth], done =>
          rcases exists_of_bind_ok done with ⟨dx, -, done⟩
          rcases exists_of_bind_ok done with ⟨dy, -, done⟩
          rcases exists_of_bind_ok done with ⟨distance, -, done⟩
          rcases exists_of_bind_ok done with ⟨width, -, done⟩
          rcases exists_of_bind_ok done with ⟨height, -, done⟩
          rcases Command.of_require_bind_ok done with ⟨direction, done⟩
          rcases Command.of_require_bind_ok done with ⟨positive, done⟩
          rcases Command.of_require_bind_ok done with ⟨inside, done⟩
          rcases Bool.and_eq_true_iff.mp inside with ⟨nearInside, farInside⟩
          cases done
          exact .rectangle spawned direction (of_decide_eq_true positive) nearInside farInside
      | [], done | [_], done | [_, _], done | [_, _, _], done | [_, _, _, _], done
      | _ :: _ :: _ :: _ :: _ :: _ :: _, done => cases done
  | fill =>
      rcases Command.of_require_bind_ok done with ⟨spawned, done⟩
      match arguments, done with
      | [], done =>
          cases done
          exact .fill spawned
      | _ :: _, done => cases done

end PixelBrush
