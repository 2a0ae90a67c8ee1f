import Mathlib.Data.List.Basic
import Mathlib.Data.List.TakeWhile
import PixelBrush.Proofs.Attempt
import PixelBrush.Proofs.CommandLine

/-! # Options anywhere

The command and the path keep their order among the arguments, and the options may stand
anywhere before, between or behind them, each with what belongs to it.  Taking an option
out leaves arguments of the same form, so it makes no difference where the others stand.
What is left in the end has to be the command and the path; if it is not, no file is
even read.
-/

namespace PixelBrush

/-- The word that asks for a task. -/
def Task.command : Task → String
  | tokens => "tokens"
  | parse => "parse"
  | run => "run"

@[simp]
theorem Task.ofCommand?_command (task : Task) : ofCommand? task.command = some task := by
  cases task <;> rfl

namespace Invocation

/-- A text that is read as a positive number. -/
structure Numeral where
  text : String
  value : { number : Nat // 0 < number }
  reads : Text.integer? text = some (value.1 : Int)

/-- An option of the command line. -/
inductive Modifier
  | debug
  | trace
  | size (numeral : Numeral)
  | limit (numeral : Numeral)

namespace Modifier

def names : List String :=
  ["--debug", "--trace", "--size", "--max-steps"]

def name : Modifier → String
  | debug => "--debug"
  | trace => "--trace"
  | size _ => "--size"
  | limit _ => "--max-steps"

/-- The number that belongs to an option. -/
def numeral? : Modifier → Option Numeral
  | debug | trace => none
  | size numeral | limit numeral => some numeral

/-- The arguments that an option takes up, one behind the other. -/
def arguments (modifier : Modifier) : List String :=
  modifier.name :: modifier.numeral?.toList.map Numeral.text

theorem integer?_of_mem_names : ∀ name ∈ names, Text.integer? name = none := by
  decide

theorem command_not_mem_names (task : Task) : task.command ∉ names := by
  cases task <;> decide

/-- The name of an option is not the number of another one. -/
theorem mem_arguments_iff {name : String} (known : name ∈ names) (modifier : Modifier) :
    name ∈ modifier.arguments ↔ modifier.name = name := by
  constructor
  · intro member
    rcases List.mem_cons.mp member with rfl | member
    · rfl
    · obtain ⟨numeral, -, rfl⟩ := List.mem_map.mp member
      have unread := integer?_of_mem_names _ known
      rw [numeral.reads] at unread
      cases unread
  · rintro rfl
    exact List.mem_cons_self

end Modifier

/-! ### Taking options out -/

/-- Leave out the first occurrence of an option and the argument behind it. -/
def dropNumber (name : String) (arguments : List String) : List String :=
  arguments.takeWhile (· != name) ++ (arguments.dropWhile (· != name)).drop 2

/-- What is left of the arguments when the first occurrence of each option is left out. -/
def leftover (arguments : List String) : List String :=
  dropNumber "--max-steps" (dropNumber "--size" ((arguments.erase "--debug").erase "--trace"))

section

variable {name : String} {arguments : List String}

theorem takeNumber_of_not_mem (absent : name ∉ arguments) :
    takeNumber name arguments = .ok (none, arguments) := by
  have passed : arguments.dropWhile (· != name) = [] := by
    rw [List.dropWhile_eq_nil_iff]
    intro other member
    simpa using ne_of_mem_of_not_mem member absent
  unfold takeNumber
  rw [passed]

theorem takeNumber_append {front later : List String} (absent : name ∉ front)
    (numeral : Numeral) :
    takeNumber name (front ++ name :: numeral.text :: later) =
      .ok (some numeral.value, front ++ later) := by
  obtain ⟨text, ⟨value, positive⟩, reads⟩ := numeral
  obtain ⟨number, rfl⟩ := Nat.exists_eq_succ_of_ne_zero positive.ne'
  have others : ∀ other ∈ front, (other != name) = true := by
    intro other member
    simpa using ne_of_mem_of_not_mem member absent
  unfold takeNumber
  rw [List.takeWhile_append_of_pos others, List.dropWhile_append_of_pos others,
    List.takeWhile_cons_of_neg (by simp), List.dropWhile_cons_of_neg (by simp)]
  dsimp only
  rw [reads, List.append_nil]

/-- When an option with a number is taken out, its first occurrence is. -/
theorem eq_dropNumber_of_takeNumber {number? : Option { number : Nat // 0 < number }}
    {rest : List String} (taken : takeNumber name arguments = .ok (number?, rest)) :
    rest = dropNumber name arguments := by
  have whole := List.takeWhile_append_dropWhile (p := (· != name)) (l := arguments)
  unfold takeNumber at taken
  unfold dropNumber
  cases found : arguments.dropWhile (· != name) with
  | nil =>
      rw [found] at taken whole
      cases taken
      exact whole.symm
  | cons first behind =>
      rw [found] at taken
      cases behind with
      | nil => cases taken
      | cons given later =>
          dsimp only at taken
          split at taken
          · cases taken
          · cases taken
            rfl
          · cases taken

end

theorem exists_error_of_leftover {arguments : List String}
    (miscounted : (leftover arguments).length ≠ 2) :
    ∃ error, ofArguments arguments = .error error := by
  cases accepted : ofArguments arguments with
  | error error => exact ⟨error, rfl⟩
  | ok invocation =>
      obtain ⟨⟨size?, sized⟩, takenSize, accepted⟩ := exists_of_bind_ok accepted
      obtain ⟨⟨limit?, rest⟩, takenLimit, accepted⟩ := exists_of_bind_ok accepted
      have left : rest = leftover arguments := by
        rw [eq_dropNumber_of_takeNumber takenLimit, eq_dropNumber_of_takeNumber takenSize]
        rfl
      dsimp only at accepted
      split at accepted
      · exact absurd (congrArg List.length left.symm) miscounted
      · cases accepted

/-! ### Options among words -/

/-- Whether arguments are some words and some options, both in their order. -/
inductive Interleaved : (words : List String) → (modifiers : List Modifier) →
    (arguments : List String) → Prop
  | nil : Interleaved [] [] []
  | word {words : List String} {modifiers : List Modifier} {arguments : List String}
      (word : String) (later : Interleaved words modifiers arguments) :
      Interleaved (word :: words) modifiers (word :: arguments)
  | modifier {words : List String} {modifiers : List Modifier} {arguments : List String}
      (modifier : Modifier) (later : Interleaved words modifiers arguments) :
      Interleaved words (modifier :: modifiers) (modifier.arguments ++ arguments)

/-- Whether arguments are some words in their order, with options in any order among them. -/
def Scattered (words : List String) (modifiers : List Modifier) (arguments : List String) : Prop :=
  ∃ order, order.Perm modifiers ∧ Interleaved words order arguments

namespace Interleaved

variable {words : List String} {modifiers : List Modifier} {arguments : List String}
  {name : String}

theorem eq_words (interleaved : Interleaved words [] arguments) : arguments = words := by
  induction words generalizing arguments with
  | nil =>
      cases interleaved
      rfl
  | cons word words induction =>
      obtain - | ⟨-, later⟩ := interleaved
      rw [induction later]

theorem name_mem (interleaved : Interleaved words modifiers arguments) {modifier : Modifier}
    (member : modifier ∈ modifiers) : modifier.name ∈ arguments := by
  induction interleaved with
  | nil => cases member
  | word word later induction => exact List.mem_cons_of_mem word (induction member)
  | modifier first later induction =>
      rcases List.mem_cons.mp member with rfl | member
      · exact List.mem_append_left _ List.mem_cons_self
      · exact List.mem_append_right _ (induction member)

/-- The first occurrence of an option's name is where the option stands, with what belongs
to it right behind, and without it the other options and the words stand as before. -/
theorem exists_split (interleaved : Interleaved words modifiers arguments)
    (known : name ∈ Modifier.names) (apart : name ∉ words) (member : name ∈ arguments) :
    ∃ modifier others front later, modifier.name = name ∧ modifiers.Perm (modifier :: others) ∧
      name ∉ front ∧ arguments = front ++ (modifier.arguments ++ later) ∧
      Interleaved words others (front ++ later) := by
  induction interleaved with
  | nil => cases member
  | word word later induction =>
      have different : name ≠ word := List.ne_of_not_mem_cons apart
      obtain ⟨modifier, others, front, rest, named, order, absent, rfl, interleaved⟩ :=
        induction (List.not_mem_of_not_mem_cons apart) (List.mem_of_ne_of_mem different member)
      exact ⟨modifier, others, word :: front, rest, named, order,
        List.not_mem_cons_of_ne_of_not_mem different absent, rfl, interleaved.word word⟩
  | @modifier words modifiers arguments first later induction =>
      by_cases named : first.name = name
      · exact ⟨first, modifiers, [], arguments, named, List.Perm.refl _, List.not_mem_nil, rfl,
          later⟩
      · have absent := mt (Modifier.mem_arguments_iff known first).mp named
        obtain ⟨modifier, others, front, rest, isNamed, order, absentToo, rfl, interleaved⟩ :=
          induction apart ((List.mem_append.mp member).resolve_left absent)
        refine ⟨modifier, first :: others, first.arguments ++ front, rest, isNamed,
          (order.cons first).trans (List.Perm.swap modifier first others), ?_, ?_, ?_⟩
        · exact fun inside => (List.mem_append.mp inside).elim absent absentToo
        · rw [List.append_assoc]
        · rw [List.append_assoc]
          exact interleaved.modifier first

end Interleaved

namespace Scattered

variable {words : List String} {others : List Modifier} {arguments : List String}

section

variable {name : String} (known : name ∈ Modifier.names) (apart : name ∉ words)
  (single : ∀ other ∈ others, other.name ≠ name)

include known apart single

theorem not_mem (scattered : Scattered words others arguments) : name ∉ arguments := by
  obtain ⟨order, same, interleaved⟩ := scattered
  intro member
  obtain ⟨modifier, others, front, later, named, split, -⟩ :=
    interleaved.exists_split known apart member
  exact single modifier (same.subset (split.mem_iff.mpr List.mem_cons_self)) named

theorem exists_split {modifier : Modifier} (named : modifier.name = name)
    (scattered : Scattered words (modifier :: others) arguments) :
    ∃ front later, name ∉ front ∧ arguments = front ++ (modifier.arguments ++ later) ∧
      Scattered words others (front ++ later) := by
  obtain ⟨order, same, interleaved⟩ := scattered
  have member : name ∈ arguments := by
    rw [← named]
    exact interleaved.name_mem (same.mem_iff.mpr List.mem_cons_self)
  obtain ⟨found, rest, front, later, isNamed, split, absent, rfl, remaining⟩ :=
    interleaved.exists_split known apart member
  have whole := split.symm.trans same
  -- There is no other option of this name, so this is the one that stands there.
  obtain rfl : found = modifier := by
    rcases List.mem_cons.mp (whole.subset List.mem_cons_self) with same | member
    · exact same
    · exact absurd isNamed (single found member)
  exact ⟨front, later, absent, rfl, rest, whole.cons_inv, remaining⟩

end

/-- A switch is taken out from wherever it stands. -/
theorem takeSwitch (name : String) (known : name ∈ Modifier.names) (apart : name ∉ words)
    (single : ∀ other ∈ others, other.name ≠ name) {modifier : Modifier}
    (named : modifier.name = name) (bare : modifier.numeral? = none) {present : Bool}
    (scattered : Scattered words ((if present then [modifier] else []) ++ others) arguments) :
    takeSwitch name arguments = (present, arguments.erase name) ∧
      Scattered words others (arguments.erase name) := by
  cases present with
  | false =>
      have absent := scattered.not_mem known apart single
      rw [Invocation.takeSwitch, List.erase_of_not_mem absent]
      exact ⟨by simpa using absent, scattered⟩
  | true =>
      obtain ⟨front, later, absent, rfl, remaining⟩ :=
        exists_split known apart single named scattered
      have alone : modifier.arguments = [name] := by
        rw [Modifier.arguments, bare, named]
        rfl
      rw [Invocation.takeSwitch, alone, List.erase_append_right _ absent]
      simpa using remaining

/-- An option with a number is taken out from wherever it stands, along with its number. -/
theorem takeNumber (name : String) (known : name ∈ Modifier.names) (apart : name ∉ words)
    (single : ∀ other ∈ others, other.name ≠ name) {modify : Numeral → Modifier}
    (named : ∀ numeral, (modify numeral).name = name)
    (numbered : ∀ numeral, (modify numeral).numeral? = some numeral) {numeral? : Option Numeral}
    (scattered : Scattered words (numeral?.toList.map modify ++ others) arguments) :
    takeNumber name arguments = .ok (numeral?.map Numeral.value, dropNumber name arguments) ∧
      Scattered words others (dropNumber name arguments) := by
  suffices taken : ∃ rest, Invocation.takeNumber name arguments =
      .ok (numeral?.map Numeral.value, rest) ∧ Scattered words others rest by
    obtain ⟨rest, taken, scattered⟩ := taken
    rw [← eq_dropNumber_of_takeNumber taken]
    exact ⟨taken, scattered⟩
  cases numeral? with
  | none =>
      exact ⟨arguments, takeNumber_of_not_mem (scattered.not_mem known apart single), scattered⟩
  | some numeral =>
      obtain ⟨front, later, absent, rfl, remaining⟩ :=
        exists_split known apart single (named numeral) scattered
      have pair : (modify numeral).arguments = [name, numeral.text] := by
        rw [Modifier.arguments, numbered, named]
        rfl
      rw [pair]
      exact ⟨front ++ later, takeNumber_append absent numeral, remaining⟩

end Scattered

end Invocation

/-! ### Requests -/

/-- What the command line can be asked for. -/
structure Request where
  task : Task
  path : String
  apart : path ∉ Invocation.Modifier.names
  debug : Bool := false
  trace : Bool := false
  size? : Option Invocation.Numeral := none
  limit? : Option Invocation.Numeral := none

namespace Request

open Invocation

/-- The options of a request. -/
def modifiers (request : Request) : List Modifier :=
  (if request.debug then [.debug] else []) ++ ((if request.trace then [.trace] else []) ++
    (request.size?.toList.map .size ++ (request.limit?.toList.map .limit ++ [])))

/-- Whether arguments make a request: they are its command and its path, with its options
anywhere. -/
def Written (request : Request) (arguments : List String) : Prop :=
  Scattered [request.task.command, request.path] request.modifiers arguments

/-- The invocation that a request amounts to. -/
def invocation (request : Request) : Invocation :=
  let size := (request.size?.map Numeral.value).getD defaultCanvasSize
  { task := request.task
    path := request.path
    debug := request.debug
    settings := ⟨size.1, request.limit?.map (Subtype.val ∘ Numeral.value), request.trace, size.2⟩ }

variable {request : Request} {arguments : List String}

theorem not_mem_words (request : Request) {name : String} (known : name ∈ Modifier.names) :
    name ∉ [request.task.command, request.path] := by
  intro member
  rcases List.mem_pair.mp member with rfl | rfl
  · exact Modifier.command_not_mem_names request.task known
  · exact request.apart known

/-- A request is understood however its arguments are arranged. -/
theorem Written.ofArguments (written : request.Written arguments) :
    ofArguments arguments = .ok request.invocation := by
  obtain ⟨debug, withoutDebug⟩ := Scattered.takeSwitch "--debug" (by decide)
    (request.not_mem_words (by decide)) (by simp [or_imp, forall_and, Modifier.name])
    rfl rfl written
  obtain ⟨trace, withoutSwitches⟩ := Scattered.takeSwitch "--trace" (by decide)
    (request.not_mem_words (by decide)) (by simp [or_imp, forall_and, Modifier.name])
    rfl rfl withoutDebug
  obtain ⟨size, withoutSize⟩ := Scattered.takeNumber "--size" (by decide)
    (request.not_mem_words (by decide)) (by simp [Modifier.name])
    (fun _ => rfl) (fun _ => rfl) withoutSwitches
  obtain ⟨limit, order, empty, words⟩ := Scattered.takeNumber "--max-steps" (by decide)
    (request.not_mem_words (by decide)) (List.forall_mem_nil _)
    (fun _ => rfl) (fun _ => rfl) withoutSize
  rw [empty.eq_nil] at words
  unfold Invocation.ofArguments
  rw [debug]
  dsimp only
  rw [trace]
  dsimp only
  rw [size, ok_bind]
  dsimp only
  rw [limit, ok_bind, words.eq_words]
  dsimp only
  rw [Task.ofCommand?_command, Option.map_map]
  rfl

/-- Whether an invocation asks for what a request does, with its settings, and plans so for a
file that holds text.  Unless a request says otherwise, the canvas is a hundred cells wide
and the steps are not limited. -/
structure MetBy (request : Request) (invocation : Invocation) : Prop where
  task : invocation.task = request.task
  path : invocation.path = request.path
  debug : invocation.debug = request.debug
  trace : invocation.settings.trace = request.trace
  canvasSize : invocation.settings.canvasSize =
    (request.size?.map fun numeral => numeral.value.1).getD 100
  stepLimit : invocation.settings.stepLimit = request.limit?.map fun numeral => numeral.value.1
  tokens : request.task = .tokens → ∀ terminal bytes source tokens,
    decode? bytes = some source → tokenize (endLastLine source) = .ok tokens →
      invocation.plan terminal (.ok bytes) = .done (.succeeding (tokens.map Token.row))
  parse : request.task = .parse → ∀ terminal bytes source tokens statements,
    decode? bytes = some source → ReadsAs (endLastLine source) tokens statements →
      invocation.plan terminal (.ok bytes) = .done (treeReport statements)
  run : request.task = .run → ∀ terminal bytes source tokens statements,
    decode? bytes = some source → ReadsAs (endLastLine source) tokens statements →
      invocation.plan terminal (.ok bytes) =
        .run { settings := invocation.settings, painting := ({} : Painting), statements }

theorem metBy_invocation (request : Request) : request.MetBy request.invocation where
  task := rfl
  path := rfl
  debug := rfl
  trace := rfl
  canvasSize := by
    change ((request.size?.map Numeral.value).getD defaultCanvasSize).1 = _
    cases request.size? <;> rfl
  stepLimit := rfl
  tokens asked terminal bytes source tokens decoded tokenized := by
    rw [plan_of_decoded decoded, planFor_tokens asked tokenized]
  parse asked terminal bytes source tokens statements decoded reads := by
    rw [plan_of_decoded decoded, planFor_parse asked reads]
  run asked terminal bytes source tokens statements decoded reads := by
    rw [plan_of_decoded decoded, planFor_run asked reads]
    rfl

end Request

section

variable {m : Type → Type} [Monad m] {readFile : String → m (Except FileError ByteArray)}
  {terminal : Bool} {arguments : List String}

/-- A command reads the file that it is given, and nothing else. -/
theorem dispatch_of_accepted {invocation : Invocation}
    (accepted : Invocation.ofArguments arguments = .ok invocation) :
    dispatch readFile terminal arguments = do
      let file ← readFile invocation.path
      return .command invocation (invocation.plan terminal file) := by
  unfold dispatch
  rw [accepted]

theorem dispatch_of_refused {error : UsageError}
    (refused : Invocation.ofArguments arguments = .error error) :
    dispatch readFile terminal arguments = pure (.refused (Invocation.refusal error)) := by
  unfold dispatch
  rw [refused]

end

/-- How the command line reads its arguments.  A request is carried out wherever its options
stand: its command, on its path, with its settings.  Whatever else than two arguments is left
without the first occurrence of each option, no file is read and no command is carried out;
the command line says what is wrong, and its status is one. -/
theorem options_anywhere {m : Type → Type} [Monad m]
    (readFile : String → m (Except FileError ByteArray)) (terminal : Bool) :
    (∀ (request : Request) (arguments : List String), request.Written arguments →
      ∃ invocation, request.MetBy invocation ∧
        dispatch readFile terminal arguments = do
          let file ← readFile request.path
          return .command invocation (invocation.plan terminal file)) ∧
    ∀ arguments, (Invocation.leftover arguments).length ≠ 2 →
      ∃ error report, dispatch readFile terminal arguments = pure (.refused report) ∧
        report.lines = [UsageError.message error] ∧ report.exit.status = 1 := by
  constructor
  · intro request arguments written
    exact ⟨request.invocation, request.metBy_invocation, dispatch_of_accepted written.ofArguments⟩
  · intro arguments miscounted
    obtain ⟨error, refused⟩ := Invocation.exists_error_of_leftover miscounted
    exact ⟨error, Invocation.refusal error, dispatch_of_refused refused, rfl, rfl⟩

namespace Request

open Invocation

theorem stripes_not_mem_names : "stripes.pw" ∉ Modifier.names := by
  decide

/-- Running a file on a canvas of twelve cells, with a trace. -/
def stripes : Request :=
  { task := .run
    path := "stripes.pw"
    apart := stripes_not_mem_names
    trace := true
    size? := some ⟨"+012", ⟨12, Nat.succ_pos 11⟩, rfl⟩ }

/-- What is in that file. -/
def stripesSource : String := "Spawn(0, 1)"

def stripesTokens : List Token :=
  [⟨.command .spawn, "Spawn", none, ⟨1, 1⟩⟩, ⟨.leftParenthesis, "(", none, ⟨1, 6⟩⟩,
    ⟨.number, "0", some (.number 0), ⟨1, 7⟩⟩, ⟨.comma, ",", none, ⟨1, 8⟩⟩,
    ⟨.number, "1", some (.number 1), ⟨1, 10⟩⟩, ⟨.rightParenthesis, ")", none, ⟨1, 11⟩⟩,
    ⟨.endOfLine, "\n", none, ⟨1, 12⟩⟩, ⟨.endOfInput, "", none, ⟨2, 1⟩⟩]

def stripesStatements : List Node :=
  [.instruction Command.spawn.code [.literal Kind.number.name (some (.number 0)) ⟨1, 7⟩,
    .literal Kind.number.name (some (.number 1)) ⟨1, 10⟩] ⟨1, 1⟩]

theorem stripes_options_anywhere :
    stripes.Written ["--size", "+012", "run", "--trace", "stripes.pw"] ∧
    (∃ invocation settings, stripes.MetBy invocation ∧
      dispatch (m := Id) (fun _ => .ok stripesSource.toUTF8) false
        ["--size", "+012", "run", "--trace", "stripes.pw"] =
          .command invocation
            (.run { settings, painting := ({} : Painting), statements := stripesStatements }) ∧
      settings.trace = true ∧ settings.canvasSize = 12 ∧ settings.stepLimit = none) ∧
    leftover ["run", "stripes.pw", "--trace", "--trace"] = ["run", "stripes.pw", "--trace"] ∧
    ∃ error report,
      dispatch (m := Id) (fun _ => .ok stripesSource.toUTF8) false
        ["run", "stripes.pw", "--trace", "--trace"] = .refused report ∧
      report.lines = [UsageError.message error] ∧ report.exit.status = 1 := by
  have written : stripes.Written ["--size", "+012", "run", "--trace", "stripes.pw"] :=
    ⟨[.size _, .trace], .swap .., .modifier (.size _) (.word _ (.modifier .trace (.word _ .nil)))⟩
  have left : leftover ["run", "stripes.pw", "--trace", "--trace"] =
      ["run", "stripes.pw", "--trace"] := rfl
  have decoded : decode? stripesSource.toUTF8 = some stripesSource := by decide +kernel
  have reads : ReadsAs (endLastLine stripesSource) stripesTokens stripesStatements :=
    ⟨by decide +kernel, rfl⟩
  obtain ⟨carriedOut, refused⟩ :=
    options_anywhere (m := Id) (fun _ => .ok stripesSource.toUTF8) false
  obtain ⟨invocation, met, dispatched⟩ := carriedOut stripes _ written
  refine ⟨written, ⟨invocation, invocation.settings, met, ?_, met.trace, met.canvasSize,
    met.stepLimit⟩, left, refused _ (by rw [left]; decide)⟩
  rw [dispatched, ← met.run rfl false _ _ _ _ decoded reads]
  rfl

end Request
end PixelBrush
