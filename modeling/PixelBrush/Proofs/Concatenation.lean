import PixelBrush.Proofs.Ending
import PixelBrush.Proofs.EvaluationAgreement

/-! # Programs behind one another

A program that is put behind another one starts where the first has ended, with
the variables and the robot that it finds there.  It runs as it would run by
itself from there on, except that every index counts the statements of the
first program as well.
-/

namespace PixelBrush
namespace Labels

/-- A label statement behind a number of other statements. -/
def Definition.behind (offset : Nat) (definition : Definition) : Definition :=
  { definition with index := offset + definition.index }

theorem definitions_append (first second : List Node) :
    definitions (first ++ second) =
      definitions first ++ (definitions second).map (Definition.behind first.length) := by
  unfold definitions
  rw [List.zipIdx_append, List.filterMap_append, List.zipIdx_eq_map_add (l := second),
    List.filterMap_map,
    List.map_filterMap]
  congr 2
  funext entry
  obtain ⟨statement, index⟩ := entry
  cases statement with
  | label name location => simp [Definition.behind]
  | _ => rfl

/-- Whether one of some statements is a label of a name. -/
def Defines (statements : List Node) (name : Name) : Prop :=
  ∃ (spelling : Name) (location : Location), (spelling == name) = true ∧
    Node.label spelling location ∈ statements

theorem find?_append (first second : List Node) (name : Name) :
    (table (definitions (first ++ second))).find? name =
      (((table (definitions second)).find? name).map (first.length + ·)).or
        ((table (definitions first)).find? name) := by
  rw [find?_table, find?_table, find?_table, definitions_append, List.reverse_append,
    List.find?_append, ← List.map_reverse, List.find?_map, Option.map_or, Option.map_map,
    Option.map_map]
  rfl

end Labels

namespace State

variable {first second : List Node} {name : Name}

theorem find?_labels_of_not_defines (undefined : ¬ Labels.Defines first name) :
    (State.initial first).labels.find? name = none := by
  cases known : (State.initial first).labels.find? name with
  | none => rfl
  | some target =>
      obtain ⟨spelling, location, same, stands⟩ := getElem?_of_find?_labels known
      exact (undefined ⟨spelling, location, same, List.mem_of_getElem? stands⟩).elim

theorem defines_of_find?_labels {target : Nat}
    (known : (State.initial first).labels.find? name = some target) :
    Labels.Defines first name := by
  by_contra undefined
  rw [find?_labels_of_not_defines undefined] at known
  cases known

/-- A label of the first program stands where it did. -/
theorem find?_labels_append_left (undefined : ¬ Labels.Defines second name) :
    (State.initial (first ++ second)).labels.find? name =
      (State.initial first).labels.find? name := by
  have none : (Labels.table (Labels.definitions second)).find? name = none :=
    find?_labels_of_not_defines undefined
  change (Labels.table (Labels.definitions (first ++ second))).find? name = _
  rw [Labels.find?_append, none]
  rfl

/-- A label of the second program stands behind all statements of the first. -/
theorem find?_labels_append_right (undefined : ¬ Labels.Defines first name) :
    (State.initial (first ++ second)).labels.find? name =
      ((State.initial second).labels.find? name).map (first.length + ·) := by
  have none : (Labels.table (Labels.definitions first)).find? name = none :=
    find?_labels_of_not_defines undefined
  change (Labels.table (Labels.definitions (first ++ second))).find? name = _
  rw [Labels.find?_append, none, Option.or_none]
  rfl

/-- A state of a program by itself, and one that differs from it only in that other
statements stand before the program. -/
structure Relocated (offset : Nat) (alone joint : State) : Prop where
  store : joint.store = alone.store
  steps : joint.steps = alone.steps
  robot : joint.robot = alone.robot
  counter : joint.counter = offset + alone.counter

end State

/-- Two steps that lead to such states, tell the painter the same, and fail for
the same reason if they fail. -/
structure Step.Relocated (offset : Nat) (alone joint : Step) : Prop where
  state : alone.state.Relocated offset joint.state
  notifications : Event.notifications joint.events = Event.notifications alone.events
  fault : joint.fault = alone.fault

namespace State

variable {settings : Settings} {painter : Painter} {budget offset : Nat} {alone joint : State}
  {statement : Node}

/-- Whether a jump that is taken leads to the same statement in both states. -/
def JumpsAlike (settings : Settings) (painter : Painter) (budget offset : Nat)
    (alone joint : State) (statement : Node) : Prop :=
  ∀ label condition location, statement = .jump label condition location →
    Evaluation.boolean ⟨settings, painter, some alone⟩ budget condition = .ok true →
    joint.labels.find? label = (alone.labels.find? label).map (offset + ·)

/-- What a statement comes to in two such states. -/
inductive PerformedAlike (offset : Nat) :
    Except Fault (State × List Event) → Except Fault (State × List Event) → Prop
  | ok {alone joint : State} {events others : List Event} (relocated : Relocated offset alone joint)
      (told : Event.notifications others = Event.notifications events) :
      PerformedAlike offset (.ok (alone, events)) (.ok (joint, others))
  | error (fault : Fault) : PerformedAlike offset (.error fault) (.error fault)

theorem Relocated.perform (relocated : Relocated offset alone joint)
    (jumps : JumpsAlike settings painter budget offset alone joint statement) :
    PerformedAlike offset (alone.perform settings painter budget statement)
      (joint.perform settings painter budget statement) := by
  have alike : View.Alike ⟨settings, painter, some joint⟩ ⟨settings, painter, some alone⟩ :=
    View.alike_of_robot painter rfl relocated.store relocated.robot
  have same := Evaluation.sameWithin_of_alike alike budget
  cases statement with
  | assignment name value location =>
      unfold State.perform
      dsimp only
      rw [same.evaluate]
      cases Evaluation.evaluate ⟨settings, painter, some alone⟩ budget value with
      | error fault => exact .error fault
      | ok result =>
          refine .ok ⟨?_, relocated.steps, relocated.robot, relocated.counter⟩ rfl
          exact congrArg (Table.insert · name result) relocated.store
  | instruction code arguments location =>
      unfold State.perform
      dsimp only
      rw [same.number, same.color, relocated.robot]
      cases code.text?.bind Command.ofCode? with
      | none => exact .error _
      | some command =>
          dsimp only
          generalize Command.perform settings alone.robot _ _ _ command arguments = result
          cases result with
          | error fault => exact .error fault
          | ok result => exact .ok ⟨relocated.store, relocated.steps, rfl, relocated.counter⟩ rfl
  | jump label condition location =>
      have condition_eq : Evaluation.boolean ⟨settings, painter, some joint⟩ budget condition =
          Evaluation.boolean ⟨settings, painter, some alone⟩ budget condition := by
        unfold Evaluation.boolean
        rw [same.evaluate]
      have found := jumps label condition location rfl
      unfold State.perform
      dsimp only
      rw [condition_eq]
      cases held : Evaluation.boolean ⟨settings, painter, some alone⟩ budget condition with
      | error fault => exact .error fault
      | ok truth =>
          cases truth with
          | false => exact .ok relocated rfl
          | true =>
              dsimp only [bind, Except.bind]
              rw [if_pos rfl, if_pos rfl, found held]
              cases alone.labels.find? label with
              | none => exact .error _
              | some target =>
                  refine .ok ⟨relocated.store, relocated.steps, relocated.robot, rfl⟩ ?_
                  rw [Event.notifications_jump, Event.notifications_jump]
  | label name location => exact .ok relocated rfl
  | _ => exact .error _

@[simp]
theorem labels_count (state : State) : state.count.labels = state.labels := rfl

theorem Relocated.count (relocated : Relocated offset alone joint) :
    Relocated offset alone.count joint.count :=
  ⟨relocated.store, congrArg (· + 1) relocated.steps, relocated.robot, relocated.counter⟩

theorem Relocated.moveOn (relocated : Relocated offset alone joint) :
    Relocated offset alone.moveOn joint.moveOn :=
  ⟨relocated.store, relocated.steps, relocated.robot, congrArg (· + 1) relocated.counter⟩

theorem Relocated.step (relocated : Relocated offset alone joint)
    (unlimited : settings.stepLimit = none)
    (jumps : JumpsAlike settings painter budget offset alone.count joint.count statement) :
    Step.Relocated offset (alone.step settings painter budget statement)
      (joint.step settings painter budget statement) := by
  have performed := relocated.count.perform jumps
  unfold State.step
  rw [atLimit_of_unlimited unlimited, atLimit_of_unlimited unlimited]
  dsimp only
  generalize alone.count.perform settings painter budget statement = aloneResult at performed ⊢
  generalize joint.count.perform settings painter budget statement = jointResult at performed ⊢
  cases performed with
  | ok relocated told => exact ⟨relocated, by simp [told], rfl⟩
  | error fault => exact ⟨relocated.count, by simp, rfl⟩

/-- A jump that is taken and does not fail leads to a known label. -/
theorem exists_target_of_jump {state : State} {label : Name} {condition : Node}
    {location : Location}
    (unfailed : (state.step settings painter budget (.jump label condition location)).fault = none)
    (held : Evaluation.boolean ⟨settings, painter, some state.count⟩ budget condition = .ok true) :
    ∃ target, state.count.labels.find? label = some target := by
  have attempted := state.attempted settings painter budget (.jump label condition location)
  generalize state.step settings painter budget (.jump label condition location) = step
    at attempted unfailed
  cases attempted with
  | refused reached => cases unfailed
  | failed below fails => cases unfailed
  | completed below carriedOut =>
      cases carriedOut with
      | jump held known => exact ⟨_, known⟩
      | pass passed => cases held.symm.trans passed

end State

/-- A run of a program by itself, and one that differs from it only in that other
statements stand before the program and the painter has been told of them
earlier. -/
structure Run.Relocated (offset : Nat) (earlier : List Notification) (alone joint : Run) :
    Prop where
  state : alone.state.Relocated offset joint.state
  notifications : joint.notifications = earlier ++ alone.notifications
  outcome : joint.outcome = alone.outcome

namespace Job

/-- The same job with another program. -/
def withStatements (job : Job) (statements : List Node) : Job :=
  { job with statements := statements }

/-- A run that has carried out nothing yet, and starts with the variables, the robot
and the count of steps of a given state. -/
def resume (job : Job) (left : State) : Run :=
  let state : State :=
    { State.initial job.statements with
      store := left.store, steps := left.steps, robot := left.robot }
  { state, outcome := job.standing state }

variable {job : Job} {first second : List Node} {count : Nat} {alone joint : Run}
  {earlier : List Notification} {statement : Node}

theorem labels_advance (job : Job) (run : Run) :
    (job.advance run).state.labels = run.state.labels := by
  cases next : job.next? run with
  | none => rw [advance_of_next?_none next]
  | some statement =>
      have frame :=
        (run.state.attempted job.settings job.painting job.budget statement).frame.labels
      rw [advance_of_next? next, ← frame]
      unfold extend stepOf
      cases (run.state.step job.settings job.painting job.budget statement).fault <;> rfl

theorem labels_proceed (job : Job) (count : Nat) (run : Run) :
    (job.proceed count run).state.labels = run.state.labels := by
  induction count with
  | zero => rfl
  | succ count induction => rw [proceed_succ, labels_advance, induction]

theorem next?_append (relocated : Run.Relocated first.length earlier alone joint) :
    (job.withStatements (first ++ second)).next? joint =
      (job.withStatements second).next? alone := by
  unfold next?
  rw [relocated.outcome, relocated.state.counter]
  cases alone.outcome with
  | running =>
      change (first ++ second)[first.length + alone.state.counter]? = second[alone.state.counter]?
      rw [List.getElem?_append_right (Nat.le_add_right _ _), Nat.add_sub_cancel_left]
  | finished | failed => rfl

theorem standing_append {aloneState jointState : State}
    (relocated : aloneState.Relocated first.length jointState) :
    (job.withStatements (first ++ second)).standing jointState =
      (job.withStatements second).standing aloneState := by
  unfold standing
  have behind : jointState.counter < (job.withStatements (first ++ second)).statements.length ↔
      aloneState.counter < (job.withStatements second).statements.length := by
    change _ < (first ++ second).length ↔ _ < second.length
    rw [relocated.counter, List.length_append]
    omega
  by_cases within : aloneState.counter < (job.withStatements second).statements.length
  · rw [if_pos within, if_pos (behind.mpr within)]
  · rw [if_neg within, if_neg (mt behind.mp within)]

theorem extend_append (relocated : Run.Relocated first.length earlier alone joint)
    {aloneStep jointStep : Step} (steps : aloneStep.Relocated first.length jointStep) :
    Run.Relocated first.length earlier
      ((job.withStatements second).extend alone statement aloneStep)
      ((job.withStatements (first ++ second)).extend joint statement jointStep) := by
  have notifications : ((job.withStatements (first ++ second)).extend joint statement
      jointStep).notifications =
      earlier ++ ((job.withStatements second).extend alone statement aloneStep).notifications := by
    rw [notifications_extend, notifications_extend, relocated.notifications, steps.notifications,
      List.append_assoc]
  refine ⟨?_, notifications, ?_⟩
  · unfold extend
    rw [steps.fault]
    cases aloneStep.fault with
    | some fault => exact steps.state
    | none => exact steps.state.moveOn
  · unfold extend
    rw [steps.fault]
    cases aloneStep.fault with
    | some fault => rfl
    | none => exact standing_append steps.state.moveOn

/-- The second program goes on as it would by itself. -/
theorem proceed_append (unlimited : job.settings.stepLimit = none)
    (own : ∀ label condition location, Node.jump label condition location ∈ second →
      ¬ Labels.Defines first label)
    (relocated : Run.Relocated first.length earlier alone joint)
    (aloneLabels : alone.state.labels = (State.initial second).labels)
    (jointLabels : joint.state.labels = (State.initial (first ++ second)).labels) (count : Nat) :
    Run.Relocated first.length earlier ((job.withStatements second).proceed count alone)
      ((job.withStatements (first ++ second)).proceed count joint) := by
  induction count with
  | zero => exact relocated
  | succ count induction =>
      rw [proceed_succ, proceed_succ]
      have same : (job.withStatements (first ++ second)).next?
            ((job.withStatements (first ++ second)).proceed count joint) =
          (job.withStatements second).next? ((job.withStatements second).proceed count alone) :=
        next?_append induction
      cases next : (job.withStatements second).next?
          ((job.withStatements second).proceed count alone) with
      | none =>
          rw [advance_of_next?_none next, advance_of_next?_none (same.trans next)]
          exact induction
      | some statement =>
          rw [advance_of_next? next, advance_of_next? (same.trans next)]
          -- Only a jump looks at the labels, and these stay what they were at the start.
          refine extend_append induction (induction.state.step unlimited ?_)
          rintro label condition location rfl held
          have member : Node.jump label condition location ∈ second :=
            List.mem_of_getElem? (getElem?_of_next? next)
          rw [State.labels_count, State.labels_count, labels_proceed, labels_proceed, aloneLabels,
            jointLabels]
          exact State.find?_labels_append_right (own label condition location member)

/-- Where a run of the first program stands, there stands the run of both programs. -/
structure PrefixAt (job : Job) (first second : List Node) (count : Nat) : Prop where
  state : ((job.withStatements first).after count).state.Relocated 0
    ((job.withStatements (first ++ second)).after count).state
  notifications : ((job.withStatements (first ++ second)).after count).notifications =
    ((job.withStatements first).after count).notifications
  outcome : ((job.withStatements (first ++ second)).after count).outcome =
    (job.withStatements (first ++ second)).standing
      ((job.withStatements (first ++ second)).after count).state

theorem extend_of_unfailed {run : Run} {step : Step} (unfailed : step.fault = none) :
    job.extend run statement step =
      { state := step.state.moveOn, trail := step :: run.trail,
        outcome := job.standing step.state.moveOn } := by
  unfold extend
  rw [unfailed]

theorem PrefixAt.succ (unlimited : job.settings.stepLimit = none)
    (apart : ∀ name, Labels.Defines first name → ¬ Labels.Defines second name)
    (stands : PrefixAt job first second count)
    (running : ((job.withStatements first).after count).isRunning = true)
    (unfailed : ((job.withStatements first).after (count + 1)).hasFailed = false) :
    PrefixAt job first second (count + 1) := by
  obtain ⟨statement, next⟩ := exists_next? running
  have within : ((job.withStatements first).after count).state.counter < first.length :=
    counter_lt_of_next? next
  have counter := stands.state.counter
  rw [Nat.zero_add] at counter
  have outcome : ((job.withStatements (first ++ second)).after count).outcome = .running := by
    rw [stands.outcome, standing, if_pos]
    change _ < (first ++ second).length
    rw [counter, List.length_append]
    omega
  have jointNext : (job.withStatements (first ++ second)).next?
      ((job.withStatements (first ++ second)).after count) = some statement := by
    unfold next?
    rw [outcome, counter]
    change (first ++ second)[_]? = some statement
    rw [List.getElem?_append_left within]
    exact getElem?_of_next? next
  have unfailedStep : ((job.withStatements first).stepOf
      ((job.withStatements first).after count) statement).fault = none := by
    rw [after_succ_of_next? next, hasFailed_extend] at unfailed
    exact Option.isNone_iff_eq_none.mp (Option.isSome_eq_false_iff.mp unfailed)
  have steps : ((job.withStatements first).stepOf
      ((job.withStatements first).after count) statement).Relocated 0
      ((job.withStatements (first ++ second)).stepOf
        ((job.withStatements (first ++ second)).after count) statement) := by
    refine stands.state.step unlimited ?_
    rintro label condition location rfl held
    -- The first program does not fail here, and so it knows the label itself.
    obtain ⟨target, known⟩ := State.exists_target_of_jump unfailedStep held
    rw [State.labels_count, (sound_after _ count).labels] at known ⊢
    rw [State.labels_count, (sound_after _ count).labels]
    have defines : Labels.Defines first label := State.defines_of_find?_labels known
    exact (State.find?_labels_append_left (apart label defines)).trans
      (by rw [known, Option.map_some, Nat.zero_add]; exact known)
  have jointUnfailed := steps.fault.trans unfailedStep
  constructor
  · rw [after_succ_of_next? next, after_succ_of_next? jointNext, extend_of_unfailed unfailedStep,
      extend_of_unfailed jointUnfailed]
    exact steps.state.moveOn
  · rw [after_succ_of_next? next, after_succ_of_next? jointNext, notifications_extend,
      notifications_extend, stands.notifications, steps.notifications]
  · rw [after_succ_of_next? jointNext, extend_of_unfailed jointUnfailed]

/-- As long as the first program runs and does not fail, both programs together do the
same. -/
theorem prefixAt (unlimited : job.settings.stepLimit = none)
    (apart : ∀ name, Labels.Defines first name → ¬ Labels.Defines second name)
    (running : ∀ earlier, earlier < count →
      ((job.withStatements first).after earlier).isRunning = true)
    (unfailed : ((job.withStatements first).after count).hasFailed = false) :
    PrefixAt job first second count := by
  induction count with
  | zero => exact ⟨⟨rfl, rfl, rfl, rfl⟩, rfl, rfl⟩
  | succ count induction =>
      have before := running count (Nat.lt_succ_self count)
      refine PrefixAt.succ unlimited apart (induction ?_ ?_) before unfailed
      · exact fun earlier order => running earlier (Nat.lt_succ_of_lt order)
      · unfold Run.hasFailed
        rw [outcome_of_isRunning before]

/-- What a program does behind another one that halts: after the statements of the
first program, the run of both stands behind it, with the variables, the robot,
the steps and the notifications that the first has left.  From there it goes on
as the second program does from these, with the same statements, the same
notifications and the same end, and with indices that count the first program
as well. -/
theorem after_append (job : Job) (first second : List Node) (count : Nat)
    (unlimited : job.settings.stepLimit = none)
    (apart : ∀ name, Labels.Defines first name → ¬ Labels.Defines second name)
    (own : ∀ label condition location, Node.jump label condition location ∈ second →
      ¬ Labels.Defines first label)
    (ends : (job.withStatements first).EndsAfter count)
    (halts : ((job.withStatements first).after count).outcome = .finished) :
    let left := (job.withStatements first).after count
    let joint := (job.withStatements (first ++ second)).after
    let alone := fun further =>
      (job.withStatements second).proceed further ((job.withStatements second).resume left.state)
    ((joint count).state.counter = first.length ∧
      (joint count).state.store = left.state.store ∧
      (joint count).state.robot = left.state.robot ∧
      (joint count).state.steps = left.state.steps ∧
      (joint count).notifications = left.notifications) ∧
    ∀ further,
      Run.Relocated first.length left.notifications (alone further) (joint (count + further)) ∧
      (job.withStatements (first ++ second)).next? (joint (count + further)) =
        (job.withStatements second).next? (alone further) := by
  intro left joint alone
  have unfailed : left.hasFailed = false := by
    unfold Run.hasFailed
    rw [halts]
  have stands : PrefixAt job first second count := prefixAt unlimited apart ends.running unfailed
  have counter : (joint count).state.counter = first.length := by
    rw [stands.state.counter, Nat.zero_add]
    exact (sound_after _ count).finished halts
  have resumed : Run.Relocated first.length left.notifications (alone 0) (joint count) := by
    have state : (alone 0).state.Relocated first.length (joint count).state :=
      ⟨stands.state.store, stands.state.steps, stands.state.robot, counter⟩
    refine ⟨state, ?_, stands.outcome.trans (standing_append state)⟩
    rw [stands.notifications]
    exact (List.append_nil _).symm
  refine ⟨⟨counter, stands.state.store, stands.state.robot, stands.state.steps,
    stands.notifications⟩, fun further => ?_⟩
  have relocated : Run.Relocated first.length left.notifications (alone further)
      (joint (count + further)) := by
    have goesOn := proceed_append unlimited own resumed rfl (sound_after _ count).labels further
    rw [← after_add] at goesOn
    exact goesOn
  exact ⟨relocated, next?_append relocated⟩

/-- A number as it stands in a program. -/
def numeral (value : Int) : Node :=
  .literal Kind.number.name (some (.number value)) .nowhere

/-- A program that counts up to two in a loop. -/
def countingLoop : List Node :=
  [.assignment "count" (numeral 0) .nowhere,
    .label "again" .nowhere,
    .assignment "count" (.binary "+" (.reference "count" .nowhere) (numeral 1) .nowhere) .nowhere,
    .jump "again" (.binary "<" (.reference "count" .nowhere) (numeral 2) .nowhere) .nowhere]

/-- A program that jumps over a command that would fail, and spawns the robot where
the count says. -/
def spawningTail : List Node :=
  [.jump "ready" (.literal Kind.boolean.name (some (.boolean true)) .nowhere) .nowhere,
    .instruction Command.fill.code [] .nowhere,
    .label "ready" .nowhere,
    .instruction Command.spawn.code [.reference "count" .nowhere, numeral 0] .nowhere]

/-- A canvas of nine cells and no limit of steps. -/
def smallJob : Job where
  settings := ⟨3, none, false, by decide⟩
  painting := ({} : Painting)
  statements := []
  budget := 8

theorem after_append_countingLoop :
    (∀ name, Labels.Defines countingLoop name → ¬ Labels.Defines spawningTail name) ∧
    (∀ label condition location, Node.jump label condition location ∈ spawningTail →
      ¬ Labels.Defines countingLoop label) ∧
    (smallJob.withStatements countingLoop).EndsAfter 6 ∧
    ((smallJob.withStatements (countingLoop ++ spawningTail)).after 6).state.counter = 4 ∧
    ((smallJob.withStatements (countingLoop ++ spawningTail)).after 9).state.counter = 8 ∧
    ((smallJob.withStatements (countingLoop ++ spawningTail)).after 9).notifications =
      [.spawn 2 0] := by
  have apart : ∀ name, Labels.Defines countingLoop name → ¬ Labels.Defines spawningTail name := by
    rintro name ⟨spelling, location, same, member⟩ ⟨other, place, sameOther, memberOther⟩
    simp [countingLoop, spawningTail] at member memberOther
    obtain ⟨rfl, -⟩ := member
    obtain ⟨rfl, -⟩ := memberOther
    exact absurd (BEq.trans same (BEq.symm sameOther)) (by decide)
  have own : ∀ label condition location, Node.jump label condition location ∈ spawningTail →
      ¬ Labels.Defines countingLoop label := by
    rintro label condition place jumps ⟨spelling, location, same, member⟩
    simp [countingLoop, spawningTail] at member jumps
    obtain ⟨rfl, -⟩ := member
    obtain ⟨rfl, -⟩ := jumps
    exact absurd same (by decide)
  have ends : (smallJob.withStatements countingLoop).EndsAfter 6 := ⟨by decide, by decide⟩
  obtain ⟨⟨counter, -⟩, goesOn⟩ :=
    after_append smallJob countingLoop spawningTail 6 rfl apart own ends rfl
  obtain ⟨relocated, -⟩ := goesOn 3
  exact ⟨apart, own, ends, counter, relocated.state.counter, relocated.notifications⟩

end Job
end PixelBrush
