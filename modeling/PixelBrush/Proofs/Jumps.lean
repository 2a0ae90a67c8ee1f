import Mathlib.Order.Bounds.Basic
import PixelBrush.Proofs.Tracing

/-! # Labels and jumps

A jump that is taken leads behind the last label of its name, wherever that label
stands; every other statement leads to the one behind it.  A jump that is to be taken
fails if there is no such label, and one that is not to be taken does not fail.
-/

namespace PixelBrush

/-- Whether a statement is a label of a name. -/
def Node.isLabel (name : Name) : Node → Bool
  | label spelling _ => spelling == name
  | _ => false

namespace Labels

/-- The indices at which labels of a name stand. -/
def indices (statements : List Node) (name : Name) : Set Nat :=
  {index | ∃ statement, statements[index]? = some statement ∧ statement.isLabel name = true}

/-- The names and lines of the labels whose names are taken, in the order of the program. -/
def repeated (statements : List Node) : List (Name × Int) :=
  (List.range statements.length).filterMap fun index =>
    match statements[index]? with
    | some (Node.label name location) =>
        if (statements.take index).any (Node.isLabel name) then some (name, location.line) else none
    | _ => none

theorem mem_indices_concat {statements : List Node} {statement : Node} {name : Name}
    {index : Nat} :
    index ∈ indices (statements ++ [statement]) name ↔
      index ∈ indices statements name ∨
        index = statements.length ∧ statement.isLabel name = true := by
  constructor
  · rintro ⟨found, stands, isLabel⟩
    rcases Nat.lt_trichotomy index statements.length with before | rfl | behind
    · rw [List.getElem?_append_left before] at stands
      exact .inl ⟨found, stands, isLabel⟩
    · rw [List.getElem?_concat_length] at stands
      cases stands
      exact .inr ⟨rfl, isLabel⟩
    · have beyond : (statements ++ [statement]).length ≤ index := by
        rw [List.length_append]
        exact behind
      rw [List.getElem?_eq_none beyond] at stands
      cases stands
  · rintro (⟨found, stands, isLabel⟩ | ⟨rfl, isLabel⟩)
    · have before := (List.getElem?_eq_some_iff.mp stands).1
      refine ⟨found, ?_, isLabel⟩
      rw [List.getElem?_append_left before, stands]
    · exact ⟨statement, List.getElem?_concat_length, isLabel⟩

theorem find?_initial_concat (statements : List Node) (statement : Node) (name : Name) :
    (State.initial (statements ++ [statement])).labels.find? name =
      if statement.isLabel name then some statements.length
      else (State.initial statements).labels.find? name := by
  change (table (definitions (statements ++ [statement]))).find? name = _
  rw [definitions_concat]
  cases statement with
  | label spelling location =>
      rw [table_concat, Table.find?_insert]
      rfl
  | _ =>
      rw [List.append_nil]
      rfl

/-- The table of labels leads from a name to the last label of that name. -/
theorem find?_initial_eq_some_iff (statements : List Node) (name : Name) (target : Nat) :
    (State.initial statements).labels.find? name = some target ↔
      IsGreatest (indices statements name) target := by
  induction statements using List.reverseRecOn with
  | nil =>
      constructor
      · exact fun found => by cases found
      · rintro ⟨⟨statement, stands, isLabel⟩, -⟩
        cases stands
  | append_singleton statements statement induction =>
      rw [find?_initial_concat]
      by_cases last : statement.isLabel name = true
      · have greatest : IsGreatest (indices (statements ++ [statement]) name)
            statements.length := by
          refine ⟨mem_indices_concat.mpr (.inr ⟨rfl, last⟩), fun index member => ?_⟩
          rcases mem_indices_concat.mp member with ⟨found, stands, isLabel⟩ | ⟨rfl, -⟩
          · exact Nat.le_of_lt (List.getElem?_eq_some_iff.mp stands).1
          · exact le_refl _
        rw [if_pos last]
        constructor
        · intro same
          rwa [← Option.some.inj same]
        · exact fun other => congrArg some (greatest.unique other)
      · have same : indices (statements ++ [statement]) name = indices statements name := by
          ext index
          simp [mem_indices_concat, last]
        rw [if_neg last, same, induction]

theorem find?_initial_eq_none_iff (statements : List Node) (name : Name) :
    (State.initial statements).labels.find? name = none ↔
      ∀ statement ∈ statements, statement.isLabel name = false := by
  induction statements using List.reverseRecOn with
  | nil => exact ⟨fun _ => List.forall_mem_nil _, fun _ => rfl⟩
  | append_singleton statements statement induction =>
      rw [find?_initial_concat, List.forall_mem_append, List.forall_mem_singleton, ← induction]
      cases statement.isLabel name <;> simp

theorem isSome_lastLine? (statements : List Node) (name : Name) :
    (lastLine? statements name).isSome = statements.any (Node.isLabel name) := by
  induction statements using List.reverseRecOn with
  | nil => rfl
  | append_singleton statements statement induction =>
      rw [lastLine?_concat, List.any_append, ← induction]
      cases statement with
      | label spelling location =>
          by_cases same : (spelling == name) = true <;> simp [Node.isLabel, same]
      | _ => simp [Node.isLabel]

/-- The labels whose names are taken are noted with their names and lines. -/
theorem map_redefinitions (statements : List Node) :
    (State.initial statements).redefinitions.map (fun noted => (noted.name, noted.line)) =
      repeated statements := by
  rw [State.redefinitions_initial, List.map_filterMap, repeated]
  congr 1
  funext index
  unfold redefinitionAt?
  cases statements[index]? with
  | none => rfl
  | some statement =>
      cases statement with
      | label name location =>
          simp only [← isSome_lastLine?]
          cases lastLine? (statements.take index) name <;> rfl
      | _ => rfl

end Labels

theorem Evaluation.boolean_eq_ok_iff {view : View} {budget : Nat} {condition : Node}
    {truth : Bool} :
    boolean view budget condition = .ok truth ↔
      evaluate view budget condition = .ok (.boolean truth) := by
  unfold boolean
  constructor
  · intro found
    obtain ⟨value, evaluated, found⟩ := exists_of_bind_ok found
    cases value with
    | boolean value =>
        cases found
        exact evaluated
    | number | string => cases found
  · intro evaluated
    rw [evaluated]
    rfl

namespace State

section

variable (settings : Settings) (painter : Painter) (budget : Nat) (state : State)

/-- Whether a statement is a jump to a label whose condition comes out as true, or as
false. -/
def Decides (statement : Node) (label : Name) (truth : Bool) : Prop :=
  ∃ condition location, statement = .jump label condition location ∧
    Evaluation.evaluate ⟨settings, painter, some state⟩ budget condition = .ok (.boolean truth)

end

variable {settings : Settings} {painter : Painter} {budget : Nat} {state : State}
  {statement : Node} {label : Name}

theorem Decides.jumpTaken? (decides : state.Decides settings painter budget statement label true) :
    state.jumpTaken? settings painter budget statement =
      (state.labels.find? label).map fun target => (label, target) := by
  obtain ⟨condition, location, rfl, evaluated⟩ := decides
  rw [State.jumpTaken?, Evaluation.boolean_eq_ok_iff.mpr evaluated]

theorem jumpTaken?_eq_none
    (undecided : ∀ label, ¬ state.Decides settings painter budget statement label true) :
    state.jumpTaken? settings painter budget statement = none := by
  cases statement with
  | jump label condition location =>
      rw [jumpTaken?]
      split
      · rename_i held
        exact absurd ⟨condition, location, rfl, Evaluation.boolean_eq_ok_iff.mp held⟩
          (undecided label)
      · rfl
  | _ => rfl

/-- A jump to nowhere fails. -/
theorem Decides.perform_unknown
    (decides : state.Decides settings painter budget statement label true)
    (unknown : state.labels.find? label = none) :
    state.perform settings painter budget statement =
      .error (.ofMishap (.unknownLabel label) statement) := by
  obtain ⟨condition, location, rfl, evaluated⟩ := decides
  rw [perform, Evaluation.boolean_eq_ok_iff.mpr evaluated, ok_bind, if_pos rfl, unknown]

/-- A jump that is not to be taken does nothing, whether there is a label or not. -/
theorem Decides.perform_false
    (decides : state.Decides settings painter budget statement label false) :
    state.perform settings painter budget statement = .ok (state, []) := by
  obtain ⟨condition, location, rfl, evaluated⟩ := decides
  rw [perform, Evaluation.boolean_eq_ok_iff.mpr evaluated, ok_bind]
  rfl

end State

namespace Job

variable {job : Job} {count : Nat} {statement : Node} {label : Name}

theorem find?_labels_after (job : Job) (count : Nat) (name : Name) :
    (job.after count).state.labels.find? name =
      (State.initial job.statements).labels.find? name := by
  rw [(job.sound_after count).labels]

theorem outcome_of_perform_error {fault : Fault}
    (next : job.next? (job.after count) = some statement)
    (below : (job.after count).state.atLimit job.settings = none)
    (fails : (job.after count).state.count.perform job.settings job.painting job.budget statement =
      .error fault) :
    (job.after (count + 1)).outcome = .failed fault statement := by
  have failed : (job.stepOf (job.after count) statement).fault = some fault := by
    rw [stepOf, State.step, below]
    dsimp only
    rw [fails]
  rw [after_succ_of_next? next, extend, failed]

theorem hasFailed_of_perform_ok {reached : State} {events : List Event}
    (next : job.next? (job.after count) = some statement)
    (below : (job.after count).state.atLimit job.settings = none)
    (performed : (job.after count).state.count.perform job.settings job.painting job.budget
      statement = .ok (reached, events)) :
    (job.after (count + 1)).hasFailed = false := by
  have unfailed : (job.stepOf (job.after count) statement).fault = none := by
    rw [stepOf, State.step, below]
    dsimp only
    rw [performed]
  rw [after_succ_of_next? next, hasFailed_extend, unfailed]
  rfl

/-- A jump that has been taken leads behind the last label of its name. -/
theorem counter_of_decides (next : job.next? (job.after count) = some statement)
    (unfailed : (job.after (count + 1)).hasFailed = false)
    (decides : (job.after count).state.count.Decides job.settings job.painting job.budget statement
      label true) :
    ∃ target, IsGreatest (Labels.indices job.statements label) target ∧
      (job.after (count + 1)).state.counter = target + 1 := by
  have counter := counter_after_succ next unfailed
  rw [decides.jumpTaken?] at counter
  cases known : (job.after count).state.count.labels.find? label with
  | some target =>
      rw [known] at counter
      have initial := (job.find?_labels_after count label).symm.trans known
      exact ⟨target, (Labels.find?_initial_eq_some_iff job.statements label target).mp initial,
        counter⟩
  | none =>
      have below : (job.after count).state.atLimit job.settings = none := by
        apply atLimit_of_not_hasFailed next
        rwa [← after_succ]
      have failed := outcome_of_perform_error next below (decides.perform_unknown known)
      rw [Run.hasFailed, failed] at unfailed
      cases unfailed

/-- The labels of a program and where its statements lead.  The table of labels knows
the names of all labels and leads to the last label of each, and every label whose name
is taken is noted.  In the course of a run, a statement that completes leads to the one
behind it, unless it is a jump whose condition holds: that leads behind the last label
of its name.  Such a jump fails if there is no label of that name, and a jump whose
condition does not hold never does. -/
theorem labels_and_jumps (job : Job) :
    (∀ name target, (State.initial job.statements).labels.find? name = some target ↔
      IsGreatest (Labels.indices job.statements name) target) ∧
    (∀ name, (State.initial job.statements).labels.find? name = none ↔
      ∀ statement ∈ job.statements, statement.isLabel name = false) ∧
    (State.initial job.statements).redefinitions.map (fun noted => (noted.name, noted.line)) =
      Labels.repeated job.statements ∧
    ∀ count statement, job.next? (job.after count) = some statement →
      let run := job.after count
      let reached := job.after (count + 1)
      let Decides := run.state.count.Decides job.settings job.painting job.budget statement
      (reached.hasFailed = false →
        (∀ label, Decides label true → ∃ target,
          IsGreatest (Labels.indices job.statements label) target ∧
          reached.state.counter = target + 1) ∧
        ((∀ label, ¬ Decides label true) → reached.state.counter = run.state.counter + 1)) ∧
      (run.state.atLimit job.settings = none →
        (∀ label, Decides label true →
          (∀ other ∈ job.statements, other.isLabel label = false) →
            reached.outcome = .failed (.ofMishap (.unknownLabel label) statement) statement) ∧
        ∀ label, Decides label false → reached.hasFailed = false) := by
  refine ⟨Labels.find?_initial_eq_some_iff job.statements,
    Labels.find?_initial_eq_none_iff job.statements, Labels.map_redefinitions job.statements, ?_⟩
  intro count statement next run reached Decides
  refine ⟨fun unfailed => ⟨fun label => counter_of_decides next unfailed, ?_⟩,
    fun below => ⟨?_, ?_⟩⟩
  · intro undecided
    rw [counter_after_succ next unfailed, State.jumpTaken?_eq_none undecided]
    rfl
  · intro label decides missing
    refine outcome_of_perform_error next below (decides.perform_unknown ?_)
    exact (job.find?_labels_after count label).trans
      ((Labels.find?_initial_eq_none_iff job.statements label).mpr missing)
  · exact fun label decides => hasFailed_of_perform_ok next below decides.perform_false

/-- A job that jumps to a label of which there are two, does not jump there again, and gets
lost. -/
def wandering : Job where
  settings := ⟨6, none, false, Nat.succ_pos 5⟩
  painting := ({} : Painting)
  statements :=
    [.jump "on" (.literal Kind.boolean.name (some (.boolean true)) ⟨1, 10⟩) ⟨1, 1⟩,
      .label "on" ⟨2, 1⟩, .label "on" ⟨3, 1⟩,
      .jump "on" (.literal Kind.boolean.name (some (.boolean false)) ⟨4, 10⟩) ⟨4, 1⟩,
      .jump "lost" (.literal Kind.boolean.name (some (.boolean true)) ⟨5, 12⟩) ⟨5, 1⟩]

theorem wandering_labels_and_jumps :
    IsGreatest (Labels.indices wandering.statements "on") 2 ∧
    Labels.repeated wandering.statements = [(.ofText "on", 3)] ∧
    (wandering.after 1).state.counter = 3 ∧
    (wandering.after 2).hasFailed = false ∧
    (wandering.after 2).state.counter = 4 ∧
    ∃ statement, wandering.next? (wandering.after 2) = some statement ∧
      (wandering.after 3).outcome =
        .failed (.ofMishap (.unknownLabel "lost") statement) statement := by
  obtain ⟨known, unknown, repeated, jumps⟩ := labels_and_jumps wandering
  have greatest : IsGreatest (Labels.indices wandering.statements "on") 2 :=
    (known "on" 2).mp rfl
  obtain ⟨taken, -⟩ := jumps 0 _ rfl
  obtain ⟨target, isTarget, counter⟩ := (taken rfl).1 "on" ⟨_, _, rfl, rfl⟩
  rw [isTarget.unique greatest] at counter
  obtain ⟨passed, attempted⟩ := jumps 1 _ rfl
  have unfailed := (attempted rfl).2 "on" ⟨_, _, rfl, rfl⟩
  have undecided : ∀ label, ¬ (wandering.after 1).state.count.Decides wandering.settings
      wandering.painting wandering.budget wandering.statements[3] label true := by
    rintro label ⟨condition, location, same, holds⟩
    cases same
    cases holds
  have next := (passed unfailed).2 undecided
  rw [counter] at next
  obtain ⟨-, lost⟩ := jumps 2 _ rfl
  exact ⟨greatest, repeated.symm, counter, unfailed, next, _, rfl,
    (lost rfl).1 "lost" ⟨_, _, rfl, rfl⟩ ((unknown "lost").mp rfl)⟩

end Job
end PixelBrush
