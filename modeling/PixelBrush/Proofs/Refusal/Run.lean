import PixelBrush.Diagnosis
import PixelBrush.Proofs.Ending
import PixelBrush.Proofs.Refusal
import PixelBrush.Proofs.Source.Reading

/-! # How runs of a program text fail

Whatever is read from a text can be carried out, as far as the form of its
trees goes.  A run that fails does so for a reason that lies in the program,
and reports it at the place to blame.
-/

namespace PixelBrush

namespace State

variable {statement : Node} (settings : Settings) (painting : Painting) (budget : Nat)
  (state : State) (formed : statement.WellFormedStatement)

include formed

theorem perform_failsRegularly :
    FailsRegularly (state.perform settings painting budget statement) := by
  have regular := Evaluation.failsRegularlyWithin settings painting state budget
  have located := formed.located
  cases formed with
  | label identifier => exact FailsOnly.ok _
  | @assignment name value location identifier valueFormed =>
      exact .bind (regular.evaluate value valueFormed) fun _ => FailsOnly.ok _
  | @instruction command arguments location each =>
      unfold perform
      dsimp only
      rw [Name.text?_ofText, Option.bind_some, Command.ofCode?_code]
      have performs := Command.perform_failsOnly (Fault.regular_of_isOrdinary located) settings
        state.robot (fun argument member => regular.number argument (each argument member))
        (fun argument member => regular.color _ argument located (each argument member)) command
      exact .bind performs fun _ => FailsOnly.ok _
  | @jump target condition location identifier conditionFormed =>
      have truth : FailsRegularly
          (Evaluation.boolean ⟨settings, painting, some state⟩ budget condition) :=
        .bind (regular.evaluate condition conditionFormed)
          (Evaluation.asBoolean_failsOnly (Fault.regular_of_isOrdinary conditionFormed.located))
      refine .bind truth fun held => FailsOnly.ite ?_ (.ok _)
      cases state.labels.find? target with
      | none => exact FailsRegularly.mishap located rfl
      | some index => exact .ok _

/-- A statement of a program text can only fail with regular faults. -/
theorem step_regular {fault : Fault}
    (failed : (state.step settings painting budget statement).fault = some fault) :
    fault.Regular := by
  have attempted := state.attempted settings painting budget statement
  generalize state.step settings painting budget statement = step at attempted failed
  cases attempted with
  | refused reached =>
      obtain rfl := Option.some.inj failed
      exact Fault.regular_ofMishap rfl formed.located
  | failed below fails =>
      obtain rfl := Option.some.inj failed
      exact perform_failsRegularly settings painting budget state.count formed _ fails
  | completed below carriedOut => cases failed

end State

/-- How a run is told that has failed at a statement.  A mishap is reported with its own
message and location, nesting that is too deep with the location of the statement.
Instead of a mishap whose message would show a number with too many digits, there is a
fault without a report. -/
inductive Fault.Told (statement : Node) : Fault → Prop
  | mishap {cause : Mishap} {location : Location} {message : String}
      (ordinary : cause.isInternal = false) (reported : cause.message? = some message)
      (short : ∀ number ∈ cause.numbers, Text.digitCount number ≤ Text.digitLimit)
      (stepping : (Fault.mishap cause location).stepDiagnosis? =
        some ⟨.stepping, message, location⟩)
      (running : (Fault.mishap cause location).runDiagnosis? statement =
        some ⟨.running, message, location⟩) :
      Told statement (.mishap cause location)
  | tooDeep {location : Location} (stands : statement.location? = some location)
      (running : tooDeep.runDiagnosis? statement =
        some ⟨.running, "Expression nested too deeply", location⟩) :
      Told statement .tooDeep
  | unwritable {cause : Mishap} (ordinary : cause.isInternal = false)
      (long : ∃ number ∈ cause.numbers, Text.digitLimit < Text.digitCount number) :
      Told statement (.unwritable cause)

theorem Fault.Regular.told {fault : Fault} (regular : fault.Regular) {statement : Node}
    (located : statement.location?.isSome = true) : fault.Told statement := by
  cases regular with
  | @mishap cause location message ordinary reported =>
      refine .mishap ordinary reported (fun number member => ?_) ?_ ?_
      · by_contra long
        have unreported := cause.message?_eq_none_iff.mpr ⟨number, member, Nat.not_le.mp long⟩
        rw [reported] at unreported
        cases unreported
      · rw [stepDiagnosis?, reported]
        rfl
      · rw [runDiagnosis?, reported]
        rfl
  | tooDeep =>
      obtain ⟨location, stands⟩ := Option.isSome_iff_exists.mp located
      refine .tooDeep stands ?_
      rw [runDiagnosis?, stands]
      rfl
  | @unwritable cause ordinary unreported =>
      exact .unwritable ordinary (cause.message?_eq_none_iff.mp unreported)

theorem Job.failed_regular {settings : Settings} {painting : Painting} {statements : List Node}
    {budget : Nat} (formed : ∀ statement ∈ statements, statement.WellFormedStatement)
    (count : Nat) {fault : Fault} {statement : Node}
    (failed : ((Job.mk settings painting statements budget).after count).outcome =
      .failed fault statement) :
    statement ∈ statements ∧ fault.Regular := by
  obtain ⟨before, stands, fails, -⟩ := exists_step_of_failed failed
  have member : statement ∈ statements := List.mem_of_getElem? stands
  exact ⟨member,
    State.step_regular settings painting budget before (formed statement member) fails⟩

/-- Whatever is read from a text is carried out without an internal error.  A run that
fails does so at one of its statements, with a mishap that is reported with its message
and location, or because an expression nests too deeply, which is reported for the
statement, or with a mishap whose message has to show a number with too many digits. -/
theorem ReadsAs.failed_told {source : String} {tokens : List Token} {statements : List Node}
    (reads : ReadsAs source tokens statements) (settings : Settings) (painting : Painting)
    (budget count : Nat) {fault : Fault} {statement : Node}
    (failed : ((Job.mk settings painting statements budget).after count).outcome =
      .failed fault statement) :
    statement ∈ statements ∧ fault.Told statement := by
  obtain ⟨member, regular⟩ := Job.failed_regular reads.wellFormed count failed
  exact ⟨member, regular.told (reads.wellFormed statement member).located⟩

/-- The tokens of `Spawn(0, x)`. -/
def halfwayTokens : List Token :=
  [⟨.command .spawn, "Spawn", none, ⟨1, 1⟩⟩, ⟨.leftParenthesis, "(", none, ⟨1, 6⟩⟩,
    ⟨.number, "0", some (.number 0), ⟨1, 7⟩⟩, ⟨.comma, ",", none, ⟨1, 8⟩⟩,
    ⟨.identifier, "x", some (.string "x"), ⟨1, 10⟩⟩, ⟨.rightParenthesis, ")", none, ⟨1, 11⟩⟩,
    ⟨.endOfInput, "", none, ⟨1, 12⟩⟩]

/-- A robot that is spawned at a place which is not known. -/
def halfway : Node :=
  .instruction Command.spawn.code
    [.literal Kind.number.name (some (.number 0)) ⟨1, 7⟩, .reference "x" ⟨1, 10⟩] ⟨1, 1⟩

/-- The variable is to blame, not the command. -/
theorem halfway_told :
    ReadsAs "Spawn(0, x)" halfwayTokens [halfway] ∧
    ((Job.mk ⟨4, none, false, by decide⟩ (Painting.mk none []) [halfway]
      Node.nestingLimit).after 1).outcome =
        .failed (.mishap (.undefinedVariable "x") ⟨1, 10⟩) halfway ∧
    halfway ∈ [halfway] ∧ (Fault.mishap (.undefinedVariable "x") ⟨1, 10⟩).Told halfway := by
  have reads : ReadsAs "Spawn(0, x)" halfwayTokens [halfway] := ⟨by decide +kernel, rfl⟩
  have failed : ((Job.mk ⟨4, none, false, by decide⟩ (Painting.mk none []) [halfway]
      Node.nestingLimit).after 1).outcome =
        .failed (.mishap (.undefinedVariable "x") ⟨1, 10⟩) halfway := rfl
  exact ⟨reads, failed, reads.failed_told _ _ _ _ failed⟩

end PixelBrush
