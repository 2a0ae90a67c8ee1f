import PixelBrush.Proofs.Jumps

/-! # Programs that only jump forward

As long as every jump leads forward, the counter rises with every statement.  So a
program without a backward jump comes to its end and carries out none of its statements
twice.  Where a jump leads is decided by the last label of its name: a label of that name
in front of the jump is no way back if there is another one behind it.
-/

namespace PixelBrush

namespace Labels

/-- Whether no jump leads back: the last label of its name stands behind the jump, unless
there is no such label at all. -/
def LeadForward (statements : List Node) : Prop :=
  ∀ index label condition location target,
    statements[index]? = some (.jump label condition location) →
      IsGreatest (indices statements label) target → index < target

/-- Whether a statement at an index does not jump back, by the table of labels. -/
def leadsForward (statements : List Node) (index : Nat) : Node → Bool
  | .jump label _ _ => ((State.initial statements).labels.find? label).all (index < ·)
  | _ => true

theorem leadForward_iff (statements : List Node) :
    LeadForward statements ↔
      ∀ entry ∈ statements.zipIdx, leadsForward statements entry.2 entry.1 = true := by
  constructor
  · rintro forward ⟨statement, index⟩ member
    cases statement with
    | jump label condition location =>
        have stands := List.mem_zipIdx_iff_getElem?.mp member
        simp only [leadsForward, Option.all_eq_true, decide_eq_true_eq]
        intro target known
        exact forward index label condition location target stands
          ((find?_initial_eq_some_iff statements label target).mp known)
    | _ => rfl
  · intro checked index label condition location target stands last
    have known := (find?_initial_eq_some_iff statements label target).mpr last
    have forward := checked (.jump label condition location, index)
      (List.mem_zipIdx_iff_getElem?.mpr stands)
    simpa [leadsForward, known] using forward

instance : DecidablePred LeadForward :=
  fun statements => decidable_of_iff _ (leadForward_iff statements).symm

end Labels

namespace Job

section

variable {job : Job} (forward : Labels.LeadForward job.statements)

include forward

/-- A statement that completes moves the counter forward, be it a jump or not. -/
theorem counter_lt_succ {count : Nat} {statement : Node}
    (next : job.next? (job.after count) = some statement)
    (unfailed : (job.after (count + 1)).hasFailed = false) :
    (job.after count).state.counter < (job.after (count + 1)).state.counter := by
  by_cases taken : ∃ label, (job.after count).state.count.Decides job.settings job.painting
      job.budget statement label true
  · obtain ⟨label, decides⟩ := taken
    obtain ⟨target, last, counter⟩ := counter_of_decides next unfailed decides
    obtain ⟨condition, location, rfl, -⟩ := decides
    have behind := forward _ label condition location target (getElem?_of_next? next) last
    rw [counter]
    exact Nat.lt_succ_of_lt behind
  · rw [counter_after_succ next unfailed, State.jumpTaken?_eq_none (not_exists.mp taken)]
    exact Nat.lt_succ_self _

theorem counter_lt_of_lt {earlier later : Nat} (running : (job.after later).isRunning = true)
    (order : earlier < later) :
    (job.after earlier).state.counter < (job.after later).state.counter := by
  induction later with
  | zero => exact absurd order (Nat.not_lt_zero earlier)
  | succ later induction =>
      have before := isRunning_of_le running (Nat.le_succ later)
      obtain ⟨statement, next⟩ := exists_next? before
      have moved := counter_lt_succ forward next (Run.hasFailed_of_isRunning running)
      rcases Nat.lt_or_eq_of_le (Nat.le_of_lt_succ order) with less | rfl
      · exact (induction before less).trans moved
      · exact moved

theorem le_counter {count : Nat} (running : (job.after count).isRunning = true) :
    count ≤ (job.after count).state.counter := by
  induction count with
  | zero => exact Nat.zero_le _
  | succ count induction =>
      have before := isRunning_of_le running (Nat.le_succ count)
      exact (induction before).trans_lt
        (counter_lt_of_lt forward running (Nat.lt_succ_self count))

/-- There are no more statements to be carried out than the program has. -/
theorem not_isRunning_length : (job.after job.statements.length).isRunning = false := by
  by_contra running
  rw [Bool.not_eq_false] at running
  exact absurd (le_counter forward running) (Nat.not_le.mpr (counter_lt_of_isRunning running))

end

/-- A program without backward jumps comes to its end, in whatever way.  Until then it counts
at most as many steps as it has statements, and the counter rises all along, so that no
statement is carried out twice. -/
theorem endsAfter_of_leadForward (job : Job) (unlimited : job.settings.stepLimit = none)
    (forward : Labels.LeadForward job.statements) :
    ∃ count, job.EndsAfter count ∧ (job.after count).state.steps = count ∧
      count ≤ job.statements.length ∧
      ∀ earlier later, earlier < later → later < count →
        (job.after earlier).state.counter < (job.after later).state.counter := by
  obtain ⟨count, atMost, ends⟩ := exists_endsAfter (not_isRunning_length forward)
  refine ⟨count, ends, steps_after unlimited ends.running, atMost, ?_⟩
  intro earlier later order within
  exact counter_lt_of_lt forward (ends.running later within) order

/-- A jump whose label stands both in front of it and behind it. -/
def detour : Job where
  settings := ⟨6, none, false, by decide⟩
  painting := ({} : Painting)
  statements :=
    [.label "turn" .nowhere,
      .jump "turn" (.literal Kind.boolean.name (some (.boolean true)) .nowhere) .nowhere,
      .instruction Command.fill.code [] .nowhere,
      .label "turn" .nowhere]

theorem detour_endsAfter :
    detour.settings.stepLimit = none ∧ Labels.LeadForward detour.statements ∧
    ∃ count, detour.EndsAfter count ∧ (detour.after count).state.steps = count ∧
      count ≤ 4 ∧
      ∀ earlier later, earlier < later → later < count →
        (detour.after earlier).state.counter < (detour.after later).state.counter := by
  have forward : Labels.LeadForward detour.statements := by decide
  exact ⟨rfl, forward, endsAfter_of_leadForward detour rfl forward⟩

end Job
end PixelBrush
