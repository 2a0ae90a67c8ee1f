import Mathlib.Data.List.Basic
import Mathlib.Data.List.TakeWhile
import PixelBrush.CommandLine.Report
import PixelBrush.Proofs.Ending
import PixelBrush.Proofs.Refusal
import PixelBrush.State.Display

/-! # What displayed runs show

A notification can be put into a sentence unless one of its numbers has too
many digits, and the sentence fills one line.  As long as all of them can,
displaying a run changes nothing about it.
-/

namespace PixelBrush

namespace Text

/-- Whether a text stays on one line. -/
def IsLine (text : String) : Prop :=
  '\n' ∉ text.toList

instance (text : String) : Decidable (IsLine text) :=
  inferInstanceAs (Decidable ('\n' ∉ text.toList))

@[simp]
theorem isLine_append {first second : String} :
    IsLine (first ++ second) ↔ IsLine first ∧ IsLine second := by
  simp [IsLine]

theorem lineFeed_not_mem_toDigits (value : Nat) : '\n' ∉ Nat.toDigits 10 value := by
  intro member
  have digit := Nat.isDigit_of_mem_toDigits (by decide) (by decide) member
  exact absurd digit (by decide)

theorem isLine_toString (value : Int) : IsLine (toString value) := by
  cases value with
  | ofNat value =>
      change '\n' ∉ value.repr.toList
      simp [lineFeed_not_mem_toDigits]
  | negSucc value =>
      change '\n' ∉ ("-" ++ (value + 1).repr).toList
      simp [lineFeed_not_mem_toDigits]

theorem isLine_decimal? {value : Int} {text : String} (shown : decimal? value = some text) :
    IsLine text := by
  unfold decimal? at shown
  split at shown
  · cases shown
    exact isLine_toString value
  · cases shown

end Text

namespace Notification

/-- Whether none of the numbers in a notification has too many digits. -/
def IsShort (told : Notification) : Prop :=
  ∀ number, Value.number number ∈ told.details → Text.digitCount number ≤ Text.digitLimit

theorem isSome_decimal? {number : Int} :
    (Text.decimal? number).isSome = true ↔ Text.digitCount number ≤ Text.digitLimit := by
  rw [Option.isSome_iff_ne_none, Ne, Text.decimal?_eq_none_iff, Nat.not_lt]

theorem isSome_point? {x y : Int} :
    (point? x y).isSome = true ↔
      Text.digitCount x ≤ Text.digitLimit ∧ Text.digitCount y ≤ Text.digitLimit := by
  rw [Option.isSome_iff_ne_none, Ne, point?_eq_none_iff]
  simp

theorem sentence?_eq_none_iff (colored : Bool) (told : Notification) :
    told.sentence? colored = none ↔ ¬ told.IsShort := by
  cases told with
  | color shade => simp [sentence?, IsShort, details]
  | spawn | size | fill =>
      unfold sentence?
      rw [bind_eq_none_iff fun _ => pure_eq_none_iff _]
      simp [IsShort, details, point?_eq_none_iff, Text.decimal?_eq_none_iff, imp_iff_not_or]
  | line | circle =>
      unfold sentence?
      rw [bind_eq_none_iff fun _ => bind_eq_none_iff fun _ => bind_eq_none_iff fun _ =>
        pure_eq_none_iff _]
      simp [IsShort, details, point?_eq_none_iff, Text.decimal?_eq_none_iff, imp_iff_not_or,
        or_assoc]
  | rectangle =>
      unfold sentence?
      rw [bind_eq_none_iff fun _ => bind_eq_none_iff fun _ => bind_eq_none_iff fun _ =>
        bind_eq_none_iff fun _ => pure_eq_none_iff _]
      simp [IsShort, details, point?_eq_none_iff, Text.decimal?_eq_none_iff, imp_iff_not_or,
        or_assoc]

/-- A notification can be put into a sentence exactly if its numbers are short. -/
theorem isSome_sentence? (colored : Bool) (told : Notification) :
    (told.sentence? colored).isSome = true ↔ told.IsShort := by
  rw [Option.isSome_iff_ne_none, Ne, sentence?_eq_none_iff, not_not]

theorem isLine_point? {x y : Int} {text : String} (shown : point? x y = some text) :
    Text.IsLine text := by
  obtain ⟨first, shownX, shown⟩ := exists_of_bind_some shown
  obtain ⟨second, shownY, shown⟩ := exists_of_bind_some shown
  cases shown
  have lines := And.intro (Text.isLine_decimal? shownX) (Text.isLine_decimal? shownY)
  simp +decide [lines]

theorem isLine_shownColor (colored : Bool) (shade : Color) :
    Text.IsLine (shownColor colored shade.name) := by
  cases colored <;> cases shade <;> decide

/-- The sentence about a notification stays on one line if the colors in it do. -/
theorem isLine_sentence? {colored : Bool} {told : Notification} {sentence : String}
    (shown : told.sentence? colored = some sentence)
    (shades : ∀ shade, Value.string shade ∈ told.details →
      Text.IsLine (shownColor colored shade)) : Text.IsLine sentence := by
  cases told with
  | spawn x y =>
      obtain ⟨place, shownPlace, shown⟩ := exists_of_bind_some shown
      cases shown
      have line := isLine_point? shownPlace
      simp +decide [line]
  | color shade =>
      cases shown
      have line := shades shade (by simp [details])
      simp +decide [line]
  | size thickness =>
      obtain ⟨size, shownSize, shown⟩ := exists_of_bind_some shown
      cases shown
      have line := Text.isLine_decimal? shownSize
      simp +decide [line]
  | line startX startY endX endY shade thickness =>
      obtain ⟨start, shownStart, shown⟩ := exists_of_bind_some shown
      obtain ⟨finish, shownFinish, shown⟩ := exists_of_bind_some shown
      obtain ⟨size, shownSize, shown⟩ := exists_of_bind_some shown
      cases shown
      have lines := And.intro (isLine_point? shownStart) (isLine_point? shownFinish)
      have brush := And.intro (shades shade (by simp [details])) (Text.isLine_decimal? shownSize)
      simp +decide [lines, brush]
  | circle centerX centerY radius shade thickness =>
      obtain ⟨center, shownCenter, shown⟩ := exists_of_bind_some shown
      obtain ⟨extent, shownExtent, shown⟩ := exists_of_bind_some shown
      obtain ⟨size, shownSize, shown⟩ := exists_of_bind_some shown
      cases shown
      have lines := And.intro (isLine_point? shownCenter) (Text.isLine_decimal? shownExtent)
      have brush := And.intro (shades shade (by simp [details])) (Text.isLine_decimal? shownSize)
      simp +decide [lines, brush]
  | rectangle x y width height shade thickness =>
      obtain ⟨corner, shownCorner, shown⟩ := exists_of_bind_some shown
      obtain ⟨breadth, shownBreadth, shown⟩ := exists_of_bind_some shown
      obtain ⟨depth, shownDepth, shown⟩ := exists_of_bind_some shown
      obtain ⟨size, shownSize, shown⟩ := exists_of_bind_some shown
      cases shown
      have lines := And.intro (isLine_point? shownCorner)
        (And.intro (Text.isLine_decimal? shownBreadth) (Text.isLine_decimal? shownDepth))
      have brush := And.intro (shades shade (by simp [details])) (Text.isLine_decimal? shownSize)
      simp +decide [lines, brush]
  | fill x y shade =>
      obtain ⟨place, shownPlace, shown⟩ := exists_of_bind_some shown
      cases shown
      have line := isLine_point? shownPlace
      have brush := shades shade (by simp [details])
      simp +decide [line, brush]

end Notification

/-- The sentence about an effect stays on one line. -/
theorem Effect.isLine {settings : Settings} {robot after : Robot} {told : Notification}
    {colored : Bool} {sentence : String} (effect : Effect settings robot after told)
    (shown : told.sentence? colored = some sentence) : Text.IsLine sentence := by
  apply Notification.isLine_sentence? shown
  intro shade member
  have canonical : ∃ color : Color, shade = color.name := by
    cases effect with
    | spawn | size => simp [Notification.details] at member
    | color spawned => exact ⟨_, by simpa [Notification.details] using member⟩
    | line | circle | rectangle | fill =>
        exact ⟨robot.color, by simpa [Notification.details] using member⟩
  obtain ⟨color, rfl⟩ := canonical
  exact Notification.isLine_shownColor colored color

theorem Event.isSome_line? {colored : Bool} {events : List Event}
    (writable : (notifications events).find? (fun told => (told.sentence? colored).isNone) = none) :
    ∀ event ∈ events, (event.line? colored).isSome = true := by
  intro event member
  cases event with
  | traced line => rfl
  | notified told =>
      have reported : told ∈ notifications events := mem_notifications.mpr member
      simpa [line?, Option.isSome_iff_ne_none] using List.find?_eq_none.mp writable told reported

/-- A step tells the painter last of all. -/
theorem State.Attempted.exists_front {settings : Settings} {painter : Painter} {budget : Nat}
    {state : State} {statement : Node} {step : Step} {told : Notification}
    (attempted : Attempted settings painter budget state statement step)
    (member : told ∈ Event.notifications step.events) :
    ∃ front, step.events = front ++ [.notified told] ∧ Event.notifications front = [] := by
  have silent : Event.notifications (state.announcement settings statement) = [] :=
    notifications_announcement state statement
  cases attempted with
  | refused reached => cases member
  | failed below fails =>
      rw [silent] at member
      cases member
  | completed below carriedOut =>
      refine ⟨state.announcement settings statement, ?_, silent⟩
      rw [Event.notifications_append, silent, List.nil_append] at member
      cases carriedOut with
      | instruction effect =>
          rw [Event.notifications_notified, List.mem_singleton] at member
          rw [member]
      | jump held known => simp at member
      | assignment | pass | label => cases member

theorem Step.displayed_of_short {colored : Bool} {before : State} {step : Step}
    (short : ∀ told ∈ Event.notifications step.events, told.IsShort) :
    step.displayed colored before = step := by
  have writable : (Event.notifications step.events).find?
      (fun told => (told.sentence? colored).isNone) = none := by
    rw [List.find?_eq_none]
    intro told member
    have shown := (told.isSome_sentence? colored).mpr (short told member)
    simp [Option.isNone_iff_eq_none, Option.ne_none_iff_isSome.mpr shown]
  unfold displayed
  rw [writable]

namespace Job

variable {job : Job} {run : Run} {statement : Node} {colored : Bool} {count : Nat}

/-- What comes of a statement in a displayed run that has come to it. -/
def displayedStepOf (job : Job) (colored : Bool) (run : Run) (statement : Node) : Step :=
  (job.stepOf run statement).displayed colored run.state

theorem advanceDisplayed_of_next? (next : job.next? run = some statement) :
    job.advanceDisplayed colored run =
      job.extend run statement (job.displayedStepOf colored run statement) := by
  unfold next? at next
  unfold advanceDisplayed
  cases stands : run.outcome with
  | running =>
      rw [stands] at next
      dsimp only at next ⊢
      rw [next]
      rfl
  | finished | failed =>
      rw [stands] at next
      cases next

theorem advanceDisplayed_of_next?_none (ended : job.next? run = none) :
    job.advanceDisplayed colored run = run := by
  unfold next? at ended
  unfold advanceDisplayed
  cases stands : run.outcome with
  | running =>
      rw [stands] at ended
      dsimp only at ended ⊢
      rw [ended]
  | finished | failed => rfl

/-- As long as no number that is told has too many digits, displaying a run does not
change it. -/
theorem displayedAfter_of_short (short : ∀ told ∈ (job.after count).notifications, told.IsShort) :
    job.displayedAfter colored count = job.after count := by
  induction count with
  | zero => rfl
  | succ count induction =>
      rw [displayedAfter, after_succ]
      rw [after_succ] at short
      cases next : job.next? (job.after count) with
      | none =>
          rw [advance_of_next?_none next] at short ⊢
          rw [induction short, advanceDisplayed_of_next?_none next]
      | some statement =>
          rw [advance_of_next? next, notifications_extend] at short
          have before := induction fun told member => short told (List.mem_append_left _ member)
          have step : job.displayedStepOf colored (job.after count) statement =
              job.stepOf (job.after count) statement :=
            Step.displayed_of_short fun told member => short told (List.mem_append_right _ member)
          rw [before, advanceDisplayed_of_next? next, advance_of_next? next, step]

/-- A displayed run without overlong numbers shows one sentence for each notification, in
their order. -/
theorem map_some_display (short : ∀ told ∈ run.notifications, told.IsShort) :
    (run.display colored).map some = run.notifications.map (Notification.sentence? colored) := by
  unfold Run.display
  rw [List.map_filterMap, ← List.filterMap_eq_map]
  apply List.filterMap_congr
  intro told member
  have shown := (told.isSome_sentence? colored).mpr (short told member)
  cases sentence : told.sentence? colored with
  | none => simp [sentence] at shown
  | some sentence => simp [sentence]

/-- Every sentence that a run shows stays on one line. -/
theorem isLine_of_mem_display {line : String}
    (member : line ∈ (job.after count).display colored) : Text.IsLine line := by
  have lines : ∀ told ∈ (job.after count).notifications, ∀ sentence,
      told.sentence? colored = some sentence → Text.IsLine sentence := by
    apply notifications_induction (motive := fun _ log => ∀ told ∈ log, ∀ sentence,
      told.sentence? colored = some sentence → Text.IsLine sentence)
    · simp
    · intro robot after notification log holds effect told member sentence shown
      rcases List.mem_append.mp member with earlier | last
      · exact holds told earlier sentence shown
      · rw [List.mem_singleton] at last
        subst last
        exact effect.isLine shown
  obtain ⟨told, reported, shown⟩ := List.mem_filterMap.mp member
  exact lines told reported line shown

theorem isSome_line?_of_mem_opening (job : Job) {event : Event} (member : event ∈ job.opening) :
    (event.line? colored).isSome = true := by
  unfold opening at member
  split at member
  · obtain ⟨noted, -, rfl⟩ := List.mem_map.mp member
    rfl
  · cases member

/-- As long as every number that is told is short, everything about a run can be written. -/
theorem isSome_line?_of_short (job : Job) (short : ∀ told ∈ run.notifications, told.IsShort) :
    ∀ event ∈ job.opening ++ run.events, (event.line? colored).isSome = true := by
  intro event member
  rcases List.mem_append.mp member with opening | later
  · exact job.isSome_line?_of_mem_opening opening
  · cases event with
    | traced line => rfl
    | notified told =>
        exact (told.isSome_sentence? colored).mpr (short told (Event.mem_notifications.mpr later))

/-- How a displayed run stands to the run itself once a sentence could not be written: it
has ended there, and up to there the same has happened. -/
structure BrokenOff (colored : Bool) (shown run : Run) : Prop where
  ended : shown.isRunning = false
  events : ∃ front told rest, shown.events = front ++ [.notified told] ∧
    run.events = front ++ .notified told :: rest ∧
    (∀ event ∈ front, (event.line? colored).isSome = true) ∧ told.sentence? colored = none

theorem events_advance (run : Run) :
    ∃ further, (job.advance run).events = run.events ++ further := by
  cases next : job.next? run with
  | none =>
      rw [advance_of_next?_none next]
      exact ⟨[], (List.append_nil _).symm⟩
  | some statement =>
      rw [advance_of_next? next]
      exact ⟨(job.stepOf run statement).events, events_extend ..⟩

theorem BrokenOff.advance {shown : Run} (brokenOff : BrokenOff colored shown run) :
    BrokenOff colored (job.advanceDisplayed colored shown) (job.advance run) := by
  obtain ⟨ended, front, told, rest, shownEvents, events, writable, unwritable⟩ := brokenOff
  obtain ⟨further, advanced⟩ := job.events_advance run
  rw [advanceDisplayed_of_next?_none (next?_of_not_isRunning ended)]
  refine ⟨ended, front, told, rest ++ further, shownEvents, ?_, writable, unwritable⟩
  rw [advanced, events, List.append_assoc, List.cons_append]

theorem brokenOff_extend {told : Notification}
    (writable : ∀ event ∈ run.events, (event.line? colored).isSome = true)
    (found : (Event.notifications (job.stepOf run statement).events).find?
      (fun told => (told.sentence? colored).isNone) = some told) :
    BrokenOff colored (job.extend run statement (job.displayedStepOf colored run statement))
      (job.extend run statement (job.stepOf run statement)) := by
  have unwritable : told.sentence? colored = none := by
    simpa [Option.isNone_iff_eq_none] using List.find?_some found
  have attempted : State.Attempted job.settings job.painting job.budget run.state statement
      (job.stepOf run statement) := run.state.attempted ..
  obtain ⟨front, events, announced⟩ := attempted.exists_front (List.mem_of_find?_eq_some found)
  have displayed : (job.displayedStepOf colored run statement).fault = some .tooManyDigits ∧
      (job.displayedStepOf colored run statement).events = (job.stepOf run statement).events := by
    unfold displayedStepOf Step.displayed
    rw [found]
    exact ⟨rfl, rfl⟩
  refine ⟨?_, run.events ++ front, told, [], ?_, ?_, ?_, unwritable⟩
  · unfold extend
    rw [displayed.1]
    rfl
  · rw [events_extend, displayed.2, events, List.append_assoc]
  · rw [events_extend, events, List.append_assoc]
  · intro event member
    rcases List.mem_append.mp member with earlier | last
    · exact writable event earlier
    · cases event with
      | traced line => rfl
      | notified other =>
          have reported : other ∈ Event.notifications front := Event.mem_notifications.mpr last
          rw [announced] at reported
          cases reported

/-- A displayed run is the run itself as long as everything can be written, and has been
broken off at the first notification that cannot. -/
theorem displayedAfter_cases (job : Job) (colored : Bool) (count : Nat) :
    (job.displayedAfter colored count = job.after count ∧
      ∀ event ∈ (job.after count).events, (event.line? colored).isSome = true) ∨
    BrokenOff colored (job.displayedAfter colored count) (job.after count) := by
  induction count with
  | zero => exact .inl ⟨rfl, by simp [after, proceed, start, Run.events, Run.steps]⟩
  | succ count induction =>
      rw [displayedAfter, after_succ]
      rcases induction with ⟨same, writable⟩ | brokenOff
      · rw [same]
        cases next : job.next? (job.after count) with
        | none =>
            rw [advanceDisplayed_of_next?_none next, advance_of_next?_none next]
            exact .inl ⟨rfl, writable⟩
        | some statement =>
            rw [advanceDisplayed_of_next? next, advance_of_next? next]
            cases found : (Event.notifications
              (job.stepOf (job.after count) statement).events).find?
                (fun told => (told.sentence? colored).isNone) with
            | some told => exact .inr (brokenOff_extend writable found)
            | none =>
                have step : job.displayedStepOf colored (job.after count) statement =
                    job.stepOf (job.after count) statement := by
                  unfold displayedStepOf Step.displayed
                  rw [found]
                refine .inl ⟨by rw [step], ?_⟩
                intro event member
                rw [events_extend] at member
                rcases List.mem_append.mp member with earlier | last
                · exact writable event earlier
                · exact Event.isSome_line? found event last
      · exact .inr brokenOff.advance

end Job

namespace Invocation

variable {terminal : Bool}

theorem length_printed_le (terminal : Bool) (events : List Event) :
    (printed terminal events).length ≤ events.length := by
  unfold printed
  calc
    _ ≤ ((events.map (Event.line? terminal)).takeWhile Option.isSome).length :=
      List.length_filterMap_le ..
    _ ≤ (events.map (Event.line? terminal)).length := (List.takeWhile_prefix _).length_le
    _ = events.length := List.length_map ..

/-- As long as all events can be written, one line is printed for each. -/
theorem map_some_printed {events : List Event}
    (writable : ∀ event ∈ events, (event.line? terminal).isSome = true) :
    (printed terminal events).map some = events.map (Event.line? terminal) := by
  have through : ∀ line ∈ events.map (Event.line? terminal), line.isSome = true := by
    simpa using writable
  have kept : ∀ line ∈ events.map (Event.line? terminal), (id line).map some = some line := by
    intro line member
    obtain ⟨text, rfl⟩ := Option.isSome_iff_exists.mp (through line member)
    rfl
  unfold printed
  rw [List.takeWhile_eq_self_iff.mpr through, List.map_filterMap, List.filterMap_congr kept,
    List.filterMap_some]

/-- Nothing is printed behind an event that cannot be written. -/
theorem printed_append {front : List Event} {event : Event}
    (writable : ∀ event ∈ front, (event.line? terminal).isSome = true)
    (unwritable : event.line? terminal = none) (rest : List Event) :
    printed terminal (front ++ event :: rest) = printed terminal front := by
  have through : ∀ line ∈ front.map (Event.line? terminal), line.isSome = true := by
    simpa using writable
  unfold printed
  rw [List.map_append, List.map_cons, unwritable, List.takeWhile_append_of_pos through,
    List.takeWhile_cons_of_neg (by simp), List.append_nil,
    List.takeWhile_eq_self_iff.mpr through]

theorem conclude_of_unwritable (invocation : Invocation) {job : Job} {run : Run}
    {front rest : List Event} {event : Event}
    (events : job.opening ++ run.events = front ++ event :: rest)
    (writable : ∀ event ∈ front, (event.line? terminal).isSome = true)
    (unwritable : event.line? terminal = none) :
    invocation.conclude terminal job run =
      { Report.crashing (.fault .tooManyDigits) with lines := printed terminal front } := by
  have short := length_printed_le terminal front
  unfold conclude
  dsimp only
  rw [events, printed_append writable unwritable, if_pos (by simp; omega)]
  simp [Report.crashing]

/-- The report on a run is the report on the run as it is displayed. -/
theorem conclude_displayedAfter (invocation : Invocation) (terminal : Bool) (job : Job)
    (count : Nat) :
    invocation.conclude terminal job (job.displayedAfter terminal count) =
      invocation.conclude terminal job (job.after count) := by
  rcases job.displayedAfter_cases terminal count with ⟨same, -⟩ | brokenOff
  · rw [same]
  · obtain ⟨-, front, told, rest, shownEvents, events, writable, unwritable⟩ := brokenOff
    have opened : ∀ event ∈ job.opening ++ front, (event.line? terminal).isSome = true := by
      intro event member
      rcases List.mem_append.mp member with opening | later
      · exact job.isSome_line?_of_mem_opening opening
      · exact writable event later
    have unwritten : (Event.notified told).line? terminal = none := unwritable
    have shownEvents : job.opening ++ (job.displayedAfter terminal count).events =
        (job.opening ++ front) ++ [.notified told] := by
      rw [shownEvents, List.append_assoc]
    have events : job.opening ++ (job.after count).events =
        (job.opening ++ front) ++ .notified told :: rest := by
      rw [events, List.append_assoc]
    rw [conclude_of_unwritable invocation shownEvents opened unwritten,
      conclude_of_unwritable invocation events opened unwritten]

end Invocation
end PixelBrush
