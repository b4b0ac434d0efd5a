import SnippetGrader.Proofs.Course
import SnippetGrader.Proofs.Output

/-!
# What a run prints and reads

The texts that the console accepts, one after the other, are the output of a run at each moment of
it: nothing is lost, put in another order or taken back, also where a computation fails. They are
never longer than the limit, and after one refusal nothing is accepted any more, because what was
refused still counts. Input is taken from the front and never given back.

Each statement is first shown of one event and then, by induction, of all events of a course.
-/

namespace SnippetGrader

open Source Statement

/-! ## The lines of a machine -/

namespace Machine

/-- The finished lines and the unfinished one, with line ends between them. -/
def joined (m : Machine) : String := "\n".intercalate (m.finished.toList ++ [m.pending])

theorem toList_joined (m : Machine) : m.joined.toList = m.text := by
  have hnl : "\n".toList = ['\n'] := rfl
  unfold joined text
  rw [String.toList_intercalate, List.map_append, List.map_singleton, intercalate_concat, hnl,
    List.flatMap_map]

/-- The console refuses a text, because the limit of output is passed. -/
def Refuses (m : Machine) (text : String) : Prop :=
  ∃ f m', Run.write text m = .error (.failed f) m' ∧ f.kind = "OutputLimitError"

theorem refuses_iff (m : Machine) (text : String) :
    m.Refuses text ↔ m.limits.maxOutputChars < ((m.counted text).written : Int) := by
  unfold Refuses
  rw [Run.write_eq]
  split
  · next h => exact ⟨fun _ => h, fun _ => ⟨_, _, rfl, rfl⟩⟩
  · next h =>
    refine ⟨?_, fun hlimit => absurd hlimit h⟩
    rintro ⟨f, m', hstop, -⟩
    cases hstop

end Machine

/-! ## One event -/

namespace Event

/-- What an event adds to the output: a text that is written and not refused. -/
def accepted (m : Machine) : Event → List Char
  | wrote text =>
    match Run.write text m with
    | .ok _ _ => text.toList
    | .error _ _ => []
  | _ => []

theorem accepted_wrote (m : Machine) (text : String) :
    accepted m (wrote text) =
      if ((m.counted text).written : Int) > m.limits.maxOutputChars then [] else text.toList := by
  rw [accepted, Run.write_eq]
  by_cases h : ((m.counted text).written : Int) > m.limits.maxOutputChars
  · rw [if_pos h, if_pos h]
  · rw [if_neg h, if_neg h]

variable (m : Machine) (event : Event)

theorem text_on : (event.on m).text = m.text ++ event.accepted m := by
  cases event with
  | wrote text =>
    rw [on, accepted_wrote]
    split
    · exact (List.append_nil _).symm
    · exact m.text_printed text
  | _ => exact (List.append_nil _).symm

theorem tidy_on (h : m.Tidy) : (event.on m).Tidy := by
  cases event with
  | wrote text =>
    rw [on]
    split
    · exact h
    · exact m.tidy_printed text
  | _ => exact h

/-- A text counts whether or not it is refused, and one that is accepted is within the limit. -/
theorem written_on : m.written + (event.accepted m).length ≤ (event.on m).written ∧
    (event.accepted m ≠ [] → ((event.on m).written : Int) ≤ m.limits.maxOutputChars) := by
  cases event with
  | wrote text =>
    rw [on, accepted_wrote]
    split
    · exact ⟨Nat.le_add_right _ _, fun h => absurd rfl h⟩
    · next h =>
      refine ⟨?_, fun _ => Int.not_lt.1 h⟩
      rw [String.length_toList]
      exact Nat.le_refl _
  | _ => exact ⟨Nat.le_refl _, fun h => absurd rfl h⟩

theorem inputs_on : (event.on m).inputs <:+ m.inputs := by
  cases event with
  | wrote text =>
    rw [on]
    split <;> exact List.suffix_rfl
  | read => exact List.tail_suffix _
  | _ => exact List.suffix_rfl

theorem limits_on : (event.on m).limits = m.limits := m.limits_replay [event]

end Event

/-! ## All events -/

namespace Machine

/-- The texts that are accepted in the course of some events, one after the other. -/
def accepted (m : Machine) : List Event → List Char
  | [] => []
  | event :: events => event.accepted m ++ (event.on m).accepted events

theorem accepted_append (m : Machine) (earlier later : List Event) :
    m.accepted (earlier ++ later) = m.accepted earlier ++ (m.replay earlier).accepted later := by
  induction earlier generalizing m with
  | nil => rfl
  | cons event earlier ih =>
    rw [List.cons_append, accepted, accepted, ih, List.append_assoc, replay_cons]

theorem text_replay (m : Machine) (events : List Event) :
    (m.replay events).text = m.text ++ m.accepted events := by
  induction events generalizing m with
  | nil => exact (List.append_nil _).symm
  | cons event events ih => rw [replay_cons, ih, event.text_on, List.append_assoc, accepted]

theorem tidy_replay {m : Machine} (h : m.Tidy) (events : List Event) : (m.replay events).Tidy := by
  induction events generalizing m with
  | nil => exact h
  | cons event events ih => exact ih (event.tidy_on m h)

theorem inputs_replay (m : Machine) (events : List Event) :
    (m.replay events).inputs <:+ m.inputs := by
  induction events generalizing m with
  | nil => exact List.suffix_rfl
  | cons event events ih => exact (ih (event.on m)).trans (event.inputs_on m)

/-- What is accepted fits into what the limit leaves, so after a refusal nothing is accepted. -/
theorem length_accepted_le (m : Machine) (events : List Event) :
    (m.accepted events).length ≤ (m.limits.maxOutputChars - m.written).toNat := by
  induction events generalizing m with
  | nil => exact Nat.zero_le _
  | cons event events ih =>
    have hrest := ih (event.on m)
    obtain ⟨hcount, hfits⟩ := event.written_on m
    rw [event.limits_on] at hrest
    rw [accepted, List.length_append]
    by_cases hnone : event.accepted m = []
    · rw [hnone] at hcount ⊢
      simp only [List.length_nil] at hcount ⊢
      omega
    · have hlimit := hfits hnone
      omega

theorem accepted_of_refuses {m : Machine} {text : String} (h : m.Refuses text)
    (events : List Event) : m.accepted (.wrote text :: events) = [] := by
  have hlimit := (m.refuses_iff text).1 h
  have hnone : Event.accepted m (.wrote text) = [] := by rw [Event.accepted_wrote, if_pos hlimit]
  have hon : Event.on m (.wrote text) = m.counted text := by rw [Event.on, if_pos hlimit]
  have hsame : (m.counted text).limits = m.limits := rfl
  have hrest := (m.counted text).length_accepted_le events
  rw [hsame] at hrest
  rw [accepted, hnone, hon, List.nil_append]
  exact List.eq_nil_of_length_eq_zero (by omega)

end Machine

/-! ## Computations -/

/-- What can be noticed of a machine tells what was printed and what is left to read. -/
theorem Machine.console_of_surface {m m' : Machine} (h : m.surface = m'.surface) :
    m.text = m'.text ∧ m.inputs = m'.inputs ∧ (m.Tidy ↔ m'.Tidy) := by
  have hfinished : m.finished = m'.finished := congrArg (·.finished) h
  have hpending : m.pending = m'.pending := congrArg (·.pending) h
  have hinputs : m.inputs = m'.inputs := congrArg (·.inputs) h
  unfold Machine.text Machine.Tidy
  rw [hfinished, hpending, hinputs]
  exact ⟨rfl, rfl, Iff.rfl⟩

/-- A computation only adds to the end of the output and only takes from the front of the input. -/
def Appends {α : Type} (x : Run α) : Prop :=
  ∀ m, m.joined.toList <+: (Outcome.after (x m)).joined.toList ∧
    (Outcome.after (x m)).inputs <:+ m.inputs

theorem Traces.appends {α : Type} {x : Run α} {t : Events} (h : Traces x t) : Appends x := by
  intro m
  obtain ⟨htext, hinputs, -⟩ := Machine.console_of_surface (h.surface_eq m)
  rw [Machine.toList_joined, Machine.toList_joined, htext, hinputs, Machine.text_replay]
  exact ⟨List.prefix_append _ _, m.inputs_replay _⟩

theorem Engine.level_appends (n : Nat) : (Engine.level n).All Appends where
  eval scope text := ((Engine.traced n).all.eval scope text).elim fun _ ht => ht.appends
  apply v args keywords := ((Engine.traced n).all.apply v args keywords).elim fun _ ht => ht.appends
  block scope lines := ((Engine.traced n).all.block scope lines).elim fun _ ht => ht.appends

theorem executeLine_appends (n scope : Nat) (line : Line) (rest : List Line) :
    Appends (executeLine (Engine.level n) scope line rest) := by
  obtain ⟨t, ht⟩ := (Engine.traced (n + 1)).statement n rfl scope line rest
  exact (Traces.line ht).appends

/-! ## Programs -/

/-- At each moment of a run, the lines on the console are the texts that were accepted so far, and
these are within the limit. After one refusal no text is accepted any more. The output of the report
is what was accepted, without a line end at its end. Whatever is evaluated, called or executed on
the way only adds to the end of the output and only takes from the front of the input. -/
theorem run_prints_accepted (limits : Limits) (inputs : Inputs) (code : String) (host : Host) :
    (∃ t, ProgramTraces host code t) ∧
      (∀ t, ProgramTraces host code t →
        let start := Machine.start limits inputs host
        (∀ earlier later, t start = earlier ++ later →
          let m := start.replay earlier
          m.joined.toList = start.accepted earlier ∧
            ((start.accepted earlier).length : Int) ≤ max 0 limits.maxOutputChars ∧
            m.inputs <:+ start.inputs ∧
            ∀ text later', later = .wrote text :: later' → m.Refuses text →
              start.accepted (t start) = start.accepted earlier) ∧
          (run limits inputs code host).output.toList = chomp (start.accepted (t start))) ∧
      (∀ n, (Engine.level n).All Appends) ∧
      ∀ n scope line rest, Appends (executeLine (Engine.level n) scope line rest) := by
  refine ⟨exists_programTraces host code, fun t ht => ?_, Engine.level_appends, executeLine_appends⟩
  obtain ⟨store, values, -, hstart⟩ := Machine.exists_start_eq inputs host
  have hlimits : (Machine.start limits inputs host).limits = limits := by rw [hstart]
  have hwritten : (Machine.start limits inputs host).written = 0 := by rw [hstart]
  have htext : (Machine.start limits inputs host).text = [] := by rw [hstart]; rfl
  have htidy := Machine.start_tidy limits inputs host
  have hsurface := ht.surface_eq (Machine.start limits inputs host)
  rw [run_eq_runOn, runOn]
  generalize Machine.start limits inputs host = start at *
  refine ⟨fun earlier later hsplit => ⟨?_, ?_, start.inputs_replay earlier, ?_⟩, ?_⟩
  · rw [Machine.toList_joined, Machine.text_replay, htext, List.nil_append]
  · have hle := start.length_accepted_le earlier
    rw [hlimits, hwritten] at hle
    omega
  · intro text later' hlater hrefuses
    rw [hsplit, hlater, Machine.accepted_append, Machine.accepted_of_refuses hrefuses,
      List.append_nil]
  · obtain ⟨hprinted, -, htidy'⟩ := Machine.console_of_surface hsurface
    have hend := htidy'.2 (Machine.tidy_replay htidy (t start))
    rw [Outcome.output_report hend, hprinted, Machine.text_replay, htext, List.nil_append]

end SnippetGrader
