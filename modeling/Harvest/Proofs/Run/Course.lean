import Harvest.Proofs.Run.AtOnce
import Harvest.Proofs.Run.Passage

/-!
Contract: the course of a job that has a quiet world for itself and waits for nothing but the time.

A course says what a job exchanges with a world, each exchange with its time: requests are
answered as the world attends to them, and a sleeper wakes at the time it has asked for. So it
is a passage whose long stays are sleeps, and the number of a course bounds how many those are.
`run_of_course` ties it to `World.run`: a world runs a script along its course.
-/

namespace Harvest

namespace World

variable {σ α β : Type} {surroundings : Surroundings σ} {records : Records}

/-- A job comes, in a number of moments at most, to what remains of it in a later world. -/
inductive Course (surroundings : Surroundings σ) (records : Records) :
    (moments : Nat) → World σ → Job α → List (Nat × Exchange) → World σ → Job α → Prop where
  | stay (world : World σ) (job : Job α) : Course surroundings records 0 world job [] world job
  | answered {moments : Nat} {world later last : World σ} {request : Request} {next : request.Answer → Job α}
      {answer : request.Answer} {trail : List (Nat × Exchange)} {rest : Job α}
      (attended : world.attend surroundings records none none request = (later, .answer answer))
      (behind : Course surroundings records moments later (next answer) trail last rest) :
      Course surroundings records moments world (.request request next)
        ((world.now, ⟨request, answer⟩) :: trail) last rest
  | slept {moments time : Nat} {world last : World σ} {next : Unit → Job α} {trail : List (Nat × Exchange)}
      {rest : Job α} (ahead : world.now ≤ time)
      (behind : Course surroundings records moments { world with now := time } (next ()) trail last rest) :
      Course surroundings records (moments + 1) world (.request (.sleepUntil time) next)
        ((time, ⟨.sleepUntil time, ()⟩) :: trail) last rest

/-! ### Courses -/

namespace Course

variable {moments more : Nat} {world middle last : World σ}

theorem quiet {job rest : Job α} {trail : List (Nat × Exchange)}
    (course : Course surroundings records moments world job trail last rest) (quiet : world.IsQuiet) : last.IsQuiet := by
  induction course with
  | stay => exact quiet
  | answered attended _ inductionHypothesis => exact inductionHypothesis (quiet.attend attended)
  | slept _ _ inductionHypothesis => exact inductionHypothesis ⟨quiet.alone, quiet.undisturbed⟩

theorem append {job between rest : Job α} {front back : List (Nat × Exchange)}
    (first : Course surroundings records moments world job front middle between)
    (second : Course surroundings records more middle between back last rest) :
    Course surroundings records (moments + more) world job (front ++ back) last rest := by
  induction first with
  | stay =>
    rw [Nat.zero_add]
    exact second
  | answered attended _ inductionHypothesis => exact .answered attended (inductionHypothesis second)
  | slept ahead _ inductionHypothesis =>
    rw [Nat.add_right_comm]
    exact .slept ahead (inductionHypothesis second)

theorem andThen {job : Job α} {next : α → Job β} {value : α} {rest : Job β} {front back : List (Nat × Exchange)}
    (first : Course surroundings records moments world job front middle (.done value))
    (second : Course surroundings records more middle (next value) back last rest) :
    Course surroundings records (moments + more) world (job.andThen next) (front ++ back) last rest := by
  generalize finished : Job.done value = ending at first
  induction first with
  | stay =>
    subst finished
    rw [Nat.zero_add]
    exact second
  | answered attended _ inductionHypothesis => exact .answered attended (inductionHypothesis second finished)
  | slept ahead _ inductionHypothesis =>
    rw [Nat.add_right_comm]
    exact .slept ahead (inductionHypothesis second finished)

theorem bind {script : Script α} {next : α → Script β} {value : α} {rest : Job (Except Failure β)}
    {front back : List (Nat × Exchange)}
    (first : Course surroundings records 0 world script.run front middle (.done (.ok value)))
    (second : Course surroundings records moments middle (next value).run back last rest) :
    Course surroundings records moments world (script >>= next).run (front ++ back) last rest := by
  have whole : Course surroundings records (0 + moments) world (script >>= next).run (front ++ back) last rest :=
    first.andThen second
  rw [Nat.zero_add] at whole
  exact whole

/-- A sequence ends with its first part if nothing is left to do behind that. -/
theorem andThen_done {job : Job α} {next : α → Job β} {value : α} {result : β} {trail : List (Nat × Exchange)}
    (first : Course surroundings records moments world job trail last (.done value)) (ends : next value = .done result) :
    Course surroundings records moments world (job.andThen next) trail last (.done result) := by
  have whole : Course surroundings records (moments + 0) world (job.andThen next) (trail ++ []) last (.done result) := by
    apply first.andThen
    rw [ends]
    exact .stay _ _
  rw [List.append_nil] at whole
  exact whole

theorem bind_error {script : Script α} {next : α → Script β} {failure : Failure} {trail : List (Nat × Exchange)}
    (first : Course surroundings records moments world script.run trail last (.done (.error failure))) :
    Course surroundings records moments world (script >>= next).run trail last (.done (.error failure)) :=
  first.andThen_done rfl

/-- A job that ends without a wait takes no moment. -/
theorem of_runJob {job : Job α} {value : α}
    (ends : runJob surroundings records none job none world = (last, .ended (some value))) :
    ∃ trail, Course surroundings records 0 world job trail last (.done value) := by
  induction job generalizing world with
  | done reached =>
    rw [runJob] at ends
    cases ends
    exact ⟨[], .stay _ _⟩
  | request request next inductionHypothesis =>
    rw [runJob] at ends
    split at ends
    case h_1 attended =>
      obtain ⟨trail, course⟩ := inductionHypothesis _ ends
      exact ⟨_, .answered attended course⟩
    case h_2 => cases ends
    case h_3 => cases ends

/-- The exchanges of a course are a trail of the job. -/
theorem trail {job rest : Job α} {timed : List (Nat × Exchange)}
    (course : Course surroundings records moments world job timed last rest) :
    Job.Trail job (timed.map Prod.snd) rest := by
  induction course with
  | stay => exact .stay _
  | answered _ _ inductionHypothesis => exact .step inductionHypothesis
  | slept _ _ inductionHypothesis => exact .step inductionHypothesis

end Course

/-! ### Runs along a course -/

/-- A course is a passage. -/
theorem Course.passage {moments : Nat} {world last : World σ} {job rest : Job α} {timed : List (Nat × Exchange)}
    (course : Course surroundings records moments world job timed last rest) :
    ∃ stays, Passage surroundings records world job stays last rest ∧ stays.countP Stay.isLong ≤ moments := by
  induction course with
  | stay world job => exact ⟨[], .stay world job, Nat.le_refl 0⟩
  | answered attended _ inductionHypothesis =>
    obtain ⟨stays, passage, few⟩ := inductionHypothesis
    refine ⟨_, .answered attended passage, ?_⟩
    rw [List.countP_cons_of_neg (by simp [Stay.isLong])]
    exact few
  | @slept moments time world last next trail rest ahead _ inductionHypothesis =>
    obtain ⟨stays, passage, few⟩ := inductionHypothesis
    have woken : ({ world with now := time } : World σ).attend surroundings records none none (.sleepUntil time) =
        ({ world with now := time }, .answer ()) := by
      simp [attend]
    rcases Nat.lt_or_eq_of_le ahead with before | same
    · have asleep : world.attend surroundings records none none (.sleepUntil time) = (world, .wait none) := by
        simp [attend, Nat.not_le.mpr before]
      refine ⟨_, .waited asleep rfl before woken passage, ?_⟩
      rw [List.countP_cons]
      split <;> omega
    · subst same
      refine ⟨_, .answered woken passage, ?_⟩
      rw [List.countP_cons_of_neg (by simp [Stay.isLong])]
      exact Nat.le_succ_of_le few

/-- A quiet world runs a script along its course, to the outcome where the course ends. -/
theorem run_of_course {moments : Nat} {world last : World σ} {script : Script α} {outcome : Except Failure α}
    {trail : List (Nat × Exchange)}
    (course : Course surroundings records moments world script.run trail last (.done outcome))
    (quiet : world.IsQuiet) (enough : moments < bound) : world.run surroundings records script = (last, outcome) := by
  obtain ⟨stays, passage, few⟩ := course.passage
  exact run_of_passage passage quiet (Nat.lt_of_le_of_lt few enough)

end World

end Harvest
