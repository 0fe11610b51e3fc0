import Harvest.Proofs.Run.Frame
import Harvest.Proofs.Run.Trail

/-!
Contract: the passage of a job through a quiet world, with the time that each request takes.

A world is quiet if nothing runs in the background and no incident is to come. A job stays at each of its
requests until it has the answer, which is at once or at the time at which it is due. `Passage.unique` says
that there is one way to the end of a job, and `run_of_passage` that `World.run` takes it.
-/

namespace Harvest

/-- A request with its answer, when it was made, and when the answer was there. -/
structure Stay where
  begun : Nat
  ended : Nat
  exchange : Exchange

def Stay.isLong (stay : Stay) : Bool :=
  decide (stay.begun < stay.ended)

namespace World

variable {σ α β : Type} {surroundings : Surroundings σ} {records : Records}

/-- Nothing can happen in a world but what the process in front does. -/
structure IsQuiet (world : World σ) : Prop where
  alone : world.background = []
  undisturbed : world.incidents = []

/-- A job comes by its stays to what remains of it in a later world. -/
inductive Passage (surroundings : Surroundings σ) (records : Records) :
    World σ → Job α → List Stay → World σ → Job α → Prop where
  | stay (world : World σ) (job : Job α) : Passage surroundings records world job [] world job
  | answered {world later last : World σ} {request : Request} {next : request.Answer → Job α}
      {answer : request.Answer} {stays : List Stay} {rest : Job α}
      (attended : world.attend surroundings records none none request = (later, .answer answer))
      (behind : Passage surroundings records later (next answer) stays last rest) :
      Passage surroundings records world (.request request next)
        (⟨world.now, world.now, ⟨request, answer⟩⟩ :: stays) last rest
  | waited {time : Nat} {world waiting later last : World σ} {request : Request} {next : request.Answer → Job α}
      {hold : Option Hold} {answer : request.Answer} {stays : List Stay} {rest : Job α}
      (begun : world.attend surroundings records none none request = (waiting, .wait hold))
      (due : waiting.dueTime? ⟨Job.perform request, records, none, hold⟩ = some time) (ahead : waiting.now < time)
      (attended : ({ waiting with now := time } : World σ).attend surroundings records none hold request =
        (later, .answer answer))
      (behind : Passage surroundings records later (next answer) stays last rest) :
      Passage surroundings records world (.request request next)
        (⟨world.now, time, ⟨request, answer⟩⟩ :: stays) last rest

/-! ### What a request leaves as it is -/

theorem attendWork_frame (world : World σ) (hold : Option Hold) (work : PageWork) :
    (world.attendWork surroundings hold work).1.incidents = world.incidents ∧
      (world.attendWork surroundings hold work).1.now = world.now := by
  unfold attendWork
  split <;> exact ⟨rfl, rfl⟩

/-- No request makes time pass or has an incident happen. -/
theorem attend_frame (world : World σ) (records : Records) (race : Option Nat) (hold : Option Hold)
    (request : Request) :
    (world.attend surroundings records race hold request).1.incidents = world.incidents ∧
      (world.attend surroundings records race hold request).1.now = world.now := by
  cases request with
  | ask work => exact attendWork_frame world hold work
  | askBy deadline work =>
    simp only [attend, attendWorkBy_world]
    exact attendWork_frame world hold work
  | listen subscription limit awaited =>
    simp only [attend]
    split <;> exact ⟨rfl, rfl⟩
  | race cases selector previous =>
    cases racing : Hold.race? hold with
    | none => rw [attend_race_new world records race hold cases selector previous racing]; exact ⟨rfl, rfl⟩
    | some held => rw [attend_race_held world records race hold cases selector previous racing]; exact ⟨rfl, rfl⟩
  | win value => cases race <;> exact ⟨rfl, rfl⟩
  | _ => exact ⟨rfl, rfl⟩

/-- A race that has just begun is decided at once or cannot be waited for alone. -/
theorem dueTime?_race {world waiting : World σ} {cases : List (List Action)} {selector : String} {previous : Json}
    {hold : Option Hold} {time : Nat}
    (begun : world.attend surroundings records none none (.race cases selector previous) = (waiting, .wait hold))
    (due : waiting.dueTime? ⟨Job.perform (.race cases selector previous), records, none, hold⟩ = some time) :
    time = waiting.now := by
  rw [attend_race_new world records none none cases selector previous rfl] at begun
  cases begun
  simp only [dueTime?, Job.perform] at due
  split at due
  · exact (Option.some.inj due).symm
  · cases due

/-- When a request is due does not depend on what is done with its answer. -/
theorem dueTime?_request (world : World σ) (request : Request) (next : request.Answer → Job α) (records : Records)
    (race : Option Nat) (hold : Option Hold) :
    world.dueTime? ⟨.request request next, records, race, hold⟩ =
      world.dueTime? ⟨Job.perform request, records, race, hold⟩ := by
  match hold with
  | none => cases request <;> rfl
  | some (.working finish outcome) => cases request <;> rfl
  | some (.racing race) => cases request <;> rfl

theorem IsQuiet.attend {world later : World σ} {hold : Option Hold} {request : Request} {answer : request.Answer}
    (quiet : world.IsQuiet) (attended : world.attend surroundings records none hold request = (later, .answer answer)) :
    later.IsQuiet := by
  have background := attend_answered_background attended
  have incidents : (world.attend surroundings records none hold request).1.incidents = world.incidents :=
    (attend_frame world records none hold request).1
  rw [attended] at incidents
  exact ⟨background.trans quiet.alone, incidents.trans quiet.undisturbed⟩

/-- A world stays quiet when a process waits for something that is due later. -/
theorem IsQuiet.wait {world waiting : World σ} {hold : Option Hold} {request : Request} {time : Nat}
    (quiet : world.IsQuiet) (begun : world.attend surroundings records none none request = (waiting, .wait hold))
    (due : waiting.dueTime? ⟨Job.perform request, records, none, hold⟩ = some time) (ahead : waiting.now < time) :
    waiting.IsQuiet := by
  have incidents : (world.attend surroundings records none none request).1.incidents = world.incidents :=
    (attend_frame world records none none request).1
  have background : (world.attend surroundings records none none request).1.background = world.background := by
    refine attend_background world records none none fun cases selector previous same => ?_
    subst same
    exact Nat.ne_of_gt ahead (dueTime?_race begun due)
  rw [begun] at incidents background
  exact ⟨background.trans quiet.alone, incidents.trans quiet.undisturbed⟩

/-! ### Passages -/

namespace Passage

variable {world middle last : World σ}

theorem append {job between rest : Job α} {front back : List Stay}
    (first : Passage surroundings records world job front middle between)
    (second : Passage surroundings records middle between back last rest) :
    Passage surroundings records world job (front ++ back) last rest := by
  induction first with
  | stay => exact second
  | answered attended _ inductionHypothesis => exact .answered attended (inductionHypothesis second)
  | waited begun due ahead attended _ inductionHypothesis =>
    exact .waited begun due ahead attended (inductionHypothesis second)

theorem andThen {job : Job α} {next : α → Job β} {value : α} {rest : Job β} {front back : List Stay}
    (first : Passage surroundings records world job front middle (.done value))
    (second : Passage surroundings records middle (next value) back last rest) :
    Passage surroundings records world (job.andThen next) (front ++ back) last rest := by
  generalize finished : Job.done value = ending at first
  induction first with
  | stay =>
    subst finished
    exact second
  | answered attended _ inductionHypothesis => exact .answered attended (inductionHypothesis second finished)
  | waited begun due ahead attended _ inductionHypothesis =>
    exact .waited begun due ahead attended (inductionHypothesis second finished)

theorem bind {script : Script α} {next : α → Script β} {value : α} {rest : Job (Except Failure β)}
    {front back : List Stay} (first : Passage surroundings records world script.run front middle (.done (.ok value)))
    (second : Passage surroundings records middle (next value).run back last rest) :
    Passage surroundings records world (script >>= next).run (front ++ back) last rest :=
  first.andThen second

/-- A sequence ends with its first part if nothing is left to do behind that. -/
theorem andThen_done {job : Job α} {next : α → Job β} {value : α} {result : β} {stays : List Stay}
    (first : Passage surroundings records world job stays last (.done value)) (ends : next value = .done result) :
    Passage surroundings records world (job.andThen next) stays last (.done result) := by
  have whole : Passage surroundings records world (job.andThen next) (stays ++ []) last (.done result) := by
    apply first.andThen
    rw [ends]
    exact .stay _ _
  rw [List.append_nil] at whole
  exact whole

theorem bind_error {script : Script α} {next : α → Script β} {failure : Failure} {stays : List Stay}
    (first : Passage surroundings records world script.run stays last (.done (.error failure))) :
    Passage surroundings records world (script >>= next).run stays last (.done (.error failure)) :=
  first.andThen_done rfl

/-- There is one passage to the end of a job. -/
theorem unique {job : Job α} {stays others : List Stay} {other : World σ} {value otherValue : α}
    (passage : Passage surroundings records world job stays last (.done value))
    (also : Passage surroundings records world job others other (.done otherValue)) :
    last = other ∧ stays = others ∧ value = otherValue := by
  generalize finished : Job.done value = ending at passage
  induction passage generalizing others with
  | stay =>
    subst finished
    cases also
    exact ⟨rfl, rfl, rfl⟩
  | answered attended _ inductionHypothesis =>
    cases also with
    | answered attendedAlso behind =>
      cases attended.symm.trans attendedAlso
      obtain ⟨rfl, rfl, rfl⟩ := inductionHypothesis behind finished
      exact ⟨rfl, rfl, rfl⟩
    | waited begun => cases attended.symm.trans begun
  | waited begun due ahead attended _ inductionHypothesis =>
    cases also with
    | answered attendedAlso => cases begun.symm.trans attendedAlso
    | waited begunAlso dueAlso _ attendedAlso behind =>
      cases begun.symm.trans begunAlso
      cases due.symm.trans dueAlso
      cases attended.symm.trans attendedAlso
      obtain ⟨rfl, rfl, rfl⟩ := inductionHypothesis behind finished
      exact ⟨rfl, rfl, rfl⟩

end Passage

/-! ### Runs along a passage -/

def front (records : Records) (job : Job α) : Process α where
  job := job
  records := records

theorem IsQuiet.undergoDue {world : World σ} (quiet : world.IsQuiet) : world.undergoDue = world := by
  unfold World.undergoDue
  rw [quiet.undisturbed]
  show { world with incidents := [] } = world
  rw [← quiet.undisturbed]

/-- Where nothing runs in the background, all wait already. -/
theorem settle_of_alone {world : World σ} (alone : world.background = []) (limit : Nat) :
    World.settle surroundings limit world = world := by
  cases limit with
  | zero => rfl
  | succ limit =>
    rw [World.settle, alone]
    show { world with background := [] } = world
    rw [← alone]

theorem IsQuiet.settle {world : World σ} (quiet : world.IsQuiet) (limit : Nat) :
    World.settle surroundings limit world = world :=
  settle_of_alone quiet.alone limit

theorem runInFront_answered {world later : World σ} {request : Request} {next : request.Answer → Job α}
    {hold : Option Hold} {answer : request.Answer}
    (attended : world.attend surroundings records none hold request = (later, .answer answer)) (limit : Nat) :
    world.runInFront surroundings limit ⟨.request request next, records, none, hold⟩ =
      if limit = 0 then (world, none) else later.runInFront surroundings limit (front records (next answer)) := by
  cases limit with
  | zero => rfl
  | succ limit =>
    have same : world.runUntilWait surroundings ⟨.request request next, records, none, hold⟩ =
        later.runUntilWait surroundings (front records (next answer)) := by
      unfold runUntilWait front
      rw [runJob, attended]
    rw [if_neg (Nat.succ_ne_zero limit), runInFront, runInFront, same]

/-- A process that has the world for itself goes on when it is due. -/
theorem runInFront_waited {world waiting : World σ} {request : Request} {next : request.Answer → Job α}
    {hold : Option Hold} {time : Nat} (quiet : waiting.IsQuiet)
    (begun : world.attend surroundings records none none request = (waiting, .wait hold))
    (due : waiting.dueTime? ⟨Job.perform request, records, none, hold⟩ = some time) (ahead : waiting.now < time)
    (limit : Nat) :
    world.runInFront surroundings (limit + 1) (front records (.request request next)) =
      World.runInFront surroundings limit { waiting with now := time }
        ⟨.request request next, records, none, hold⟩ := by
  rw [← dueTime?_request waiting request next] at due
  have waits : world.runUntilWait surroundings (front records (.request request next)) =
      (waiting, .waiting ⟨.request request next, records, none, hold⟩) := by
    unfold runUntilWait front
    rw [runJob, begun]
  have unready : waiting.isReady ⟨.request request next, records, none, hold⟩ = false := by
    simp [isReady, due, ahead]
  have moment : waiting.nextMoment? ⟨.request request next, records, none, hold⟩ = some time := by
    simp [nextMoment?, due, quiet.alone, quiet.undisturbed]
  have later : max waiting.now time = time := Nat.max_eq_right (Nat.le_of_lt ahead)
  rw [runInFront, waits]
  simp only [quiet.undergoDue, quiet.settle, unready, Bool.false_eq_true, if_false, moment, later]

/-- A quiet world goes along the passage of the job in front; each long stay takes a moment. -/
theorem runInFront_passage {limit : Nat} {world last : World σ} {job rest : Job α} {stays : List Stay}
    (passage : Passage surroundings records world job stays last rest) (quiet : world.IsQuiet)
    (enough : stays.countP Stay.isLong < limit) :
    ∃ left, 0 < left ∧ world.runInFront surroundings limit (front records job) =
      last.runInFront surroundings left (front records rest) := by
  induction passage generalizing limit with
  | stay => exact ⟨limit, enough, rfl⟩
  | answered attended _ inductionHypothesis =>
    have positive : limit ≠ 0 := Nat.ne_zero_of_lt enough
    have fewer := Nat.lt_of_le_of_lt (List.Sublist.countP_le (List.sublist_cons_self _ _)) enough
    unfold front
    rw [runInFront_answered attended, if_neg positive]
    exact inductionHypothesis (quiet.attend attended) fewer
  | @waited time world waiting later last request next hold answer stays rest begun due ahead attended _
      inductionHypothesis =>
    obtain ⟨limit, rfl⟩ : ∃ less, limit = less + 1 := ⟨limit - 1, by omega⟩
    have sameTime : (world.attend surroundings records none none request).1.now = world.now :=
      (attend_frame world records none none request).2
    rw [begun] at sameTime
    have long : Stay.isLong ⟨world.now, time, ⟨request, answer⟩⟩ = true := by
      rw [← sameTime]
      exact decide_eq_true ahead
    rw [List.countP_cons_of_pos long] at enough
    have quietly : waiting.IsQuiet := quiet.wait begun due ahead
    have still : World.IsQuiet { waiting with now := time } := ⟨quietly.alone, quietly.undisturbed⟩
    rw [runInFront_waited quietly begun due ahead, runInFront_answered attended, if_neg (by omega)]
    exact inductionHypothesis (still.attend attended) (by omega)

/-- A quiet world runs a script along its passage, to the outcome where the passage ends. -/
theorem run_of_passage {world last : World σ} {script : Script α} {outcome : Except Failure α} {stays : List Stay}
    (passage : Passage surroundings records world script.run stays last (.done outcome)) (quiet : world.IsQuiet)
    (enough : stays.countP Stay.isLong < bound) : world.run surroundings records script = (last, outcome) := by
  obtain ⟨left, positive, along⟩ := runInFront_passage passage quiet enough
  obtain ⟨left, rfl⟩ : ∃ less, left = less + 1 := ⟨left - 1, by omega⟩
  have ended : last.runInFront surroundings (left + 1) (front records (.done outcome)) = (last, some outcome) := rfl
  unfold run
  rw [show ({ job := script.run, records := records } : Process (Except Failure α)) = front records script.run from rfl,
    along, ended]

end World

end Harvest
