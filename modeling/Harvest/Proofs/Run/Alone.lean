import Harvest.Proofs.Run.Answered
import Harvest.Proofs.Run.Course
import Harvest.Proofs.Run.Requests

/-!
Contract: a page that nothing but the process in front has to do with.

Such a page does the work that the process asks for, and stays as it is otherwise, however long the process waits
and whatever is reported meanwhile. `World.ends_of_run` says so of all runs without a race: the script ends behind
a trail of it, and the page goes along that trail.
-/

namespace Harvest

/-! ### Pages and trails -/

def Request.work? : Request → Option PageWork
  | .ask work => some work
  | .askBy _ work => some work
  | _ => none

/-- A request that begins no race. -/
def Request.IsRaceless : Request → Prop
  | .race _ _ _ => False
  | _ => True

/-- A page goes along a trail to a later page: the page answers the work that it is asked for, and nothing else changes
it. -/
inductive Page.Along : Page → List Exchange → Page → Prop where
  | stay (page : Page) : Along page [] page
  | works {page later : Page} {work : PageWork} {trail : List Exchange}
      (behind : Along (page.work work).page trail later) :
      Along page (⟨.ask work, (page.work work).answer⟩ :: trail) later
  | worksBy {page later : Page} (deadline : Nat) {work : PageWork} {trail : List Exchange}
      (behind : Along (page.work work).page trail later) :
      Along page (⟨.askBy deadline work, some (page.work work).answer⟩ :: trail) later
  | rests {page later : Page} {exchange : Exchange} {trail : List Exchange} (elsewhere : exchange.request.work? = none)
      (behind : Along page trail later) : Along page (exchange :: trail) later

namespace Page.Along

theorem append {page middle later : Page} {front back : List Exchange} (first : page.Along front middle)
    (last : middle.Along back later) : page.Along (front ++ back) later := by
  induction first with
  | stay => exact last
  | works _ inductionHypothesis => exact .works (inductionHypothesis last)
  | worksBy deadline _ inductionHypothesis => exact .worksBy deadline (inductionHypothesis last)
  | rests elsewhere _ inductionHypothesis => exact .rests elsewhere (inductionHypothesis last)

theorem split {page later : Page} {front back : List Exchange} (whole : page.Along (front ++ back) later) :
    ∃ middle, page.Along front middle ∧ middle.Along back later := by
  induction front generalizing page with
  | nil => exact ⟨page, .stay page, whole⟩
  | cons exchange front inductionHypothesis =>
    cases whole with
    | works behind =>
      obtain ⟨middle, first, last⟩ := inductionHypothesis behind
      exact ⟨middle, .works first, last⟩
    | worksBy deadline behind =>
      obtain ⟨middle, first, last⟩ := inductionHypothesis behind
      exact ⟨middle, .worksBy deadline first, last⟩
    | rests elsewhere behind =>
      obtain ⟨middle, first, last⟩ := inductionHypothesis behind
      exact ⟨middle, .rests elsewhere first, last⟩

/-- What no work changes stays the same along a trail of such work. -/
theorem preserves {α : Type} {part : Page → α} {harmless : PageWork → Prop}
    (kept : ∀ page work, harmless work → part (page.work work).page = part page) {page later : Page}
    {trail : List Exchange} (along : page.Along trail later)
    (only : ∀ exchange ∈ trail, ∀ work, exchange.request.work? = some work → harmless work) :
    part later = part page := by
  induction along with
  | stay => rfl
  | works _ inductionHypothesis =>
    obtain ⟨here, later⟩ := List.forall_mem_cons.mp only
    exact (inductionHypothesis later).trans (kept _ _ (here _ rfl))
  | worksBy _ _ inductionHypothesis =>
    obtain ⟨here, later⟩ := List.forall_mem_cons.mp only
    exact (inductionHypothesis later).trans (kept _ _ (here _ rfl))
  | rests _ _ inductionHypothesis => exact inductionHypothesis (List.forall_mem_cons.mp only).2

theorem eq_of_workless {page later : Page} {trail : List Exchange} (along : page.Along trail later)
    (workless : ∀ exchange ∈ trail, exchange.request.work? = none) : later = page := by
  induction along with
  | stay => rfl
  | works => cases workless _ List.mem_cons_self
  | worksBy => cases workless _ List.mem_cons_self
  | rests _ _ inductionHypothesis => exact inductionHypothesis (List.forall_mem_cons.mp workless).2

end Page.Along

/-! ### Where scripts end -/

/-- A script ends with an outcome behind a trail, and the page goes along. -/
structure Script.Ends {α : Type} (script : Script α) (page : Page) (trail : List Exchange) (outcome : Except Failure α)
    (later : Page) : Prop where
  way : Job.Trail script.run trail (.done outcome)
  along : page.Along trail later

namespace Script

variable {α β : Type} {page later : Page} {trail : List Exchange}

theorem ends_settled {settling outcome : Except Failure α} (ends : (settled settling).Ends page trail outcome later) :
    trail = [] ∧ outcome = settling ∧ later = page := by
  obtain ⟨way, along⟩ := ends
  obtain ⟨rfl, same⟩ := way.eq_of_done
  cases along
  exact ⟨rfl, Job.done.inj same, rfl⟩

theorem ends_pure {value : α} {outcome : Except Failure α}
    (ends : (pure value : Script α).Ends page trail outcome later) : trail = [] ∧ outcome = .ok value ∧ later = page :=
  ends_settled ends

theorem ends_fail {failure : Failure} {outcome : Except Failure α}
    (ends : (throw failure : Script α).Ends page trail outcome later) :
    trail = [] ∧ outcome = .error failure ∧ later = page :=
  ends_settled ends

theorem ends_call {call : PageCall} {outcome : Except Failure Json}
    (ends : (Script.call call).Ends page trail outcome later) :
    outcome = (page.dispatch call).answer ∧ later = (page.dispatch call).page := by
  obtain ⟨way, along⟩ := ends
  cases way with
  | step behind =>
    obtain ⟨rfl, same⟩ := behind.eq_of_done
    cases along with
    | works behind =>
      cases behind
      exact ⟨Job.done.inj same, rfl⟩
    | rests elsewhere _ => cases elsewhere

theorem ends_always {job : Job α} {outcome : Except Failure α} (ends : (always job).Ends page trail outcome later) :
    ∃ value, outcome = .ok value := by
  obtain ⟨front, back, value, _, _, last⟩ := Job.trail_of_andThen_done ends.way
  exact ⟨value, Job.done.inj last.eq_of_done.2⟩

/-- A sequence fails with its first part, or ends with its second part behind a success of the first. -/
theorem ends_bind {script : Script α} {next : α → Script β} {outcome : Except Failure β}
    (ends : (script >>= next).Ends page trail outcome later) :
    (∃ failure, outcome = .error failure ∧ script.Ends page trail (.error failure) later) ∨
      ∃ front back value middle, trail = front ++ back ∧ script.Ends page front (.ok value) middle ∧
        (next value).Ends middle back outcome later := by
  obtain ⟨way, along⟩ := ends
  obtain ⟨front, back, reached, rfl, first, last⟩ := Job.trail_of_andThen_done way
  cases reached with
  | error failure =>
    obtain ⟨rfl, same⟩ := last.eq_of_done
    rw [List.append_nil] at along ⊢
    exact .inl ⟨failure, Job.done.inj same, first, along⟩
  | ok value =>
    obtain ⟨middle, ahead, behind⟩ := along.split
    exact .inr ⟨front, back, value, middle, rfl, ⟨first, ahead⟩, last, behind⟩

theorem ends_bind_ok {script : Script α} {next : α → Script β} {result : β}
    (ends : (script >>= next).Ends page trail (.ok result) later) :
    ∃ front back value middle, trail = front ++ back ∧ script.Ends page front (.ok value) middle ∧
      (next value).Ends middle back (.ok result) later := by
  rcases ends_bind ends with ⟨failure, other, _⟩ | passed
  · cases other
  · exact passed

theorem ends_outcome {script : Script α} {outcome : Except Failure α}
    (ends : (Script.outcome script).Ends page trail (.ok outcome) later) : script.Ends page trail outcome later := by
  obtain ⟨front, back, reached, rfl, first, last⟩ := Job.trail_of_andThen_done ends.way
  obtain ⟨rfl, same⟩ := last.eq_of_done
  cases same
  exact ⟨(List.append_nil front).symm ▸ first, ends.along⟩

/-- The page answers a call at once, so the deadline does not matter. -/
theorem ends_callBy {deadline : Nat} {call : PageCall} {answer : Option (Except Failure Json)}
    (ends : (Script.callBy deadline call).Ends page trail (.ok answer) later) :
    answer = some (page.dispatch call).answer ∧ later = (page.dispatch call).page := by
  obtain ⟨way, along⟩ := ends
  cases way with
  | step behind =>
    obtain ⟨rfl, same⟩ := behind.eq_of_done
    cases along with
    | worksBy deadline behind =>
      cases behind
      cases same
      exact ⟨rfl, rfl⟩
    | rests elsewhere _ => cases elsewhere

/-- What asks the page for nothing leaves it as it is, and what it may not record it does not record. -/
theorem Ends.still {script : Script α} {outcome : Except Failure α} (ends : script.Ends page trail outcome later)
    (asks : script.AsksOnly fun request => request.work? = none ∧ request.IsLocal) :
    later = page ∧ ∀ exchange ∈ trail, exchange.request.IsLocal := by
  have workless := (Job.AsksOnly.trail asks ends.way).1
  exact ⟨ends.along.eq_of_workless fun exchange member => (workless exchange member).1,
    fun exchange member => (workless exchange member).2⟩

end Script

/-! ### Runs -/

namespace World

/-- A world is left to the process in front: nothing stands in front of the page, nothing runs in the background, and no
incident changes the page. Events may be reported at any time. -/
structure IsLeft (world : World Stage) : Prop where
  unfixed : world.state.fixed = []
  alone : world.background = []
  undisturbed : ∀ incident ∈ world.incidents, ∀ stage, (incident.change stage).1 = stage

/-- A trail leads from one world to another: the page goes along, and if nothing is recorded on the trail, the ledgers
are what they were. -/
structure Leads (world : World Stage) (trail : List Exchange) (later : World Stage) : Prop where
  page : world.state.page.Along trail later.state.page
  ledgers : (∀ exchange ∈ trail, exchange.request.IsLocal) → later.ledgers = world.ledgers

theorem Leads.stay {world later : World Stage} (state : later.state = world.state)
    (ledgers : later.ledgers = world.ledgers) : world.Leads [] later where
  page := state ▸ .stay _
  ledgers _ := ledgers

theorem Leads.append {world middle later : World Stage} {front back : List Exchange} (first : world.Leads front middle)
    (last : middle.Leads back later) : world.Leads (front ++ back) later where
  page := first.page.append last.page
  ledgers plain := by
    obtain ⟨ahead, behind⟩ := List.forall_mem_append.mp plain
    exact (last.ledgers behind).trans (first.ledgers ahead)

variable {surroundings : Surroundings Stage} (serves : surroundings.serve = Stage.serve)
  (consults : ∀ stage breaker time checks, (surroundings.consult stage breaker time checks).1 = stage)
  {world later : World Stage} (records : Records) {α : Type}

theorem IsLeft.of_same (left : world.IsLeft) (state : later.state = world.state)
    (background : later.background = world.background) (incidents : later.incidents = world.incidents) :
    later.IsLeft where
  unfixed := state ▸ left.unfixed
  alone := background.trans left.alone
  undisturbed := incidents ▸ left.undisturbed

include serves in
/-- In a world that is left to it, a process has the page do work at once. -/
theorem attend_work_left (left : world.IsLeft) (work : PageWork) : ∃ later : World Stage, later.IsLeft ∧
    later.state.page = (world.state.page.work work).page ∧ later.ledgers = world.ledgers ∧
    world.attend surroundings records none none (.ask work) = (later, .answer (world.state.page.work work).answer) ∧
    ∀ deadline, world.attend surroundings records none none (.askBy deadline work) =
      (later, .answer (some (world.state.page.work work).answer)) := by
  have answered := @attend_work surroundings serves records none world left.unfixed work
  refine ⟨_, ?_, ?_, ?_, answered, fun deadline => ?_⟩
  · exact ⟨left.unfixed, left.alone, left.undisturbed⟩
  · rfl
  · rfl
  have worked : world.attendWork surroundings none work = _ := answered
  simp only [attend, attendWorkBy, worked]

include serves consults

/-- What a request without a race does in a world that is left to the process: the page goes along with the answer, and
a wait changes nothing. -/
theorem attend_left (left : world.IsLeft) {request : Request} (raceless : request.IsRaceless) :
    (∃ later answer, world.attend surroundings records none none request = (later, .answer answer) ∧ later.IsLeft ∧
      world.Leads [⟨request, answer⟩] later) ∨
    world.attend surroundings records none none request = (world, .wait none) ∨
    world.attend surroundings records none none request = (world, .gone) := by
  have elsewhere : ∀ {request : Request} {answer : request.Answer} {later : World Stage},
      request.work? = none → world.attend surroundings records none none request = (later, .answer answer) →
      later.state = world.state → world.Leads [⟨request, answer⟩] later := by
    intro request answer later unworked attended state
    refine ⟨.rests unworked (state ▸ .stay _), fun plain => ?_⟩
    have same := (@attend_local _ surroundings world records none none request (plain _ List.mem_cons_self)).1
    rwa [attended] at same
  cases request with
  | ask work =>
    obtain ⟨later, stays, page, ledgers, answered, _⟩ := attend_work_left serves records left work
    exact .inl ⟨later, _, answered, stays, .works (page ▸ .stay _), fun _ => ledgers⟩
  | askBy deadline work =>
    obtain ⟨later, stays, page, ledgers, _, answered⟩ := attend_work_left serves records left work
    exact .inl ⟨later, _, answered deadline, stays, .worksBy deadline (page ▸ .stay _), fun _ => ledgers⟩
  | sleepUntil time =>
    by_cases ended : time ≤ world.now
    · have attended : world.attend surroundings records none none (.sleepUntil time) = (world, .answer ()) := by
        simp only [attend, if_pos ended]
      exact .inl ⟨world, (), attended, left, elsewhere rfl attended rfl⟩
    · exact .inr (.inl (by simp only [attend, if_neg ended]))
  | listen subscription limit awaited =>
    cases heard : world.channel.hear? subscription awaited with
    | some found =>
      obtain ⟨channel, what⟩ := found
      have attended : world.attend surroundings records none none (.listen subscription limit awaited) =
          ({ world with channel := channel }, .answer what) := by
        simp only [attend, heard]
      exact .inl ⟨_, what, attended, left.of_same rfl rfl rfl, elsewhere rfl attended rfl⟩
    | none =>
      by_cases ended : limit ≤ world.now
      · have attended : world.attend surroundings records none none (.listen subscription limit awaited) =
            (world, .answer .nothing) := by
          simp only [attend, heard, if_pos ended]
        exact .inl ⟨world, .nothing, attended, left, elsewhere rfl attended rfl⟩
      · exact .inr (.inl (by simp only [attend, heard, if_neg ended]))
  | isBroken breaker =>
    have state : (world.consult surroundings breaker).1.state = world.state := consults _ _ _ _
    exact .inl ⟨_, _, rfl, left.of_same state rfl rfl, elsewhere rfl rfl state⟩
  | perish => exact .inr (.inr rfl)
  | race cases selector previous => exact raceless.elim
  | _ => exact .inl ⟨_, _, rfl, left.of_same rfl rfl rfl, elsewhere rfl rfl rfl⟩

/-- Until it waits or ends, a process goes along a trail of its job. -/
theorem runJob_left (left : world.IsLeft) {job : Job α} (raceless : job.AsksOnly Request.IsRaceless) :
    ∃ trail rest later, Job.Trail job trail rest ∧ world.Leads trail later ∧
      ((∃ value, rest = .done value ∧ runJob surroundings records none job none world = (later, .ended (some value))) ∨
        runJob surroundings records none job none world = (later, .ended none) ∨
        (runJob surroundings records none job none world = (later, .waiting (front records rest)) ∧ later.IsLeft)) := by
  induction job generalizing world with
  | done value => exact ⟨[], _, world, .stay _, .stay rfl rfl, .inl ⟨value, rfl, rfl⟩⟩
  | request request next inductionHypothesis =>
    rw [runJob]
    rcases attend_left serves consults records left raceless.1 with
      ⟨later, answer, attended, stays, leads⟩ | waits | gone
    · rw [attended]
      obtain ⟨trail, rest, last, way, further, ran⟩ := inductionHypothesis answer stays (raceless.2 answer)
      exact ⟨_ :: trail, rest, last, .step way, leads.append further, ran⟩
    · rw [waits]
      exact ⟨[], _, world, .stay _, .stay rfl rfl, .inr (.inr ⟨rfl, left⟩)⟩
    · rw [gone]
      exact ⟨[], _, world, .stay _, .stay rfl rfl, .inr (.inl rfl)⟩

omit serves consults in
/-- What happens while the process waits leaves the world to it, and the page as it is. -/
theorem undergoDue_left (left : world.IsLeft) :
    world.undergoDue.IsLeft ∧ world.undergoDue.state = world.state ∧ world.undergoDue.ledgers = world.ledgers := by
  have all : ∀ (incidents : List (Incident Stage)) (world : World Stage),
      (∀ incident ∈ incidents, ∀ stage, (incident.change stage).1 = stage) → world.IsLeft →
      (incidents.foldl undergo world).IsLeft ∧ (incidents.foldl undergo world).state = world.state ∧
        (incidents.foldl undergo world).ledgers = world.ledgers := by
    intro incidents
    induction incidents with
    | nil => exact fun world _ left => ⟨left, rfl, rfl⟩
    | cons incident incidents inductionHypothesis =>
      intro world undisturbed left
      obtain ⟨here, later⟩ := List.forall_mem_cons.mp undisturbed
      have state : (world.undergo incident).state = world.state := by
        unfold undergo
        dsimp only
        split <;> exact here _
      have incidents : (world.undergo incident).incidents = world.incidents := by
        unfold undergo
        dsimp only
        split <;> rfl
      have stays := left.of_same state (undergo_background world incident) incidents
      obtain ⟨still, same, ledgers⟩ := inductionHypothesis (world.undergo incident) later stays
      exact ⟨still, same.trans state, ledgers.trans (undergo_ledgers world incident)⟩
  refine all _ _ (fun incident due => ?_) ⟨left.unfixed, left.alone, fun incident later => ?_⟩
  · exact left.undisturbed incident ((List.takeWhile_sublist _).subset due)
  · exact left.undisturbed incident ((List.dropWhile_sublist _).subset later)

/-- However far it gets, a process goes along a trail of its job, to the end of the job if it ends. -/
theorem runInFront_left {limit : Nat} (left : world.IsLeft) {job : Job α} {result : Option α}
    (raceless : job.AsksOnly Request.IsRaceless)
    (ran : world.runInFront surroundings limit (front records job) = (later, result)) :
    ∃ trail rest, Job.Trail job trail rest ∧ world.Leads trail later ∧ ∀ value, result = some value →
      rest = .done value := by
  induction limit generalizing world job with
  | zero =>
    cases ran
    exact ⟨[], job, .stay _, .stay rfl rfl, nofun⟩
  | succ limit inductionHypothesis =>
    have once : world.runUntilWait surroundings (front records job) =
      runJob surroundings records none job none world := rfl
    rw [runInFront, once] at ran
    obtain ⟨trail, rest, last, way, leads, ⟨value, rfl, ended⟩ | ended | ⟨waits, still⟩⟩ :=
      runJob_left serves consults records left raceless
    · rw [ended] at ran
      cases ran
      exact ⟨trail, _, way, leads, fun _ same => congrArg Job.done (Option.some.inj same)⟩
    · rw [ended] at ran
      cases ran
      exact ⟨trail, rest, way, leads, nofun⟩
    · obtain ⟨stays, state, ledgers⟩ := undergoDue_left still
      rw [waits] at ran
      dsimp only at ran
      rw [settle_of_alone stays.alone] at ran
      have goesOn : ∀ {between : World Stage}, between.IsLeft → between.state = last.state →
          between.ledgers = last.ledgers →
          between.runInFront surroundings limit (front records rest) = (later, result) →
          ∃ trail rest, Job.Trail job trail rest ∧ world.Leads trail later ∧ ∀ value, result = some value →
            rest = .done value := by
        intro between free same kept ran
        obtain ⟨back, further, wayOn, leadsOn, ends⟩ := inductionHypothesis free (raceless.trail way).2 ran
        have behind : last.Leads ([] ++ back) later := (Leads.stay same kept).append leadsOn
        exact ⟨trail ++ back, further, way.append wayOn, leads.append behind, ends⟩
      split at ran
      · exact goesOn stays state ledgers ran
      · split at ran
        · cases ran
          have whole := leads.append (.stay state ledgers)
          rw [List.append_nil] at whole
          exact ⟨trail, rest, way, whole, nofun⟩
        · refine goesOn ?_ ?_ ?_ ran
          · exact ⟨stays.unfixed, stays.alone, stays.undisturbed⟩
          · exact state
          · exact ledgers

/-- A script without a race that a world runs goes along a trail of it with the page, to its end unless nothing is left
that could have it go on. -/
theorem trail_of_run_left (left : world.IsLeft) {script : Script α} {outcome : Except Failure α}
    (raceless : script.AsksOnly Request.IsRaceless) (ran : world.run surroundings records script = (later, outcome)) :
    ∃ trail rest, Job.Trail script.run trail rest ∧ world.Leads trail later ∧
      (rest = .done outcome ∨ outcome = .error (.page .stalled)) := by
  unfold run at ran
  split at ran
  case h_1 last reached ended =>
    cases ran
    obtain ⟨trail, rest, way, leads, ends⟩ := runInFront_left serves consults records left raceless ended
    exact ⟨trail, rest, way, leads, .inl (ends _ rfl)⟩
  case h_2 last ended =>
    cases ran
    obtain ⟨trail, rest, way, leads, _⟩ := runInFront_left serves consults records left raceless ended
    exact ⟨trail, rest, way, leads, .inr rfl⟩

/-- A script without a race that a world runs ends behind a trail of it, along which the page goes, unless nothing is
left that could have it go on. Nothing but what it records is recorded. -/
theorem ends_of_run (left : world.IsLeft) {script : Script α} {outcome : Except Failure α}
    (raceless : script.AsksOnly Request.IsRaceless) (ran : world.run surroundings records script = (later, outcome)) :
    outcome = .error (.page .stalled) ∨ ∃ trail, script.Ends world.state.page trail outcome later.state.page ∧
      ((∀ exchange ∈ trail, exchange.request.IsLocal) → later.ledgers = world.ledgers) := by
  obtain ⟨trail, rest, way, leads, rfl | stalled⟩ := trail_of_run_left serves consults records left raceless ran
  · exact .inr ⟨trail, ⟨way, leads.page⟩, leads.ledgers⟩
  · exact .inl stalled

end World

end Harvest
