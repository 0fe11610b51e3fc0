import Harvest.Run.Stage

/-!
Contract: scripts that run to their end at once.

In front of a page without fixed answers, work takes no time. So a script that only queries the page, counts on it,
keeps values and leaves them as they are ends without a wait, and the page is what it was. `EndsAt` says so of one
job, and it composes like jobs do.
-/

namespace Harvest

open World

section

variable {σ α β : Type} {surroundings : Surroundings σ} {records : Records} {race : Option Nat}

/-- What comes behind a job that ends without a wait begins where that job ends. -/
theorem World.runJob_andThen {job : Job α} {next : α → Job β} {world later : World σ} {value : α}
    (ends : runJob surroundings records race job none world = (later, .ended (some value))) :
    runJob surroundings records race (job.andThen next) none world =
      runJob surroundings records race (next value) none later := by
  induction job generalizing world with
  | done reached =>
    rw [runJob] at ends
    cases ends
    rfl
  | request request following inductionHypothesis =>
    rw [runJob] at ends
    rw [Job.andThen, runJob]
    split at ends
    case h_1 answered => exact inductionHypothesis _ ends
    case h_2 => exact nomatch ends
    case h_3 => exact nomatch ends

end

def Stage.withPage (stage : Stage) (page : Page) : Stage :=
  { stage with page := page }

section

variable {surroundings : Surroundings Stage} (serves : surroundings.serve = Stage.serve)

include serves

theorem serve_work {stage : Stage} (unfixed : stage.fixed = []) (work : PageWork) : surroundings.serve stage work =
    { state := stage.withPage (stage.page.work work).page
      outcome := (stage.page.work work).answer
      events := (stage.page.work work).events } := by
  have free : stage.fixedOutcome? work = none := by
    unfold Stage.fixedOutcome?
    rw [unfixed]
    rfl
  rw [serves, Stage.serve, free]
  rfl

variable {records : Records} {race : Option Nat} {world : World Stage} (unfixed : world.state.fixed = [])

include unfixed

/-- Work that nothing stands in front of is done by the page, at once. -/
theorem attend_work (work : PageWork) : world.attend surroundings records race none (.ask work) =
    (({ world with state := world.state.withPage (world.state.page.work work).page }).report
      (world.state.page.work work).events, .answer (world.state.page.work work).answer) := by
  simp only [attend, attendWork, World.serve, serve_work serves unfixed work, Nat.add_zero, report]
  rw [if_pos (Nat.le_refl world.now)]

/-- A call that does not change the page is answered at once, and nothing changes. -/
theorem attend_of_reply {call : PageCall} {answer : Except Failure Json}
    (replies : world.state.page.dispatch call = world.state.page.reply answer) :
    world.attend surroundings records race none (.ask (.call call)) = (world, .answer answer) := by
  rw [attend_work serves unfixed, Page.work, replies]
  rfl

end

variable {surroundings : Surroundings Stage} {stage : Stage} {α β : Type}

/-- A job ends without a wait in front of a stage, with a value, and the stage is what it was. -/
def Job.EndsAt (surroundings : Surroundings Stage) (stage : Stage) (job : Job α) (value : α) : Prop :=
  ∀ (records : Records) (race : Option Nat) (world : World Stage), world.state = stage →
    ∃ later : World Stage, later.state = stage ∧
      runJob surroundings records race job none world = (later, .ended (some value))

namespace Job.EndsAt

theorem done (value : α) : (Job.done value).EndsAt surroundings stage value :=
  fun _ _ world here => ⟨world, here, rfl⟩

theorem andThen {job : Job α} {next : α → Job β} {value : α} {result : β}
    (first : job.EndsAt surroundings stage value) (last : (next value).EndsAt surroundings stage result) :
    (job.andThen next).EndsAt surroundings stage result := by
  intro records race world here
  obtain ⟨middle, still, ends⟩ := first records race world here
  obtain ⟨later, same, ended⟩ := last records race middle still
  exact ⟨later, same, by rw [runJob_andThen ends, ended]⟩

/-! ### Requests -/

/-- A request that is answered at once, without a change of the stage. -/
theorem perform {request : Request} {answer : request.Answer}
    (answers : ∀ (records : Records) (race : Option Nat) (world : World Stage), world.state = stage →
      ∃ later : World Stage, later.state = stage ∧
        world.attend surroundings records race none request = (later, .answer answer)) :
    (Job.perform request).EndsAt surroundings stage answer := by
  intro records race world here
  obtain ⟨later, same, answered⟩ := answers records race world here
  refine ⟨later, same, ?_⟩
  rw [Job.perform, runJob, answered]
  rfl

/-- A call that does not change the page, where nothing stands in front of the page. -/
theorem call (serves : surroundings.serve = Stage.serve) (unfixed : stage.fixed = []) {pageCall : PageCall}
    {answer : Except Failure Json} (replies : stage.page.dispatch pageCall = stage.page.reply answer) :
    (Script.call pageCall).run.EndsAt surroundings stage answer := by
  refine @perform surroundings stage (.ask (.call pageCall)) answer fun records race world here => ?_
  subst here
  exact ⟨world, rfl, attend_of_reply serves unfixed replies⟩

/-- Steps that are none leave a text as it is. -/
theorem convert (text : String) : (Script.convert [] (.string text)).run.EndsAt surroundings stage (.ok (.string text)) :=
  @perform surroundings stage (.convert [] (.string text)) (.ok (.string text)) fun records _ world here =>
    ⟨world.withStorage records (world.storage records), here, rfl⟩

theorem keep (name : String) (value : Json) : (Script.keep name value).run.EndsAt surroundings stage (.ok ()) := by
  have kept : (Job.perform (.keep name value)).EndsAt surroundings stage () :=
    @perform surroundings stage (.keep name value) () fun records _ world here =>
      ⟨world.withStorage records ((world.storage records).insert name value), here, rfl⟩
  exact kept.andThen (.done _)

end Job.EndsAt

/-! ### Scripts -/

namespace Script

theorem endsAt_bind {script : Script α} {next : α → Script β} {value : α} {result : Except Failure β}
    (first : script.run.EndsAt surroundings stage (.ok value)) (last : (next value).run.EndsAt surroundings stage result) :
    (script >>= next).run.EndsAt surroundings stage result :=
  first.andThen last

end Script

namespace Scoped

/-- A script on a stack of scopes ends at once with a value, and with another stack. -/
def EndsAt (surroundings : Surroundings Stage) (stage : Stage) (nested : Scoped α) (before : ScopeStack) (value : α)
    (after : ScopeStack) : Prop :=
  (nested.run.run before).EndsAt surroundings stage (.ok value, after)

theorem endsAt_pure (value : α) (stack : ScopeStack) :
    (pure value : Scoped α).EndsAt surroundings stage stack value stack :=
  Job.EndsAt.done _

theorem endsAt_bind {nested : Scoped α} {next : α → Scoped β} {value : α} {result : β}
    {before middle after : ScopeStack} (first : nested.EndsAt surroundings stage before value middle)
    (last : (next value).EndsAt surroundings stage middle result after) :
    (nested >>= next).EndsAt surroundings stage before result after :=
  Job.EndsAt.andThen first last

theorem endsAt_push (frame : ScopeFrame) (stack : ScopeStack) :
    (push frame).EndsAt surroundings stage stack () (frame :: stack) :=
  Job.EndsAt.done _

theorem endsAt_pop (frame : ScopeFrame) (stack : ScopeStack) :
    pop.EndsAt surroundings stage (frame :: stack) () stack :=
  Job.EndsAt.done _

theorem endsAt_selector (stack : ScopeStack) : selector.EndsAt surroundings stage stack stack.selector stack :=
  Job.EndsAt.done _

theorem endsAt_outcome {nested : Scoped α} {value : α} {before after : ScopeStack}
    (ends : nested.EndsAt surroundings stage before value after) :
    (outcome nested).EndsAt surroundings stage before (.ok value) after :=
  Job.EndsAt.andThen ends (.done _)

theorem endsAt_ofScript {script : Script α} {value : α} (ends : script.run.EndsAt surroundings stage (.ok value))
    (stack : ScopeStack) : (ofScript script).EndsAt surroundings stage stack value stack :=
  Job.EndsAt.andThen ends (.done _)

end Scoped

end Harvest
