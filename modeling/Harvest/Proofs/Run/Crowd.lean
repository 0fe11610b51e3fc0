import Harvest.Proofs.Run.Frame
import Harvest.Proofs.Run.Trail
import Harvest.Run.Parse

/-!
Contract: tasks of sessions in any order of their steps.

A crowd is a world with all tasks that were ever begun in it, and a trace of what they did. A
schedule is a list of turns: a task is accepted, goes on with one request, or is struck down;
time passes, or the page changes by itself. Every schedule counts, so a law of all schedules is
a law of all interleavings. `Crowd.turn_step` says once what a turn can do; the invariants of
crowds are derived from it.
-/

namespace Harvest

inductive Errand where
  | perform (actions : List Action) (parent : String) (previous : Json)
  | evaluate (rule : Rule) (stack : ScopeStack) (offset : Nat)
  | parse (config : ParseConfig)
  | nextPage (pagination : Pagination) (seen : Nat)
  | capture (label : String)
  | sleep (duration : Nat)

/-- The script of an errand. Where it gives no value, that is null. -/
def Errand.script (setup : Setup) : Errand → Script Json
  | .perform actions parent previous => Run.performAll setup actions parent previous
  | .evaluate rule stack offset => Run.evaluateWithin setup rule stack offset
  | .parse config => Run.parse setup config
  | .nextPage pagination seen => (fun _ => .null) <$> Run.nextPage setup pagination seen
  | .capture label => (fun _ => .null) <$> Script.capture label
  | .sleep duration => (fun _ => .null) <$> Script.sleep duration

/-- Where a task stands: under way, or over, with an outcome unless it has died. -/
inductive Standing where
  | underway (job : Job (Except Failure Json)) (hold : Option Hold)
  | finished (outcome : Option (Except Failure Json))

/-- A task: the process as which it began, and where it stands. -/
structure Task where
  origin : Runner
  standing : Standing

def Task.begin (origin : Runner) : Task where
  origin := origin
  standing := .underway origin.job origin.hold

/-- What a task does that can be told from outside: it gets an answer to a request, or it ends. -/
inductive Deed where
  | exchange (exchange : Exchange)
  | ending (outcome : Option (Except Failure Json))

/-- A deed, the task that did it, and the ledger of that task. -/
structure Event where
  task : Nat
  ledger : Nat
  deed : Deed

/-- A world, the tasks that were begun in it, and what they have done, the earliest first. -/
structure Crowd (σ : Type) where
  world : World σ
  tasks : List Task := []
  trace : List Event := []

inductive Turn (σ : Type) where
  | found (storage : Storage)
  | accept (records : Records) (errand : Errand)
  | move (task : Nat)
  | strike (task : Nat)
  | pass (duration : Nat)
  | undergo (incident : Incident σ)

namespace Crowd

variable {σ : Type}

def start (world : World σ) : Crowd σ where
  world := { world with background := [] }

def join (crowd : Crowd σ) (origin : Runner) : Crowd σ :=
  { crowd with tasks := crowd.tasks ++ [Task.begin origin] }

/-- The crowd when a task has come to another standing in a changed world. What was started in the background
becomes a task. -/
def act (crowd : Crowd σ) (world : World σ) (index : Nat) (task : Task) (standing : Standing)
    (deeds : List Deed) : Crowd σ where
  world := { world with background := [] }
  tasks := crowd.tasks.set index { task with standing := standing } ++ world.background.map Task.begin
  trace := crowd.trace ++ deeds.map fun deed => ⟨index, task.origin.records.ledger, deed⟩

/-- The world when a task has ended, which may be a case of a race. -/
def worldWithout (crowd : Crowd σ) (task : Task) (outcome : Option (Except Failure Json)) : World σ :=
  match task.origin.race with
  | some race => crowd.world.leaveRace race outcome
  | none => crowd.world

def leave (crowd : Crowd σ) (index : Nat) (task : Task) (outcome : Option (Except Failure Json)) : Crowd σ :=
  crowd.act (crowd.worldWithout task outcome) index task (.finished outcome) [.ending outcome]

/-- The crowd when a task has gone on as far as its next request. -/
def advance (surroundings : Surroundings σ) (crowd : Crowd σ) (index : Nat) (task : Task) (hold : Option Hold) :
    Job (Except Failure Json) → Crowd σ
  | .done outcome => crowd.leave index task (some outcome)
  | .request request next =>
    match crowd.world.attend surroundings task.origin.records task.origin.race hold request with
    | (world, .answer answer) => crowd.act world index task (.underway (next answer) none) [.exchange ⟨request, answer⟩]
    | (world, .wait hold) => crowd.act world index task (.underway (.request request next) hold) []
    | (_, .gone) => crowd.leave index task none

/-- The crowd after a turn. A turn of a task that is over is idle, and so is the acceptance of one without a
ledger. -/
def turn (surroundings : Surroundings σ) (crowd : Crowd σ) : Turn σ → Crowd σ
  | .found storage => { crowd with world := (crowd.world.addStorage storage).1.addLedger.1 }
  | .accept records errand =>
    if records.ledger < crowd.world.ledgers.size then
      crowd.join { job := (errand.script surroundings.setup).run, records := records }
    else crowd
  | .move index =>
    match crowd.tasks[index]? with
    | some ⟨origin, .underway job hold⟩ => crowd.advance surroundings index ⟨origin, .underway job hold⟩ hold job
    | _ => crowd
  | .strike index =>
    match crowd.tasks[index]? with
    | some ⟨origin, .underway job hold⟩ => crowd.leave index ⟨origin, .underway job hold⟩ none
    | _ => crowd
  | .pass duration => { crowd with world := { crowd.world with now := crowd.world.now + duration } }
  | .undergo incident => { crowd with world := crowd.world.undergo incident }

def play (surroundings : Surroundings σ) (crowd : Crowd σ) (schedule : List (Turn σ)) : Crowd σ :=
  schedule.foldl (turn surroundings) crowd

def deeds (crowd : Crowd σ) (index : Nat) : List Deed :=
  (crowd.trace.filter fun event => event.task == index).map Event.deed

/-! ### What a turn can do -/

variable {surroundings : Surroundings σ}

inductive Step (surroundings : Surroundings σ) (crowd : Crowd σ) : Crowd σ → Prop where
  | outside {world : World σ} (sameRaces : world.races = crowd.world.races)
      (sameBackground : world.background = crowd.world.background)
      (moreLedgers : ∃ more, world.ledgers = crowd.world.ledgers ++ more)
      (goesOn : ∀ subscription, crowd.world.channel.Continues subscription world.channel) :
      Step surroundings crowd { crowd with world := world }
  | accepted (records : Records) (errand : Errand) (known : records.ledger < crowd.world.ledgers.size) :
      Step surroundings crowd (crowd.join { job := (errand.script surroundings.setup).run, records := records })
  | answered {index : Nat} {task : Task} {hold : Option Hold} {request : Request}
      {next : request.Answer → Job (Except Failure Json)} {answer : request.Answer} {world : World σ}
      (found : crowd.tasks[index]? = some task) (standing : task.standing = .underway (.request request next) hold)
      (attended : crowd.world.attend surroundings task.origin.records task.origin.race hold request
        = (world, .answer answer)) :
      Step surroundings crowd
        (crowd.act world index task (.underway (next answer) none) [.exchange ⟨request, answer⟩])
  | waited {index : Nat} {task : Task} {hold later : Option Hold} {request : Request}
      {next : request.Answer → Job (Except Failure Json)} {world : World σ}
      (found : crowd.tasks[index]? = some task) (standing : task.standing = .underway (.request request next) hold)
      (attended : crowd.world.attend surroundings task.origin.records task.origin.race hold request
        = (world, .wait later)) :
      Step surroundings crowd (crowd.act world index task (.underway (.request request next) later) [])
  | left {index : Nat} {task : Task} {job : Job (Except Failure Json)} {hold : Option Hold}
      {outcome : Option (Except Failure Json)} (found : crowd.tasks[index]? = some task)
      (standing : task.standing = .underway job hold) (honest : ∀ value, outcome = some value → job = .done value) :
      Step surroundings crowd (crowd.leave index task outcome)

theorem Step.idle (crowd : Crowd σ) : crowd.Step surroundings crowd :=
  .outside rfl rfl ⟨#[], by simp⟩ fun _ => .refl _ _

theorem advance_step {crowd : Crowd σ} {index : Nat} {task : Task} {job : Job (Except Failure Json)}
    {hold : Option Hold} (found : crowd.tasks[index]? = some task) (standing : task.standing = .underway job hold) :
    crowd.Step surroundings (crowd.advance surroundings index task hold job) := by
  cases job with
  | done outcome => exact .left found standing fun value same => by rw [Option.some.inj same]
  | request request next =>
    dsimp only [advance]
    split
    · rename_i world answer attended
      exact .answered found standing attended
    · rename_i world later attended
      exact .waited found standing attended
    · exact .left found standing fun value same => nomatch same

/-! ### Turns of a task -/

section Move

variable {crowd : Crowd σ} {world : World σ} {index : Nat} {task : Task} {job : Job (Except Failure Json)}
  {hold later : Option Hold} {request : Request} {next : request.Answer → Job (Except Failure Json)}
  {answer : request.Answer}

theorem turn_move (found : crowd.tasks[index]? = some task) (standing : task.standing = .underway job hold) :
    crowd.turn surroundings (.move index) = crowd.advance surroundings index task hold job := by
  obtain ⟨origin, stands⟩ := task
  subst standing
  simp only [turn, found]

theorem turn_answered (found : crowd.tasks[index]? = some task)
    (standing : task.standing = .underway (.request request next) hold)
    (attended : crowd.world.attend surroundings task.origin.records task.origin.race hold request =
      (world, .answer answer)) :
    crowd.turn surroundings (.move index) =
      crowd.act world index task (.underway (next answer) none) [.exchange ⟨request, answer⟩] := by
  rw [turn_move found standing]
  simp only [advance, attended]

theorem turn_waited (found : crowd.tasks[index]? = some task)
    (standing : task.standing = .underway (.request request next) hold)
    (attended : crowd.world.attend surroundings task.origin.records task.origin.race hold request =
      (world, .wait later)) :
    crowd.turn surroundings (.move index) =
      crowd.act world index task (.underway (.request request next) later) [] := by
  rw [turn_move found standing]
  simp only [advance, attended]

end Move

/-- Each turn is one of the steps. -/
theorem turn_step (crowd : Crowd σ) (next : Turn σ) : crowd.Step surroundings (crowd.turn surroundings next) := by
  cases next with
  | found storage => exact .outside rfl rfl ⟨#[{}], rfl⟩ fun _ => .refl _ _
  | accept records errand =>
    dsimp only [turn]
    split
    · rename_i known
      exact .accepted records errand known
    · exact .idle crowd
  | move index =>
    dsimp only [turn]
    split
    · rename_i found
      exact advance_step found rfl
    · exact .idle crowd
  | strike index =>
    dsimp only [turn]
    split
    · rename_i found
      exact .left found rfl fun value same => nomatch same
    · exact .idle crowd
  | pass duration => exact .outside rfl rfl ⟨#[], by simp⟩ fun _ => .refl _ _
  | undergo incident =>
    exact .outside (by simp) (by simp) ⟨#[], by simp⟩ fun _ => World.undergo_continues crowd.world incident

/-- What each step preserves, a schedule preserves. -/
theorem play_preserves {invariant : Crowd σ → Prop} {crowd : Crowd σ} (schedule : List (Turn σ))
    (initial : invariant crowd)
    (preserved : ∀ {former later : Crowd σ}, invariant former → former.Step surroundings later → invariant later) :
    invariant (crowd.play surroundings schedule) := by
  induction schedule generalizing crowd with
  | nil => exact initial
  | cons next schedule inductionHypothesis => exact inductionHypothesis (preserved initial (turn_step crowd next))

theorem play_append (crowd : Crowd σ) (front back : List (Turn σ)) :
    crowd.play surroundings (front ++ back) = (crowd.play surroundings front).play surroundings back :=
  List.foldl_append

end Crowd

/-! ### A plain world -/

/-- Surroundings that answer everything at once, with its name. -/
def Surroundings.echo : Surroundings Unit where
  serve := fun _ work => { state := (), outcome := .ok (.string work.name) }
  setup := { performers := Performer.standard, settings := {} }
  transforms := {}

def World.blank : World Unit where
  state := ()
  channel := Channel.ofCapacity 1
  storages := #[{}]
  ledgers := #[{}]

def Errand.ofRace (cases : List (List Action)) : Errand :=
  .perform [.mk { kind := "cases" } [] [] none cases none] "" .null

end Harvest
