import Harvest.Ledger
import Harvest.Run.Channel
import Harvest.Run.Evaluate
import Harvest.Run.Race
import Harvest.Transform.Chain

/-!
Contract: a world in which processes run by a clock of their own.

A process is a job under way. One process is in front; races start others, which run in the
background and go on when their race is decided. A process runs until its next request must
wait. Work takes no time, unless the surroundings say so: time passes only when all
processes wait, and then it goes on to the next moment at which one of them is due.
-/

namespace Harvest

/-- What surroundings make of a piece of work: their next state, the outcome, after what time it is there, and
what they report. -/
structure Service (σ : Type) where
  state : σ
  outcome : Except Failure Json
  delay : Nat := 0
  events : List PageEvent := []

/-- What does not change while processes run. What a breaker says when it is consulted may depend on the time, on how
often it has been consulted before, and on the state of the surroundings, which it can change. -/
structure Surroundings (σ : Type) where
  serve : σ → PageWork → Service σ
  setup : Setup
  transforms : Registry Transform
  consult : σ → Breaker → (time checks : Nat) → σ × Bool :=
    fun state breaker time checks => (state, breaker.hasTripped time checks)

/-- What happens at a time without any process: the surroundings change and report events, or no more events
can come. -/
structure Incident (σ : Type) where
  time : Nat
  change : σ → σ × List PageEvent
  closesChannel : Bool := false

/-- The storage and the ledger that a process works on. -/
structure Records where
  storage : Nat
  ledger : Nat

/-- What a process waits for that it has set going: work that will be finished, or a race. -/
inductive Hold where
  | working (finish : Nat) (outcome : Except Failure Json)
  | racing (race : Nat)

structure Process (α : Type) where
  job : Job α
  records : Records
  race : Option Nat := none
  hold : Option Hold := none

/-- A case of a race under way. -/
abbrev Runner := Process (Except Failure Json)

/-- A world: the surroundings, the time, and all that processes share. -/
structure World (σ : Type) where
  state : σ
  channel : Channel
  now : Nat := 0
  storages : Array Storage := #[]
  ledgers : Array Ledger := #[]
  checks : List (Nat × Nat) := []
  races : Array Race := #[]
  background : List Runner := []
  incidents : List (Incident σ) := []

/-- What comes of a request: an answer, a wait, or the end of the process. -/
inductive Reply (α : Type) where
  | answer (answer : α)
  | wait (hold : Option Hold)
  | gone

inductive Progress (α : Type) where
  | ended (outcome : Option α)
  | waiting (process : Process α)

namespace World

variable {σ α : Type}

def storage (world : World σ) (records : Records) : Storage :=
  world.storages[records.storage]?.getD {}

def withStorage (world : World σ) (records : Records) (storage : Storage) : World σ :=
  { world with storages := world.storages.setIfInBounds records.storage storage }

def ledger (world : World σ) (records : Records) : Ledger :=
  world.ledgers[records.ledger]?.getD {}

def record (world : World σ) (records : Records) (identity : Nat) : World σ :=
  { world with ledgers := world.ledgers.setIfInBounds records.ledger ((world.ledger records).insert identity) }

def report (world : World σ) (events : List PageEvent) : World σ :=
  { world with channel := world.channel.sendAll events }

def withRace (world : World σ) (race : Nat) (change : Race → Race) : World σ :=
  { world with races := world.races.modify race change }

def raceOutcome? (world : World σ) (race : Nat) : Option (Except Failure Json) :=
  world.races[race]?.bind Race.outcome?

def checkCount (world : World σ) (breaker : Breaker) : Nat :=
  (world.checks.lookup breaker.identity).getD 0

def countCheck (world : World σ) (breaker : Breaker) : World σ :=
  { world with
    checks := (breaker.identity, world.checkCount breaker + 1)
      :: world.checks.filter fun entry => entry.1 != breaker.identity }

def consult (surroundings : Surroundings σ) (world : World σ) (breaker : Breaker) : World σ × Bool :=
  let told := surroundings.consult world.state breaker world.now (world.checkCount breaker)
  ({ world.countCheck breaker with state := told.1 }, told.2)

/-- When a process is due: at once, at a time, or only when another process has gone on. -/
def dueTime? (world : World σ) (process : Process α) : Option Nat :=
  match process.hold, process.job with
  | _, .done _ => some world.now
  | some (.working finish _), .request (.askBy deadline _) _ => some (min finish deadline)
  | some (.working finish _), .request _ _ => some finish
  | some (.racing race), .request _ _ => if (world.raceOutcome? race).isSome then some world.now else none
  | none, .request (.sleepUntil time) _ => some time
  | none, .request (.listen subscription limit awaited) _ =>
    if (world.channel.hear? subscription awaited).isSome then some world.now else some limit
  | none, .request _ _ => some world.now

/-- Whether a process can go on. -/
def isReady (world : World σ) (process : Process α) : Bool :=
  (world.dueTime? process).any fun time => decide (time ≤ world.now)

def serve (surroundings : Surroundings σ) (world : World σ) (work : PageWork) :
    World σ × Nat × Except Failure Json :=
  let service := surroundings.serve world.state work
  (({ world with state := service.state }).report service.events, world.now + service.delay, service.outcome)

def startRace (surroundings : Surroundings σ) (world : World σ) (records : Records) (cases : List (List Action))
    (selector : String) (previous : Json) : World σ :=
  let race := world.races.size
  let runners := cases.map fun steps =>
    ({ job := (Run.performCase surroundings.setup selector false steps previous).run
       records := records
       race := some race } : Runner)
  { world with
    races := world.races.push (Race.start cases.length)
    background := world.background ++ runners }

def attendWork (surroundings : Surroundings σ) (world : World σ) (hold : Option Hold) (work : PageWork) :
    World σ × Reply (Except Failure Json) :=
  match hold with
  | some (.working finish outcome) =>
    (world, if finish ≤ world.now then .answer outcome else .wait hold)
  | _ =>
    let (world, finish, outcome) := world.serve surroundings work
    (world, if finish ≤ world.now then .answer outcome else .wait (some (.working finish outcome)))

/-- What comes of a request to the page that has a deadline. Work that is finished at the deadline is in
time. -/
def attendWorkBy (surroundings : Surroundings σ) (world : World σ) (hold : Option Hold) (deadline : Nat)
    (work : PageWork) : World σ × Reply (Option (Except Failure Json)) :=
  match world.attendWork surroundings hold work with
  | (world, .answer outcome) => (world, .answer (some outcome))
  | (world, .wait hold) => (world, if deadline ≤ world.now then .answer none else .wait hold)
  | (world, .gone) => (world, .gone)

def attendRace (surroundings : Surroundings σ) (world : World σ) (hold : Option Hold) (records : Records)
    (cases : List (List Action)) (selector : String) (previous : Json) : World σ × Reply (Except Failure Json) :=
  match hold with
  | some (.racing race) =>
    match world.raceOutcome? race with
    | some outcome => (world, .answer outcome)
    | none => (world, .wait hold)
  | _ => (world.startRace surroundings records cases selector previous, .wait (some (.racing world.races.size)))

/-- What comes of a request of a process, which works on some records, may be in a race, and may have set something
going. -/
def attend (surroundings : Surroundings σ) (records : Records) (race : Option Nat) (hold : Option Hold)
    (world : World σ) : (request : Request) → World σ × Reply request.Answer
  | .ask work => world.attendWork surroundings hold work
  | .askBy deadline work => world.attendWorkBy surroundings hold deadline work
  | .convert steps value =>
    let (outcome, storage) := Transform.produce surroundings.transforms steps (world.storage records) value
    (world.withStorage records storage, .answer outcome)
  | .keep name value => (world.withStorage records ((world.storage records).insert name value), .answer ())
  | .isDone identity => (world, .answer ((world.ledger records).contains identity))
  | .record identity => (world.record records identity, .answer ())
  | .subscribe =>
    let (channel, subscription) := world.channel.subscribe
    ({ world with channel := channel }, .answer subscription)
  | .listen subscription limit awaited =>
    match world.channel.hear? subscription awaited with
    | some (channel, heard) => ({ world with channel := channel }, .answer heard)
    | none => (world, if limit ≤ world.now then .answer .nothing else .wait none)
  | .isBroken breaker =>
    let (world, isBroken) := world.consult surroundings breaker
    (world, .answer isBroken)
  | .now => (world, .answer world.now)
  | .sleepUntil time => (world, if time ≤ world.now then .answer () else .wait none)
  | .race cases selector previous => world.attendRace surroundings hold records cases selector previous
  | .win value =>
    match race with
    | some race => (world.withRace race fun race => race.report (.ok value), .answer ())
    | none => (world, .answer ())
  | .perish => (world, .gone)

def runJob (surroundings : Surroundings σ) (records : Records) (race : Option Nat) :
    Job α → (hold : Option Hold) → World σ → World σ × Progress α
  | .done outcome, _, world => (world, .ended (some outcome))
  | .request request next, hold, world =>
    match world.attend surroundings records race hold request with
    | (world, .answer answer) => runJob surroundings records race (next answer) none world
    | (world, .wait hold) =>
      (world, .waiting { job := .request request next, records := records, race := race, hold := hold })
    | (world, .gone) => (world, .ended none)

def runUntilWait (surroundings : Surroundings σ) (world : World σ) (process : Process α) : World σ × Progress α :=
  runJob surroundings process.records process.race process.job process.hold world

/-- A bound on the number of moments, and of rounds in one moment, above what 64-bit times can reach. -/
def bound : Nat := 340282366920938463463374607431768211456

/-- The world when a case of a race has ended, with a report unless it perished. -/
def leaveRace (world : World σ) (race : Nat) (outcome : Option (Except Failure Json)) : World σ :=
  let world := match outcome with
    | some outcome => world.withRace race fun race => race.report outcome
    | none => world
  world.withRace race Race.leave

/-- Runs a process in the background, if it can go on. It stays there unless it ends. -/
def runInBackground (surroundings : Surroundings σ) (world : World σ) (runner : Runner) :
    World σ × Option Runner :=
  match world.runUntilWait surroundings runner with
  | (world, .waiting runner) => (world, some runner)
  | (world, .ended outcome) =>
    match runner.race with
    | some race => (world.leaveRace race outcome, none)
    | none => (world, none)

/-- Runs each of some processes that can go on, once; those that are started meanwhile come behind the others.
The answer is whether any went on. -/
def passOver (surroundings : Surroundings σ) :
    List Runner → (kept : List Runner) → (moved : Bool) → World σ → World σ × Bool
  | [], kept, moved, world => ({ world with background := kept.reverse ++ world.background }, moved)
  | runner :: rest, kept, moved, world =>
    if world.isReady runner then
      match world.runInBackground surroundings runner with
      | (world, some runner) => passOver surroundings rest (runner :: kept) true world
      | (world, none) => passOver surroundings rest kept true world
    else passOver surroundings rest (runner :: kept) moved world

def settle (surroundings : Surroundings σ) : (limit : Nat) → World σ → World σ
  | 0, world => world
  | limit + 1, world =>
    match passOver surroundings world.background [] false { world with background := [] } with
    | (world, true) => settle surroundings limit world
    | (world, false) => world

def undergo (world : World σ) (incident : Incident σ) : World σ :=
  let (state, events) := incident.change world.state
  let world := ({ world with state := state }).report events
  if incident.closesChannel then { world with channel := world.channel.close } else world

def undergoDue (world : World σ) : World σ :=
  let due := world.incidents.takeWhile fun incident => decide (incident.time ≤ world.now)
  let later := world.incidents.dropWhile fun incident => decide (incident.time ≤ world.now)
  due.foldl undergo { world with incidents := later }

/-- The next moment at which something is due: the process in front, one in the background, or an incident. -/
def nextMoment? (world : World σ) (front : Process α) : Option Nat :=
  let times := (world.dueTime? front).toList ++ world.background.filterMap world.dueTime?
    ++ (world.incidents.head?.map Incident.time).toList
  times.min?

/-- Runs a process in front of the others until it ends; the limit is above the number of moments. None if
nothing is left that could have it go on. -/
def runInFront (surroundings : Surroundings σ) : (limit : Nat) → World σ → Process α → World σ × Option α
  | 0, world, _ => (world, none)
  | limit + 1, world, front =>
    match world.runUntilWait surroundings front with
    | (world, .ended outcome) => (world, outcome)
    | (world, .waiting front) =>
      let world := settle surroundings bound world.undergoDue
      if world.isReady front then runInFront surroundings limit world front
      else
        match world.nextMoment? front with
        | none => (world, none)
        | some moment => runInFront surroundings limit { world with now := max world.now moment } front

def run (surroundings : Surroundings σ) (world : World σ) (records : Records) (script : Script α) :
    World σ × Except Failure α :=
  match world.runInFront surroundings bound ({ job := script.run, records := records } : Process (Except Failure α)) with
  | (world, some outcome) => (world, outcome)
  | (world, none) => (world, .error (.page .stalled))

def addStorage (world : World σ) (storage : Storage) : World σ × Nat :=
  ({ world with storages := world.storages.push storage }, world.storages.size)

/-- The world with one more ledger, which is empty, and its number. -/
def addLedger (world : World σ) : World σ × Nat :=
  ({ world with ledgers := world.ledgers.push {} }, world.ledgers.size)

end World

end Harvest
