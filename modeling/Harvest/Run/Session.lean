import Harvest.Description.Identity
import Harvest.Run.Parse
import Harvest.Run.Stage

/-!
Contract: sessions, in which one page is worked on step by step.

A session has a storage and a ledger of its own. What a step leaves running in the
background goes on in later steps. A parse has a ledger of its own and a fresh storage,
unless it shares that of the session. Actions are numbered as they are read, so that those
read once are the same action in each step.
-/

namespace Harvest

/-- A session: what does not change, its world, and the number of the next action to be read. -/
structure Session where
  surroundings : Surroundings Stage
  world : World Stage
  nextIdentity : Nat := 0

namespace Session

/-- The number of events that the channel of a page holds. -/
def eventCapacity : Nat := 64

def records : Records where
  storage := 0
  ledger := 0

def start (stage : Stage) (setup : Setup) (transforms : Registry Transform) (storage : Storage)
    (incidents : List (Incident Stage)) : Session where
  surroundings := { serve := Stage.serve, setup := setup, transforms := transforms }
  world := {
    state := stage
    channel := Channel.ofCapacity eventCapacity
    storages := #[storage]
    ledgers := #[{}]
    incidents := incidents }

def page (session : Session) : Page :=
  session.world.state.page

def storage (session : Session) : Storage :=
  session.world.storage records

def ledger (session : Session) : Ledger :=
  session.world.ledger records

def identify {α : Type} (session : Session) (number : StateM Nat α) : Session × α :=
  let (description, next) := number.run session.nextIdentity
  ({ session with nextIdentity := next }, description)

def run {α : Type} (session : Session) (records : Records) (script : Setup → Script α) :
    Session × Except Failure α :=
  let (world, outcome) := session.world.run session.surroundings records (script session.surroundings.setup)
  ({ session with world := world }, outcome)

def perform (session : Session) (actions : List Action) (parent : String) (previous : Json) :
    Session × Except Failure Json :=
  session.run records fun setup => Run.performAll setup actions parent previous

/-- Evaluates a rule inside a stack of scopes, from an offset on. -/
def evaluate (session : Session) (rule : Rule) (stack : ScopeStack) (offset : Nat) : Session × Except Failure Json :=
  session.run records fun setup => Run.evaluateWithin setup rule stack offset

def parseWith (session : Session) (storage : Nat) (config : ParseConfig) : Session × Except Failure Json :=
  let (world, ledger) := session.world.addLedger
  { session with world := world }.run { storage := storage, ledger := ledger } fun setup => Run.parse setup config

def parse (session : Session) (config : ParseConfig) : Session × Except Failure Json :=
  let (world, storage) := session.world.addStorage {}
  { session with world := world }.parseWith storage config

def parseShared (session : Session) (config : ParseConfig) : Session × Except Failure Json :=
  session.parseWith records.storage config

/-- Moves on to a further page when some pages have been seen. -/
def nextPage (session : Session) (pagination : Pagination) (seen : Nat) : Session × Except Failure (Option Nat) :=
  session.run records fun setup => Run.nextPage setup pagination seen

def advance (session : Session) (duration : Nat) : Session × Except Failure Unit :=
  session.run records fun _ => Script.sleep duration

def capture (session : Session) (label : String) : Session × Except Failure Unit :=
  session.run records fun _ => Script.capture label

def changePage (session : Session) (change : Page → Page × List PageEvent) : Session :=
  let (stage, events) := session.world.state.changePage change
  { session with world := ({ session.world with state := stage }).report events }

/-- Has the page do a piece of work, behind any fixed answers. -/
def work (session : Session) (work : PageWork) : Session × Except Failure Json :=
  let reply := session.page.work work
  (session.changePage fun _ => (reply.page, reply.events), reply.answer)

end Session

end Harvest
