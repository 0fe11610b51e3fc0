import Harvest.Description.Rule
import Harvest.Page.Call

/-!
Contract: jobs, which are computations that ask for what they cannot do themselves.

A job is done, or it makes a request and goes on with the answer. Each request has a type
of answers of its own. Who runs a job answers its requests: how long that takes and what
else happens meanwhile is nothing a job can see, except through further requests.
-/

namespace Harvest

inductive PageWork where
  | call (call : PageCall)
  | prepare
  | tearDown
  | snapshot (label : String)

def PageWork.name : PageWork → String
  | .call pageCall => pageCall.kind
  | .prepare => "prepare"
  | .tearDown => "tearDown"
  | .snapshot _ => "snapshot"

abbrev Awaited := PageEvent → Bool

namespace Awaited

def navigation : Awaited
  | .navigated _ => true
  | _ => false

def requestFor (pattern : Pattern) : Awaited
  | .request url => pattern.isIn url
  | _ => false

end Awaited

inductive Heard where
  | event (event : PageEvent)
  | closed
  | nothing

/-- A breaker of a wait: whose it is, and when it trips. -/
structure Breaker where
  identity : Nat
  trip : Trip

/-- Whether a breaker has tripped at a time, when it has been checked a number of times before. -/
def Breaker.hasTripped (breaker : Breaker) (time checks : Nat) : Bool :=
  match breaker.trip with
  | .always => true
  | .after moment => decide (moment ≤ time)
  | .checks count => decide (count ≤ checks)

inductive Request where
  | ask (work : PageWork)
  | askBy (deadline : Nat) (work : PageWork)
  | convert (steps : List Transform.Step) (value : Json)
  | keep (name : String) (value : Json)
  | isDone (identity : Nat)
  | record (identity : Nat)
  | subscribe
  | listen (subscription : Nat) (limit : Nat) (awaited : Awaited)
  | isBroken (breaker : Breaker)
  | now
  | sleepUntil (time : Nat)
  | race (cases : List (List Action)) (selector : String) (previous : Json)
  | win (value : Json)
  | perish

@[reducible]
def Request.Answer : Request → Type
  | .ask _ => Except Failure Json
  | .askBy _ _ => Option (Except Failure Json)
  | .convert _ _ => Except Failure Json
  | .keep _ _ => Unit
  | .isDone _ => Bool
  | .record _ => Unit
  | .subscribe => Nat
  | .listen _ _ _ => Heard
  | .isBroken _ => Bool
  | .now => Nat
  | .sleepUntil _ => Unit
  | .race _ _ _ => Except Failure Json
  | .win _ => Unit
  | .perish => Empty

inductive Job (α : Type) : Type where
  | done (value : α)
  | request (request : Request) (next : request.Answer → Job α)

namespace Job

def andThen {α β : Type} (job : Job α) (next : α → Job β) : Job β :=
  match job with
  | .done value => next value
  | .request asked rest => .request asked fun answer => (rest answer).andThen next

instance : Monad Job where
  pure := .done
  bind := andThen

/-- The job that makes one request and ends with the answer. -/
def perform (request : Request) : Job request.Answer :=
  .request request .done

end Job

abbrev Script (α : Type) := ExceptT Failure Job α

namespace Script

/-- The script of a job that ends with a value or a failure. -/
def ofJob {α : Type} (job : Job (Except Failure α)) : Script α :=
  ExceptT.mk job

/-- The script of a job that cannot fail. -/
def always {α : Type} (job : Job α) : Script α :=
  ExceptT.lift job

/-- The script that ends at once with a value or a failure. -/
def settled {α : Type} (outcome : Except Failure α) : Script α :=
  ExceptT.mk (pure outcome)

/-- The outcome of a script, as the value of one that cannot fail. -/
def outcome {α : Type} (script : Script α) : Script (Except Failure α) :=
  ExceptT.lift script.run

def call (call : PageCall) : Script Json :=
  ofJob (Job.perform (.ask (.call call)))

def work (work : PageWork) : Script Json :=
  ofJob (Job.perform (.ask work))

def convert (steps : List Transform.Step) (value : Json) : Script Json :=
  ofJob (Job.perform (.convert steps value))

def keep (name : String) (value : Json) : Script Unit :=
  always (Job.perform (.keep name value))

def isDone (identity : Nat) : Script Bool :=
  always (Job.perform (.isDone identity))

def record (identity : Nat) : Script Unit :=
  always (Job.perform (.record identity))

def subscribe : Script Nat :=
  always (Job.perform .subscribe)

def now : Script Nat :=
  always (Job.perform .now)

def isBroken (breaker : Breaker) : Script Bool :=
  always (Job.perform (.isBroken breaker))

/-- Calls the page; there is no answer if the page is not ready by a deadline. -/
def callBy (deadline : Nat) (call : PageCall) : Script (Option (Except Failure Json)) :=
  always (Job.perform (.askBy deadline (.call call)))

def listen (subscription limit : Nat) (awaited : Awaited) : Script Heard :=
  always (Job.perform (.listen subscription limit awaited))

def sleepUntil (time : Nat) : Script Unit :=
  always (Job.perform (.sleepUntil time))

def sleep (duration : Nat) : Script Unit := do
  sleepUntil ((← now) + duration)

def race (cases : List (List Action)) (selector : String) (previous : Json) : Script Json :=
  ofJob (Job.perform (.race cases selector previous))

def win (value : Json) : Script Unit :=
  always (Job.perform (.win value))

def perish {α : Type} : Script α :=
  always (.request .perish Empty.elim)

/-- Captures what the page shows; it does not matter whether that succeeds. -/
def capture (label : String) : Script Unit := do
  let _ ← outcome (work (.snapshot label))

end Script

end Harvest
