import Harvest.Description.Config
import Harvest.Run.Job

/-!
Contract: waits that end in exactly one way: satisfied, timed out, broken or failed.

`poll` probes the page at once and then at every interval, asking the breaker before each
probe, until a probe's value is accepted. A probe that starts more than five milliseconds
late moves the following ones. `awaitEvent` listens for an event and asks the breaker at
every interval. At the deadline what is due then still happens before the wait gives up.
-/

namespace Harvest

/-- How a wait is kept: what it is called, its times, and what breaks it. -/
structure WaitOptions where
  what : String
  interval : Nat
  timeout : Nat
  breaker : Option Breaker := none

namespace WaitOptions

/-- The time between two ticks, which is at least one millisecond. -/
def period (options : WaitOptions) : Nat :=
  max 1 options.interval

def ofAction (head : ActionHead) (defaults : WaitTimes) : WaitOptions where
  what := head.kind
  interval := head.interval.getD defaults.interval
  timeout := head.timeout.getD defaults.timeout
  breaker := head.breaker.map fun trip => ⟨head.identity, trip⟩

def tickBound (options : WaitOptions) : Nat :=
  options.timeout / options.period + 2

end WaitOptions

namespace Wait

def checkBreaker (options : WaitOptions) : Script Unit :=
  match options.breaker with
  | none => pure ()
  | some breaker => do
    if ← Script.isBroken breaker then throw (.waitBroken options.what)

def giveUp {α : Type} (options : WaitOptions) : Script α :=
  throw (.waitTimeout options.what options.timeout)

/-- How late a tick may be without moving those behind it. -/
def tolerance : Nat := 5

/-- When the tick behind one that was due and came at some time is due. -/
def nextDue (options : WaitOptions) (due time : Nat) : Nat :=
  if time > due + tolerance then time + options.period else due + options.period

/-- Probes from a tick on that is due. -/
def pollFrom (options : WaitOptions) (probe : PageCall) (accepts : Json → Bool) (deadline : Nat) :
    (ticks due : Nat) → Script Json
  | 0, _ => giveUp options
  | ticks + 1, due => do
    if due > deadline then
      Script.sleepUntil deadline
      giveUp options
    else
      Script.sleepUntil due
      let time ← Script.now
      checkBreaker options
      match ← Script.callBy deadline probe with
      | none => giveUp options
      | some (.error failure) => throw failure
      | some (.ok value) =>
        if accepts value then return value
        else pollFrom options probe accepts deadline ticks (nextDue options due time)

def poll (options : WaitOptions) (probe : PageCall) (accepts : Json → Bool) : Script Json := do
  let start ← Script.now
  pollFrom options probe accepts (start + options.timeout) options.tickBound start

/-- Listens from a tick on that is due. -/
def listenFrom (options : WaitOptions) (subscription : Nat) (awaited : Awaited) (deadline : Nat) :
    (ticks due : Nat) → Script PageEvent
  | 0, _ => giveUp options
  | ticks + 1, due => do
    match ← Script.listen subscription (min due deadline) awaited with
    | .event (.error text) => throw (.pageError text)
    | .event event => return event
    | .closed => throw (.page .closedChannel)
    | .nothing =>
      if due > deadline then giveUp options
      else
        checkBreaker options
        listenFrom options subscription awaited deadline ticks (due + options.period)

def awaitEvent (options : WaitOptions) (subscription : Nat) (awaited : Awaited) : Script PageEvent := do
  let start ← Script.now
  listenFrom options subscription awaited (start + options.timeout) options.tickBound start

end Wait

end Harvest
