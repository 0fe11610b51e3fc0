import Harvest.Run.Evaluate

/-!
Contract: further pages, and whole parses.

A further page is reached by scrolling or through a control; a probe then waits for the
page to change. A probe that fails ends the pagination and keeps what was collected. A
parse prepares the page, evaluates, captures the page if that fails, and tears down in any
case; neither capture nor tear-down changes the outcome.
-/

namespace Harvest

namespace Run

def heightOf (answer : Json) : Binary64 :=
  answer.asNumber.getD (Binary64.zero false)

/-- Whether an answer says a greater height. -/
def isHigher (former : Binary64) (answer : Json) : Bool :=
  (heightOf answer).order? former == some .gt

/-- Whether an answer says that there is no control. -/
def saysNone (answer : Json) : Bool :=
  match answer.asNumber with
  | some number => number.order? (.ofInt 1) == some .lt
  | none => true

/-- A wait whose failure is that of the probe for a further page. -/
def probe (options : WaitOptions) (call : PageCall) (accepts : Json → Bool) : Script Unit := do
  match ← Script.outcome (Wait.poll options call accepts) with
  | .ok _ => pure ()
  | .error failure => throw (.paginationProbe failure)

def turnPage (setup : Setup) (pagination : Pagination) : Script Bool := do
  let times := pagination.times setup.settings.pagination
  let options : WaitOptions := { what := "pagination", interval := times.interval, timeout := times.timeout }
  match pagination.turn with
  | .scroll scope =>
    let former := heightOf (← Script.call (.scrollHeight scope))
    let _ ← Script.call (.scroll scope)
    probe options (.scrollHeight scope) (isHigher former)
    return true
  | .control scope pageScope =>
    if saysNone (← Script.call (.count scope)) then return false
    else
      let marker := PageCall.textOf pageScope
      let former := (← Script.call marker).joinedText
      let _ ← Script.call (.click scope)
      probe options marker fun answer => answer.joinedText != former
      return true

/-- The number of the further page that is reached when some pages have been seen, if one is. -/
def nextPage (setup : Setup) (pagination : Pagination) (seen : Nat) : Script (Option Nat) := do
  let isLast := match pagination.maxPages with
    | some most => decide (most ≤ seen)
    | none => false
  if isLast then return none
  match ← Script.outcome (turnPage setup pagination) with
  | .ok true => return some seen
  | _ => return none

/-- What was collected with a further page: rows are added, anything else is replaced. -/
def mergePage (collected page : Json) : Json :=
  match collected, page with
  | .array rows, .array more => .array (rows ++ more)
  | _, page => page

/-- The number of rows that a further page is known to repeat. -/
def offsetOf (pagination : Pagination) (collected : Json) : Nat :=
  match pagination.strategy, collected with
  | .accumulate, .array rows => rows.length
  | _, _ => 0

/-- Evaluates further pages while there are some; the limit is above their number. -/
def evaluatePages (setup : Setup) (pagination : Pagination) (rules : Rule) :
    (limit seen : Nat) → (collected : Json) → Script Json
  | 0, _, collected => pure collected
  | limit + 1, seen, collected => do
    match ← nextPage setup pagination seen with
    | none => return collected
    | some _ =>
      let page ← evaluateWithin setup rules [] (offsetOf pagination collected)
      evaluatePages setup pagination rules limit (seen + 1) (mergePage collected page)

/-- A bound on the number of further pages. -/
def pageLimit (pagination : Pagination) : Nat :=
  pagination.maxPages.getD Decimal.maxIndex

def collectPages (setup : Setup) (config : ParseConfig) : Script Json := do
  let result ← evaluateWithin setup config.rules [] 0
  match config.pagination with
  | none => return result
  | some pagination => evaluatePages setup pagination config.rules (pageLimit pagination) 1 result

/-- Performs the actions of a parse, if it has any, then evaluates its rules on all pages. -/
def evaluateAll (setup : Setup) (config : ParseConfig) : Script Json :=
  if config.actions.isEmpty then collectPages setup config
  else do
    let _ ← performAll setup config.actions "" .null
    collectPages setup config

def parse (setup : Setup) (config : ParseConfig) : Script Json := do
  let result ← Script.outcome do
    let _ ← Script.work .prepare
    evaluateAll setup config
  match result with
  | .error _ => if setup.settings.snapshotOnError then Script.capture "error"
  | .ok _ => pure ()
  let _ ← Script.outcome (Script.work .tearDown)
  Script.settled result

end Run

end Harvest
