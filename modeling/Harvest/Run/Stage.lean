import Harvest.Page.State
import Harvest.Run.World

/-!
Contract: what a page's surroundings can be: a page with fixed answers in front of it.

A fixed answer keeps a call from the page. Work that is no call has no value to answer
with, so for it only a fixed failure counts.
-/

namespace Harvest

inductive FixedAnswer where
  | value (value : Json)
  | failing (text : String)

/-- A page with fixed answers in front of it, by the names of the work that they answer. -/
structure Stage where
  page : Page
  fixed : List (String × FixedAnswer) := []

namespace Page

def work (page : Page) : PageWork → PageReply
  | .call pageCall => page.dispatch pageCall
  | .prepare => { page with preparations := page.preparations + 1 }.reply (.ok .null)
  | .tearDown => { page with tearDowns := page.tearDowns + 1 }.reply (.ok .null)
  | .snapshot label => { page with snapshots := page.snapshots ++ [label] }.reply (.ok .null)

end Page

namespace Stage

/-- The fixed answer to a piece of work, if there is one. -/
def fixedOutcome? (stage : Stage) (work : PageWork) : Option (Except Failure Json) :=
  match stage.fixed.lookup work.name, work with
  | some (.failing text), _ => some (.error (.page (.stated text)))
  | some (.value value), .call _ => some (.ok value)
  | _, _ => none

def serve (stage : Stage) (work : PageWork) : Service Stage :=
  match stage.fixedOutcome? work with
  | some outcome => { state := stage, outcome := outcome }
  | none =>
    let reply := stage.page.work work
    { state := { stage with page := reply.page }, outcome := reply.answer, events := reply.events }

def changePage (change : Page → Page × List PageEvent) (stage : Stage) : Stage × List PageEvent :=
  let (page, events) := change stage.page
  ({ stage with page := page }, events)

end Stage

end Harvest
