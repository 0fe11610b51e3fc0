import Harvest.Base64
import Harvest.Description.Problem
import Harvest.Pattern.Basic
import Harvest.Uri.Basic

/-!
Contract: why a run fails, and how each failure is worded.

A failure is a configuration failure when the description at fault is wrong whatever
the page does; such a failure is never hidden by keeping what was collected before it.
A race that no chain has won carries the failure delivered last.
-/

namespace Harvest

inductive RuleFault where
  | unreadable (problem : Description.Problem)
  | notJson
  | emptyCollection (rule : String)
  | mixedCollection (rule : String)
  | unnamedMember (rule : String)
  | gridWithoutScope (rule : String)
  | stated (text : String)

def RuleFault.message : RuleFault → String
  | .unreadable problem => problem.message
  | .notJson => "not a JSON description"
  | .emptyCollection rule => "empty collection in rule " ++ rule
  | .mixedCollection rule => "collection of rule " ++ rule ++ " mixes rules and rows"
  | .unnamedMember rule => "collection member " ++ rule ++ " has no name"
  | .gridWithoutScope rule => "grid rule " ++ rule ++ " needs a scope"
  | .stated text => text

inductive TransformFault where
  | missing (option : String)
  | badPattern (fault : Pattern.Fault)
  | badSeparator (found : Json)
  | indexNotNatural
  | unknownIndex (found : Json)
  | fieldNotText
  | unknownType (name : String)
  | unknownOperator (name : String)
  | badFormat (format : String)
  | undecodable (fault : Base64.Fault)

def TransformFault.message : TransformFault → String
  | .missing option => "missing " ++ Description.marked option
  | .badPattern fault => fault.message
  | .badSeparator found => "separator must be a string or [pattern, flags], got " ++ found.compact
  | .indexNotNatural => "index must be a non-negative integer"
  | .unknownIndex found => "unsupported index " ++ found.compact
  | .fieldNotText => "field names must be strings"
  | .unknownType name => "unknown dataType " ++ Description.marked name
  | .unknownOperator name => "unknown operator " ++ Description.marked name
  | .badFormat format => "cannot format date with " ++ Description.marked format
  | .undecodable fault => fault.message

inductive ActionFault where
  | noScope
  | missing (parameter : String)
  | notMapping (parameter : String)
  | noChains
  | badPattern (fault : Pattern.Fault)
  | badAddressPattern (source : String)
  | noBase (target : String)
  | unresolved (target : String) (fault : Uri.Fault)

def ActionFault.message : ActionFault → String
  | .noScope => "requires a scope"
  | .missing parameter => "missing " ++ Description.marked parameter
  | .notMapping parameter => Description.marked parameter ++ " must be an object"
  | .noChains => "no chains to run"
  | .badPattern fault => fault.message
  | .badAddressPattern source => "bad uri pattern: " ++ source
  | .noBase target => "cannot resolve " ++ Description.marked target ++ " without an absolute page url"
  | .unresolved target fault => "cannot resolve " ++ Description.marked target ++ ": " ++ fault.message

inductive PageFault where
  | badSelector (selector : String)
  | abandonedRace
  | closedChannel
  | stalled
  | stated (text : String)

def PageFault.message : PageFault → String
  | .badSelector selector => "invalid selector " ++ Description.marked selector
  | .abandonedRace => "case chain aborted"
  | .closedChannel => "page event channel closed"
  | .stalled => "nothing is left to wait for"
  | .stated text => text

/-- What can be registered under a name. -/
inductive Registrable where
  | action
  | transform

def Registrable.word : Registrable → String
  | .action => "action"
  | .transform => "transform"

inductive Failure where
  | invalidRule (fault : RuleFault)
  | emptyQuery (selector : String)
  | unsupportedTransform (kind : String)
  | invalidTransform (kind : String) (fault : TransformFault)
  | unsupportedAction (kind : String)
  | invalidAction (kind : String) (fault : ActionFault)
  | waitTimeout (what : String) (timeout : Nat)
  | waitBroken (what : String)
  | pageError (text : String)
  | raceFailed (chains : Nat) (last : Failure)
  | paginationProbe (cause : Failure)
  | namelessRegistration (what : Registrable)
  | noDocument (url : String)
  | scriptFailed (text : String)
  | page (fault : PageFault)
  | unreadable (problem : Description.Problem)
  | custom (text : String)

namespace Failure

def message : Failure → String
  | .invalidRule fault => "Invalid rule: " ++ fault.message
  | .emptyQuery selector => "Query returned no result for selector " ++ Description.marked selector
  | .unsupportedTransform kind => "Unsupported transform type: " ++ kind
  | .invalidTransform kind fault =>
    "Invalid options for transform " ++ Description.marked kind ++ ": " ++ fault.message
  | .unsupportedAction kind => "Unsupported action type: " ++ kind
  | .invalidAction kind fault =>
    "Invalid parameters for action " ++ Description.marked kind ++ ": " ++ fault.message
  | .waitTimeout what timeout =>
    "Wait " ++ Description.marked what ++ " timed out after " ++ Description.countText timeout ++ "ms"
  | .waitBroken what => "Wait " ++ Description.marked what ++ " aborted by breaker"
  | .pageError text => "Page reported an error: " ++ text
  | .raceFailed chains last =>
    "All " ++ Description.countText chains ++ " cases failed, last failure: " ++ last.message
  | .paginationProbe cause => "Pagination progress probe failed: " ++ cause.message
  | .namelessRegistration what => "Registration rejected: " ++ what.word ++ " type must be a non-empty string"
  | .noDocument url => "Navigation failed: no document for " ++ url
  | .scriptFailed text => "JavaScript execution failed: " ++ text
  | .page fault => "Environment error: " ++ fault.message
  | .unreadable problem => "Serialization error: " ++ problem.message
  | .custom text => "Anyhow error: " ++ text

/-- Whether the description at fault is wrong whatever the page does. -/
def isConfiguration : Failure → Bool
  | .invalidRule _ => true
  | .unsupportedTransform _ => true
  | .invalidTransform _ _ => true
  | .unsupportedAction _ => true
  | .invalidAction _ _ => true
  | _ => false

/-- Whether the wording says what is wrong inside a pattern or a JSON text, which is left to whoever reads
them. -/
def namesSyntax : Failure → Bool
  | .invalidRule .notJson => true
  | .invalidTransform _ (.badPattern (.malformed _)) => true
  | .invalidAction _ (.badPattern (.malformed _)) => true
  | .invalidAction _ (.badAddressPattern _) => true
  | .raceFailed _ last => last.namesSyntax
  | .paginationProbe cause => cause.namesSyntax
  | _ => false

end Failure

end Harvest
