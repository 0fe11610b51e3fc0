import Harvest.Registry
import Harvest.Transform.Coding
import Harvest.Transform.Comparison
import Harvest.Transform.Matching
import Harvest.Transform.Shape
import Harvest.Transform.Text

/-!
Contract: chains of transforms.

`produce` applies steps from left to right, each to the value that the one before it
gives, and stops at the first that fails. A chain begins with the empty text where the
value is null. The built-in transforms read what is stored and change nothing there.
-/

namespace Harvest

namespace Transform

inductive BuiltIn where
  | date
  | replace
  | find
  | split
  | join
  | trim
  | toLowerCase
  | toUpperCase
  | addInFront
  | addBehind
  | pick
  | pluck
  | get
  | encodeAddress
  | decodeAddress
  | decodeMarkup
  | decodeBase64
  | combine
  | compare
  | equal

def BuiltIn.rule : BuiltIn → Rule
  | .date => Transform.date
  | .replace => Transform.replace
  | .find => Transform.find
  | .split => Transform.split
  | .join => Transform.join
  | .trim => Transform.trim
  | .toLowerCase => Transform.toLowerCase
  | .toUpperCase => Transform.toUpperCase
  | .addInFront => Transform.addInFront
  | .addBehind => Transform.addBehind
  | .pick => Transform.pick
  | .pluck => Transform.pluck
  | .get => Transform.get
  | .encodeAddress => Transform.encodeAddress
  | .decodeAddress => Transform.decodeAddress
  | .decodeMarkup => Transform.decodeMarkup
  | .decodeBase64 => Transform.decodeBase64
  | .combine => Transform.combine
  | .compare => Transform.compare
  | .equal => Transform.equal

def builtIns : List (String × BuiltIn) := [
  ("date", .date), ("replace", .replace), ("match", .find), ("split", .split), ("join", .join), ("trim", .trim),
  ("toLowerCase", .toLowerCase), ("toUpperCase", .toUpperCase), ("prefix", .addInFront), ("postfix", .addBehind),
  ("pick", .pick), ("pluck", .pluck), ("get", .get), ("encodeURI", .encodeAddress), ("decodeURI", .decodeAddress),
  ("encodeUri", .encodeAddress), ("decodeUri", .decodeAddress), ("decodeHTML", .decodeMarkup),
  ("decodeBase64", .decodeBase64), ("combine", .combine), ("compare", .compare), ("equal", .equal)]

end Transform

/-- A transform: a built-in one, or one that may also change what is stored. -/
inductive Transform where
  | builtIn (kind : Transform.BuiltIn)
  | custom (run : Transform.Step → Storage → Json → Except Failure (Json × Storage))

namespace Transform

def apply (transform : Transform) (step : Step) (storage : Storage) (value : Json) :
    Except Failure (Json × Storage) :=
  match transform with
  | .builtIn kind =>
    match kind.rule step storage value with
    | .ok result => .ok (result, storage)
    | .error fault => .error (.invalidTransform step.kind fault)
  | .custom run => run step storage value

def standard : Registry Transform :=
  Registry.ofList (builtIns.map fun entry => (entry.1, .builtIn entry.2))

/-- Applies steps from left to right. What has been stored before a step fails stays stored. -/
def applyAll (registry : Registry Transform) : List Step → Storage → Json → Except Failure Json × Storage
  | [], storage, value => (.ok value, storage)
  | step :: steps, storage, value =>
    match registry.find? step.kind with
    | none => (.error (.unsupportedTransform step.kind), storage)
    | some transform =>
      match transform.apply step storage value with
      | .ok (result, storage) => applyAll registry steps storage result
      | .error failure => (.error failure, storage)

def begin (value : Json) : Json :=
  if value.isNull then .string "" else value

def produce (registry : Registry Transform) (steps : List Step) (storage : Storage) (value : Json) :
    Except Failure Json × Storage :=
  applyAll registry steps storage (begin value)

end Transform

end Harvest
