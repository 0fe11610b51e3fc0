import Harvest.Failure
import Harvest.Json.View
import Harvest.Storage

/-!
Contract: one step of a chain of transforms.

A step names a transform and gives it options. An option that is null counts as
absent.
-/

namespace Harvest.Transform

structure Step where
  kind : String
  options : Fields := []

namespace Step

def withOption (step : Step) (name : String) (value : Json) : Step :=
  { step with options := Fields.insert name value step.options }

def option? (step : Step) (name : String) : Option Json :=
  (Fields.find? name step.options).filter fun value => !value.isNull

def text? (step : Step) (name : String) : Option String :=
  (step.option? name).bind Json.text?

def pattern (step : Step) (name : String) : Except TransformFault Pattern :=
  match step.option? name with
  | none => .error (.missing name)
  | some value =>
    match Pattern.ofJson value with
    | .ok pattern => .ok pattern
    | .error fault => .error (.badPattern fault)

end Step

/-- What a transform makes of a value, with read access to what is stored. -/
abbrev Rule :=
  Step → Storage → Json → Except TransformFault Json

end Harvest.Transform
