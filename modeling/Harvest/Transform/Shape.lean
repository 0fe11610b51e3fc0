import Harvest.Transform.Step

/-!
Contract: transforms that take parts of mappings and arrays.
-/

namespace Harvest.Transform

def keptNames (step : Step) : Except TransformFault (List String) :=
  match (step.option? "props").or (step.option? "prop") with
  | some (.array items) => .ok (items.filterMap Json.text?)
  | some (.string name) => .ok [name]
  | _ => .error (.missing "props")

def pick : Rule := fun step _ value =>
  (keptNames step).map fun names =>
    match value with
    | .object fields => .object (fields.filter fun field => names.contains field.1)
    | _ => .object []

def pathOf (step : Step) : Except TransformFault String :=
  match step.text? "path" with
  | some path => .ok path
  | none => .error (.missing "path")

/-- The value at a path in each item of an array. -/
def pluck : Rule := fun step _ value =>
  (pathOf step).map fun path =>
    match value with
    | .array items => .array (items.map fun item => (item.lookup? path).getD .null)
    | _ => .array []

/-- The value at a path, or a default where the path leads nowhere. -/
def get : Rule := fun step _ value =>
  (pathOf step).map fun path => (value.lookup? path).getD ((step.option? "default").getD .null)

end Harvest.Transform
