import Harvest.Proofs.Json.Path
import Harvest.Proofs.Transform.RoundTrip

/-!
Contract: going along a path in one step or in two.

`get` and `pluck` give null where a path leads nowhere, and null again where it leads to null. Nothing can be looked up in
null, so the step behind cannot tell the two apart from the whole path leading nowhere, and its default takes effect in
the same cases. `exchange_behind` carries what two lists of steps have in common into every chain around them.
-/

namespace Harvest.Transform

/-- Takes the value at a path, or a default where there is one. -/
def getStep (path : String) (fallback : Option Json) : Step where
  kind := "get"
  options := fallback.toList.map (("default", ·)) ++ [("path", .string path)]

def pluckStep (path : String) : Step where
  kind := "pluck"
  options := [("path", .string path)]

/-! ### Chains around steps -/

variable {registry : Registry Transform}

/-- Steps that come to the same may stand for each other behind any others. -/
theorem exchange_behind {steps others : List Step}
    (same : ∀ storage value, applyAll registry steps storage value = applyAll registry others storage value)
    (before : List Step) (storage : Storage) (value : Json) :
    applyAll registry (before ++ steps) storage value = applyAll registry (before ++ others) storage value := by
  induction before generalizing storage value with
  | nil => exact same storage value
  | cons step before inductionHypothesis =>
    rw [List.cons_append, List.cons_append, applyAll, applyAll]
    split
    · rfl
    · split
      · exact inductionHypothesis _ _
      · rfl

/-! ### One step -/

theorem path_getStep (path : String) (fallback : Option Json) : pathOf (getStep path fallback) = .ok path := by
  cases fallback <;> rfl

/-- Null as a default is no default. -/
theorem default_getStep (path : String) (fallback : Option Json) :
    ((getStep path fallback).option? "default").getD .null = fallback.getD .null := by
  cases fallback with
  | none => rfl
  | some value => cases value <;> rfl

theorem applyAll_getStep (path : String) (fallback : Option Json) (after : List Step) (storage : Storage) (value : Json) :
    applyAll standard (getStep path fallback :: after) storage value =
      applyAll standard after storage ((value.lookup? path).getD (fallback.getD .null)) := by
  refine applyAll_builtIn (show standard.find? "get" = some (.builtIn .get) from rfl) ?_ after
  show Transform.get (getStep path fallback) storage value = _
  rw [Transform.get, path_getStep, default_getStep]
  rfl

/-- The value at a path in each item of an array; what is no array has no items. -/
def pluckAt (path : String) : Json → Json
  | .array items => .array (items.map fun item => (item.lookup? path).getD .null)
  | _ => .array []

theorem applyAll_pluckStep (path : String) (after : List Step) (storage : Storage) (value : Json) :
    applyAll standard (pluckStep path :: after) storage value = applyAll standard after storage (pluckAt path value) := by
  refine applyAll_builtIn (show standard.find? "pluck" = some (.builtIn .pluck) from rfl) ?_ after
  show Transform.pluck (pluckStep path) storage value = _
  rw [Transform.pluck]
  cases value <;> rfl

/-! ### Two steps -/

variable {front back : String}

theorem pluckAt_pluckAt (filledFront : front ≠ "") (filledBack : back ≠ "") (value : Json) :
    pluckAt back (pluckAt front value) = pluckAt (front ++ "." ++ back) value := by
  cases value with
  | array items =>
    simp only [pluckAt, List.map_map, Function.comp_def, Json.lookup?_getD filledFront filledBack]
  | _ => rfl

/-- A path in one step comes to the same as its two parts in two steps, in every chain: for `get` with the default in the
last step, and for `pluck`. -/
theorem path_is_walked_in_parts (filledFront : front ≠ "") (filledBack : back ≠ "") (fallback : Option Json)
    (before after : List Step) (storage : Storage) (value : Json) :
    produce standard (before ++ getStep (front ++ "." ++ back) fallback :: after) storage value =
        produce standard (before ++ getStep front none :: getStep back fallback :: after) storage value ∧
      produce standard (before ++ pluckStep (front ++ "." ++ back) :: after) storage value =
        produce standard (before ++ pluckStep front :: pluckStep back :: after) storage value := by
  constructor
  · refine exchange_behind (fun storage value => ?_) before storage (begin value)
    rw [applyAll_getStep, applyAll_getStep, applyAll_getStep, Option.getD_none,
      Json.lookup?_getD filledFront filledBack]
  · refine exchange_behind (fun storage value => ?_) before storage (begin value)
    rw [applyAll_pluckStep, applyAll_pluckStep, applyAll_pluckStep, pluckAt_pluckAt filledFront filledBack]

def shelves : Json :=
  .object [("shelves", .array [.null, .array [.object [("name", .null)], .object [("name", .string "lamp")]]])]

/-- The path goes through arrays by their indices, to a value that is there, to null, and past what is there. -/
theorem shelves_walked_in_parts : ("shelves.1" ≠ "" ∧ "+1.name" ≠ "") ∧
    (produce standard ([] ++ getStep ("shelves.1" ++ "." ++ "+1.name") (some (.int 0)) :: []) {} shelves =
        produce standard ([] ++ getStep "shelves.1" none :: getStep "+1.name" (some (.int 0)) :: []) {} shelves ∧
      produce standard ([getStep "shelves" none] ++ pluckStep ("0" ++ "." ++ "name") :: []) {} shelves =
        produce standard ([getStep "shelves" none] ++ pluckStep "0" :: pluckStep "name" :: []) {} shelves) ∧
    produce standard [getStep "shelves.1.+1.name" (some (.int 0))] {} shelves = (.ok (.string "lamp"), {}) ∧
    produce standard [getStep "shelves.1.0.name" (some (.int 0))] {} shelves = (.ok .null, {}) ∧
    produce standard [getStep "shelves.0.0.name" (some (.int 0))] {} shelves = (.ok (.int 0), {}) :=
  ⟨⟨by decide, by decide⟩,
    ⟨(path_is_walked_in_parts (by decide) (by decide) (some (.int 0)) [] [] {} shelves).1,
      (path_is_walked_in_parts (by decide) (by decide) none [getStep "shelves" none] [] {} shelves).2⟩,
    rfl, rfl, rfl⟩

end Harvest.Transform
