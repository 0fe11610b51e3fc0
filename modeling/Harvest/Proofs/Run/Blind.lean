import Harvest.Proofs.Run.Requests
import Harvest.Proofs.Run.Still

/-!
Contract: rules whose steps make the same of a value whatever is stored.

Without actions, such a rule makes no request that changes the page or is answered by what is stored.
So its evaluation ends at once and comes to one outcome on all pages that show one view, failures
included. Its steps may still store something, and they may name transforms that there are not.
-/

namespace Harvest

open World

/-! ### Steps -/

namespace Transform

variable {transforms : Registry Transform}

/-- What a step applies, if anything, makes the same of a value whatever is stored. -/
def Step.IsBlind (transforms : Registry Transform) (step : Step) : Prop :=
  ∀ transform, transforms.find? step.kind = some transform → ∀ storage other value,
    (transform.apply step storage value).map Prod.fst = (transform.apply step other value).map Prod.fst

theorem Step.IgnoresStorage.isBlind {step : Step} (ignores : step.IgnoresStorage transforms) :
    step.IsBlind transforms := by
  obtain ⟨kind, known, same⟩ := ignores
  intro transform found storage other value
  cases known.symm.trans found
  simp only [apply, same storage other value]
  cases kind.rule step other value <;> rfl

/-- Outcomes with the same values are the same failures, or they differ in what is stored at most. -/
theorem eq_or_eq_of_map_fst {first second : Except Failure (Json × Storage)}
    (same : first.map Prod.fst = second.map Prod.fst) :
    (∃ failure, first = .error failure ∧ second = .error failure) ∨
      ∃ value left right, first = .ok (value, left) ∧ second = .ok (value, right) := by
  rcases first with failure | ⟨value, left⟩ <;> rcases second with other | ⟨another, right⟩
  · exact .inl ⟨failure, rfl, congrArg Except.error (Except.error.inj same).symm⟩
  · cases same
  · cases same
  · have equal : value = another := Except.ok.inj same
    exact .inr ⟨value, left, right, rfl, by rw [equal]⟩

theorem applyAll_of_blind {steps : List Step} (blind : ∀ step ∈ steps, step.IsBlind transforms)
    (storage other : Storage) (value : Json) :
    (applyAll transforms steps storage value).1 = (applyAll transforms steps other value).1 := by
  induction steps generalizing storage other value with
  | nil => rfl
  | cons step steps inductionHypothesis =>
    have later := inductionHypothesis fun step member => blind step (List.mem_cons_of_mem _ member)
    unfold applyAll
    cases known : transforms.find? step.kind with
    | none => rfl
    | some transform =>
      have same := blind step List.mem_cons_self transform known storage other value
      dsimp only
      rcases eq_or_eq_of_map_fst same with ⟨failure, here, there⟩ | ⟨result, left, right, here, there⟩
      · rw [here, there]
      · rw [here, there]
        exact later left right result

theorem produce_of_blind {steps : List Step} (blind : ∀ step ∈ steps, step.IsBlind transforms)
    (storage other : Storage) (value : Json) :
    (produce transforms steps storage value).1 = (produce transforms steps other value).1 :=
  applyAll_of_blind blind storage other _

end Transform

/-! ### Requests and jobs -/

/-- A request that leaves each page as it is, and whose answer does not depend on what is stored. -/
def Request.IsBlind (transforms : Registry Transform) : Request → Prop
  | .ask (.call (.query _ _ _)) => True
  | .ask (.call (.count _)) => True
  | .convert steps _ => ∀ step ∈ steps, step.IsBlind transforms
  | .keep _ _ => True
  | _ => False

variable {surroundings : Surroundings Stage} {α : Type}

/-- A request that is blind has one answer on each view, at once. -/
theorem Request.IsBlind.endsOn (serves : surroundings.serve = Stage.serve) {asked : Request}
    (blind : asked.IsBlind surroundings.transforms) (view : View) :
    ∃ answer, (Job.perform asked).EndsOn surroundings view answer := by
  match asked, blind with
  | .ask (.call (.query selector attr property)), _ =>
    exact ⟨_, @Script.endsOn_call surroundings serves (.query selector attr property)
      (fun view => .ok ((Page.ofView view).query selector attr property)) (fun _ => rfl) view⟩
  | .ask (.call (.count selector)), _ =>
    exact ⟨_, @Script.endsOn_call surroundings serves (.count selector)
      (fun view => ((Page.ofView view).select selector).map fun nodes => .count nodes.length) (fun _ => rfl) view⟩
  | .convert steps value, blind =>
    refine ⟨(Transform.produce surroundings.transforms steps {} value).1, fun stage _ _ => ?_⟩
    refine @Job.EndsAt.perform surroundings stage (.convert steps value) _ fun records _ world here => ?_
    have same := Transform.produce_of_blind blind {} (world.storage records) value
    exact ⟨world.withStorage records _, here, by rw [same, attend]⟩
  | .keep name value, _ =>
    refine ⟨(), fun stage _ _ => ?_⟩
    exact @Job.EndsAt.perform surroundings stage (.keep name value) () fun records _ world here =>
      ⟨world.withStorage records ((world.storage records).insert name value), here, rfl⟩

/-- A job whose requests are all blind comes to one value on each view, at once. -/
theorem Job.AsksOnly.endsOn (serves : surroundings.serve = Stage.serve) {job : Job α}
    (asks : job.AsksOnly (Request.IsBlind surroundings.transforms)) (view : View) :
    ∃ value, job.EndsOn surroundings view value := by
  induction job with
  | done value => exact ⟨value, .done value⟩
  | request asked next inductionHypothesis =>
    obtain ⟨answer, answered⟩ := asks.1.endsOn serves view
    obtain ⟨value, ends⟩ := inductionHypothesis answer (asks.2 answer)
    exact ⟨value, answered.andThen ends⟩

/-! ### Rules -/

/-- A rule without actions is evaluated to one outcome on each view if its steps are blind. -/
theorem Run.exists_endsOn_of_blind (serves : surroundings.serve = Stage.serve) (setup : Setup) {rule : Rule}
    (idle : rule.IsIdle) (blind : ∀ step, rule.HasStep step → step.IsBlind surroundings.transforms) (view : View)
    (offset : Nat) : ∃ outcome, (evaluateWithin setup rule [] offset).run.EndsOn surroundings view outcome := by
  have may : rule.MayAsk (Request.IsBlind surroundings.transforms) :=
    { idle := idle
      query := fun _ _ _ => trivial
      count := fun _ => trivial
      convert := fun inner within _ step member => blind step ⟨inner, within, member⟩
      keep := fun _ _ _ => trivial }
  exact Job.AsksOnly.endsOn serves (asksOnly_evaluateWithin setup may [] offset) view

end Harvest
