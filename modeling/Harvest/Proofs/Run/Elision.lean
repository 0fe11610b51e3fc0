import Harvest.Proofs.Rule.Elision
import Harvest.Proofs.Run.Composition

/-!
Contract: jobs that go on alike when actions that are done already have been left out.

`Job.Elides` says that a job does what another one does, except that it may ask first for what has been recorded,
and that in a race the steps of its cases may be spent. Performing actions elides performing them without the spent
ones (`Run.elides_performAll`), and so it is with each case of a race (`Run.elides_performCase`). All of these begin
at once: none waits before it has done anything.
-/

namespace Harvest

namespace Job

variable {recorded : Nat → Bool} {α β : Type}

/-! ### Jobs that ask for what is recorded -/

/-- A job does what another one does, and asks besides for what has been recorded. The cases of its races may contain
spent actions that are left out there. -/
inductive Elides (recorded : Nat → Bool) : Job α → Job α → Prop where
  | done (value : α) : Elides recorded (.done value) (.done value)
  | request (request : Request) {next next' : request.Answer → Job α}
      (alike : ∀ answer, Elides recorded (next answer) (next' answer)) :
      Elides recorded (.request request next) (.request request next')
  | race (cases : List (List Action)) (selector : String) (previous : Json)
      {next next' : Except Failure Json → Job α} (alike : ∀ outcome, Elides recorded (next outcome) (next' outcome)) :
      Elides recorded (.request (.race cases selector previous) next)
        (.request (.race (Action.elideCases recorded cases) selector previous) next')
  | passed {identity : Nat} (known : recorded identity = true) {next : Bool → Job α} {job : Job α}
      (alike : Elides recorded (next true) job) : Elides recorded (.request (.isDone identity) next) job

namespace Elides

theorem refl (job : Job α) : Elides recorded job job := by
  induction job with
  | done value => exact .done value
  | request request next inductionHypothesis => exact .request request inductionHypothesis

theorem andThen {job elided : Job α} {next next' : α → Job β} (first : Elides recorded job elided)
    (last : ∀ value, Elides recorded (next value) (next' value)) :
    Elides recorded (job.andThen next) (elided.andThen next') := by
  induction first with
  | done value => exact last value
  | request request _ inductionHypothesis => exact .request request inductionHypothesis
  | race cases selector previous _ inductionHypothesis => exact .race cases selector previous inductionHypothesis
  | passed known _ inductionHypothesis => exact .passed known inductionHypothesis

theorem bind {script elided : Script α} {next next' : α → Script β} (first : Elides recorded script.run elided.run)
    (last : ∀ value, Elides recorded (next value).run (next' value).run) :
    Elides recorded (script >>= next).run (elided >>= next').run := by
  refine first.andThen fun outcome => ?_
  cases outcome with
  | ok value => exact last value
  | error failure => exact .refl _

end Elides

/-! ### Jobs that begin at once -/

/-- A job does not begin by waiting for a moment or for an event. -/
def BeginsAtOnce : Job α → Prop
  | .request (.sleepUntil _) _ => False
  | .request (.listen _ _ _) _ => False
  | _ => True

theorem BeginsAtOnce.andThen {job : Job α} {next : α → Job β} (first : job.BeginsAtOnce)
    (last : ∀ value, (next value).BeginsAtOnce) : (job.andThen next).BeginsAtOnce := by
  cases job with
  | done value => exact last value
  | request request following =>
    cases request with
    | sleepUntil time => exact first
    | listen subscription limit awaited => exact first
    | _ => trivial

theorem beginsAtOnce_composes : Composes BeginsAtOnce where
  done := fun _ => trivial
  andThen := BeginsAtOnce.andThen
  plain := by
    intro request plain
    cases request with
    | sleepUntil time => exact plain.elim
    | listen subscription limit awaited => exact plain.elim
    | _ => trivial
  capture := fun _ => trivial
  subscribed := fun _ => trivial
  timed := fun _ => trivial

end Job

/-- What is registered besides the built-in actions does not begin by waiting for a moment or for an event: the moment
is reckoned from the time, and the event heard on a subscription, for which a script has to ask first. -/
def Setup.CustomBeginsAtOnce (setup : Setup) : Prop :=
  ∀ (kind name : String) (run : ActionHead → String → Json → Script Json),
    setup.performers.find? kind = some (.custom name run) →
    ∀ head selector previous, (run head selector previous).run.BeginsAtOnce

theorem beginsAtOnce_practice {setup : Setup} (custom : setup.CustomBeginsAtOnce) :
    Practice Job.BeginsAtOnce setup where
  toComposes := Job.beginsAtOnce_composes
  once := Job.beginsAtOnce_composes.performOnce (fun _ => trivial) fun _ => trivial
  custom := custom
  race := fun _ _ _ => trivial

namespace Run

variable {recorded : Nat → Bool} (setup : Setup)

theorem beginsAtOnce_performCase {setup : Setup} (custom : setup.CustomBeginsAtOnce) (selector : String)
    (hasWon : Bool) (steps : List Action) (previous : Json) :
    (performCase setup selector hasWon steps previous).run.BeginsAtOnce :=
  (beginsAtOnce_practice custom).performCase (fun _ => trivial) selector hasWon steps previous

/-! ### Actions with spent ones inside -/

/-- An action goes on as another one does whose attempt does. -/
theorem elides_performOnce (head : ActionHead) (previous : Json) {attempt elided : Script Json}
    (alike : Job.Elides recorded attempt.run elided.run) :
    Job.Elides recorded (performOnce head previous attempt).run (performOnce head previous elided).run := by
  unfold performOnce
  split
  · refine Job.Elides.bind (.refl _) fun isDone => ?_
    split
    · exact .refl _
    · exact .bind alike fun _ => .refl _
  · exact alike

theorem elides_attempt (head : ActionHead) (parent : String) {work elided : Performer → String → Script Json}
    (alike : ∀ performer selector, Job.Elides recorded (work performer selector).run (elided performer selector).run) :
    Job.Elides recorded (attempt setup head parent work).run (attempt setup head parent elided).run := by
  unfold attempt
  split
  · exact .refl _
  · refine .bind (.refl _) fun pages => .bind (.refl _) fun requests => ?_
    exact .bind (alike _ _) fun result => .refl _

/-- A spent action is passed over. -/
theorem elides_spent {action : Action} (spent : action.head.isSpent recorded = true) (parent : String)
    (previous : Json) {next : Json → Script Json} {elided : Script Json}
    (alike : Job.Elides recorded (next previous).run elided.run) :
    Job.Elides recorded (perform setup action parent previous >>= next).run elided.run := by
  simp only [ActionHead.isSpent, Bool.and_eq_true] at spent
  obtain ⟨⟨once, _⟩, known⟩ := spent
  rw [perform_eq]
  unfold performOnce
  rw [if_pos once]
  exact .passed known alike

mutual

/-- Performing an action elides performing it without the spent actions inside. -/
theorem elides_perform : ∀ (action : Action) (parent : String) (previous : Json),
    Job.Elides recorded (perform setup action parent previous).run
      (perform setup (action.elide recorded) parent previous).run
  | .mk head actions conditions otherwise cases rules, parent, previous => by
    rw [perform_eq, perform_eq]
    refine elides_performOnce head previous (elides_attempt setup head parent fun performer selector => ?_)
    rw [Action.elide]
    match performer with
    | .custom _ run => exact .refl _
    | .builtIn kind =>
      cases kind with
      | condition =>
        unfold ownWork
        refine .bind (elides_performAll conditions selector previous) fun verdict => ?_
        split
        · exact elides_performAll actions selector verdict
        · match otherwise with
          | none => exact .refl _
          | some others =>
            rw [Action.elideElse]
            exact elides_performAll others selector verdict
      | cases =>
        unfold ownWork
        dsimp only
        rw [Action.elideCases_eq_map, List.isEmpty_map, ← Action.elideCases_eq_map]
        split
        · exact .refl _
        · exact .race cases selector previous fun _ => .refl _
      | _ => exact .refl _

/-- Performing actions elides performing them without the spent ones. -/
theorem elides_performAll : ∀ (actions : List Action) (parent : String) (previous : Json),
    Job.Elides recorded (performAll setup actions parent previous).run
      (performAll setup (Action.elideAll recorded actions) parent previous).run
  | [], _, _ => by
    rw [Action.elideAll]
    exact .refl _
  | action :: actions, parent, previous => by
    rw [Action.elideAll, performAll]
    split
    case isTrue spent => exact elides_spent setup spent parent previous (elides_performAll actions parent previous)
    case isFalse =>
      rw [performAll]
      exact .bind (elides_perform action parent previous) fun result => elides_performAll actions parent result

end

/-- Performing a case elides performing it without the spent steps. -/
theorem elides_performCase (selector : String) (hasWon : Bool) (steps : List Action) (previous : Json) :
    Job.Elides recorded (performCase setup selector hasWon steps previous).run
      (performCase setup selector hasWon (Action.elideAll recorded steps) previous).run := by
  induction steps generalizing hasWon previous with
  | nil =>
    rw [Action.elideAll]
    exact .refl _
  | cons action steps inductionHypothesis =>
    rw [Action.elideAll]
    by_cases spent : action.head.isSpent recorded = true
    · rw [if_pos spent, performCase]
      refine elides_spent setup spent selector previous ?_
      have undecided : action.head.winsRace = false := by
        simp only [ActionHead.isSpent, Bool.and_eq_true, Bool.not_eq_true'] at spent
        exact spent.1.2
      simp only [undecided, Bool.false_and, Bool.false_eq_true, if_false]
      exact inductionHypothesis hasWon previous
    · rw [if_neg spent, performCase, performCase, Action.head_elide]
      refine .bind (elides_perform setup action selector previous) fun result => ?_
      split
      · exact .bind (.refl _) fun _ => inductionHypothesis true result
      · exact inductionHypothesis hasWon result

end Run

end Harvest
