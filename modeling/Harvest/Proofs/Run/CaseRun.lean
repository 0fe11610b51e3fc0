import Harvest.Proofs.Run.History

/-!
Contract: what a race makes of reports, and what a case reports.

`Verdict` is the law of how a race ends: by the first success that is reported, or, when all
cases have ended, by the failure reported last. `CaseRun` is the law of one case: it performs its
steps in order up to its own first failure, and reports nothing but its win and its end.
-/

namespace Harvest

/-! ### Verdicts -/

/-- How a race of some size ends, given all reports, the earliest first, and whether all its cases have ended. -/
inductive Verdict (size : Nat) (reports : List (Except Failure Json)) (finished : Prop) : Except Failure Json → Prop where
  | won {before after : List (Except Failure Json)} {value : Json} (shape : reports = before ++ .ok value :: after)
      (failures : ∀ report ∈ before, ∃ failure, report = .error failure) : Verdict size reports finished (.ok value)
  | lost {before : List (Except Failure Json)} {last : Failure} (all : finished) (shape : reports = before ++ [.error last])
      (failures : ∀ report ∈ before, ∃ failure, report = .error failure) :
      Verdict size reports finished (.error (.raceFailed size last))
  | abandoned (all : finished) (silent : reports = []) :
      Verdict size reports finished (.error (.raceFailed size (.page .abandonedRace)))

/-- A verdict stands whatever is reported later, since nothing is reported when all cases have ended. -/
theorem Verdict.append {size : Nat} {reports more : List (Except Failure Json)} {finished overLater : Prop}
    {outcome : Except Failure Json} (verdict : Verdict size reports finished outcome) (last : finished → more = [])
    (stays : finished → overLater) : Verdict size (reports ++ more) overLater outcome := by
  cases verdict with
  | won shape failures => exact .won (by rw [shape, List.append_assoc, List.cons_append]) failures
  | lost all shape failures => exact .lost (stays all) (by rw [last all, shape, List.append_nil]) failures
  | abandoned all silent => exact .abandoned (stays all) (by rw [last all, silent, List.append_nil])

namespace Race

theorem toOption_eq_none {report : Except Failure Json} (failed : report.toOption = none) :
    ∃ failure, report = .error failure := by
  cases report with
  | ok value => exact nomatch failed
  | error failure => exact ⟨failure, rfl⟩

theorem toOption_eq_some {report : Except Failure Json} {value : Json} (succeeded : report.toOption = some value) :
    report = .ok value := by
  cases report with
  | ok other => rw [Option.some.inj succeeded]
  | error failure => exact nomatch succeeded

theorem winner?_eq_some_iff {race : Race} {value : Json} :
    race.winner? = some value ↔ ∃ before after, race.reports = before ++ .ok value :: after ∧
      ∀ report ∈ before, ∃ failure, report = .error failure := by
  unfold winner?
  rw [List.findSome?_eq_some_iff]
  constructor
  · rintro ⟨before, report, after, shape, succeeded, failed⟩
    rw [toOption_eq_some succeeded] at shape
    exact ⟨before, after, shape, fun report member => toOption_eq_none (failed report member)⟩
  · rintro ⟨before, after, shape, failures⟩
    refine ⟨before, .ok value, after, shape, rfl, fun report member => ?_⟩
    obtain ⟨failure, rfl⟩ := failures report member
    rfl

theorem winner?_eq_none_iff {race : Race} :
    race.winner? = none ↔ ∀ report ∈ race.reports, ∃ failure, report = .error failure := by
  unfold winner?
  rw [List.findSome?_eq_none_iff]
  constructor
  · exact fun failed report member => toOption_eq_none (failed report member)
  · intro failures report member
    obtain ⟨failure, rfl⟩ := failures report member
    rfl

/-- The failure of a lost race is that of its last report. -/
theorem defeat_eq {race : Race} {before : List (Except Failure Json)} {last : Failure}
    (shape : race.reports = before ++ [.error last]) : race.defeat = .raceFailed race.size last := by
  unfold defeat
  rw [shape, List.reverse_append]
  rfl

theorem defeat_eq_of_silent {race : Race} (silent : race.reports = []) :
    race.defeat = .raceFailed race.size (.page .abandonedRace) := by
  unfold defeat
  rw [silent]
  rfl

/-- A race has the outcome that is its verdict. -/
theorem outcome?_eq_some_iff (race : Race) (outcome : Except Failure Json) :
    race.outcome? = some outcome ↔ Verdict race.size race.reports (race.running = 0) outcome := by
  unfold outcome?
  constructor
  · intro decided
    cases won : race.winner? with
    | some value =>
      rw [won] at decided
      obtain ⟨before, after, shape, failures⟩ := winner?_eq_some_iff.mp won
      rw [← Option.some.inj decided]
      exact .won shape failures
    | none =>
      have failures := winner?_eq_none_iff.mp won
      by_cases finished : race.running = 0
      · simp only [won, finished, if_true, Option.some.injEq] at decided
        subst decided
        rcases List.eq_nil_or_concat race.reports with silent | ⟨before, last, shape⟩
        · rw [defeat_eq_of_silent silent]
          exact .abandoned finished silent
        · rw [List.concat_eq_append] at shape
          obtain ⟨failure, rfl⟩ := failures last (by rw [shape]; simp)
          rw [defeat_eq shape]
          exact .lost finished shape fun report member => failures report (by rw [shape]; simp [member])
      · simp [won, finished] at decided
  · intro verdict
    cases verdict with
    | won shape failures => rw [winner?_eq_some_iff.mpr ⟨_, _, shape, failures⟩]
    | lost finished shape failures =>
      have lost : race.winner? = none := by
        refine winner?_eq_none_iff.mpr fun report member => ?_
        rw [shape] at member
        rcases List.mem_append.mp member with old | last
        · exact failures report old
        · exact ⟨_, List.mem_singleton.mp last⟩
      simp [lost, finished, defeat_eq shape]
    | abandoned finished silent =>
      have lost : race.winner? = none := winner?_eq_none_iff.mpr fun report member => by
        rw [silent] at member
        exact nomatch member
      simp [lost, finished, defeat_eq_of_silent silent]

end Race

/-! ### Reports -/

/-- The report that a request delivers to the race of its case. -/
def Request.report? : Request → Option (Except Failure Json)
  | .win value => some (.ok value)
  | _ => none

/-- The report that a deed delivers to the race of its case: a win, or the outcome of the case. -/
def Deed.report? : Deed → Option (Except Failure Json)
  | .exchange made => made.request.report?
  | .ending outcome => outcome

/-- On all its ways, a job reports no win. -/
def Job.Silent {α : Type} (job : Job α) : Prop :=
  ∀ (trail : List Exchange) (rest : Job α), Trail job trail rest → ∀ exchange ∈ trail, exchange.request.report? = none

namespace Job

variable {α β : Type}

theorem silent_done (value : α) : (Job.done value).Silent :=
  leaves_done (List.forall_mem_nil _) value

theorem Silent.andThen {job : Job α} {next : α → Job β} (first : job.Silent) (last : ∀ value, (next value).Silent) :
    (job.andThen next).Silent :=
  Leaves.andThen (fun old recent => List.forall_mem_append.mpr ⟨old, recent⟩) first last

theorem silent_perform {request : Request} (quiet : request.report? = none) : (perform request).Silent :=
  leaves_perform (List.forall_mem_nil _) fun _ => List.forall_mem_singleton.mpr quiet

/-- What is asked of the page reports nothing to a race. -/
theorem silent_asked (work : PageWork) {next : Except Failure Json → Job α} (last : ∀ outcome, (next outcome).Silent) :
    (Job.request (.ask work) next).Silent :=
  (@silent_perform (.ask work) rfl).andThen last

theorem silent_composes : Job.Composes Silent where
  done := silent_done
  andThen := Silent.andThen
  plain := by
    intro request plain
    cases request with
    | win value => exact plain.elim
    | _ => exact silent_perform rfl
  capture := fun label => silent_asked (.snapshot label) fun _ => silent_done _
  subscribed := fun obeys => (silent_perform rfl).andThen fun subscription =>
    obeys subscription fun _ _ => silent_perform rfl
  timed := fun obeys => (@silent_perform .now rfl).andThen fun time => obeys (fun _ => silent_perform rfl) time

end Job

/-- What is registered besides the built-in actions reports no wins: it does not know the race. -/
def Setup.CustomSilent (setup : Setup) : Prop :=
  ∀ (kind name : String) (run : ActionHead → String → Json → Script Json),
    setup.performers.find? kind = some (.custom name run) →
    ∀ head selector previous, (run head selector previous).run.Silent

theorem silent_conduct {setup : Setup} (custom : setup.CustomSilent) : Conduct (fun job => job.Silent) setup where
  toComposes := Job.silent_composes
  once := Job.silent_composes.performOnce (fun _ => Job.silent_perform rfl) fun _ =>
    Job.silent_perform rfl
  custom := custom
  race := fun _ _ _ => Job.silent_perform rfl
  prepares := Job.silent_asked .prepare fun _ => Job.silent_done _
  tearsDown := fun _ => Job.silent_asked .tearDown fun _ => Job.silent_done _

/-! ### The run of one case -/

/-- A step of a case has gone some way, and has reported nothing on it. -/
def StepRun (setup : Setup) (selector : String) (action : Action) (previous : Json) (trail : List Exchange)
    (rest : Job (Except Failure Json)) : Prop :=
  Job.Trail (Run.perform setup action selector previous).run trail rest ∧
    ∀ exchange ∈ trail, exchange.request.report? = none

/-- What a case has still to do behind the outcome of a step: nothing after a failure, and otherwise the steps behind, in
front of which it reports its win if the step is marked and it has not won yet. -/
def behindStep (setup : Setup) (selector : String) (hasWon : Bool) (action : Action) (steps : List Action) :
    Except Failure Json → Job (Except Failure Json)
  | .error failure => .done (.error failure)
  | .ok result =>
    if action.head.winsRace && !hasWon then
      .request (.win result) fun _ => (Run.performCase setup selector true steps result).run
    else (Run.performCase setup selector hasWon steps result).run

/-- The deeds of a case that may have reported its win already and performs steps in order, and where it stands behind
them. It reports its first success of a marked step, and ends with its first failure or when all steps have
succeeded. Until then it is under way with the rest of its step and all steps behind, and it dies only if it is struck down
or the step itself perishes. -/
inductive CaseRun (setup : Setup) (selector : String) (struck : Prop) :
    (hasWon : Bool) → List Action → Json → List Deed → Standing → Prop where
  | within {hasWon : Bool} {action : Action} {steps : List Action} {previous : Json} {trail : List Exchange}
      {rest : Job (Except Failure Json)} {hold : Option Hold} (way : StepRun setup selector action previous trail rest) :
      CaseRun setup selector struck hasWon (action :: steps) previous (trail.map .exchange)
        (.underway (rest.andThen (behindStep setup selector hasWon action steps)) hold)
  | died {hasWon : Bool} {action : Action} {steps : List Action} {previous : Json} {trail : List Exchange}
      {rest : Job (Except Failure Json)} (way : StepRun setup selector action previous trail rest)
      (cause : struck ∨ ∃ next, rest = .request .perish next) :
      CaseRun setup selector struck hasWon (action :: steps) previous (trail.map .exchange ++ [.ending none])
        (.finished none)
  | failed {hasWon : Bool} {action : Action} {steps : List Action} {previous : Json} {trail : List Exchange}
      {failure : Failure} (way : StepRun setup selector action previous trail (.done (.error failure))) :
      CaseRun setup selector struck hasWon (action :: steps) previous
        (trail.map .exchange ++ [.ending (some (.error failure))]) (.finished (some (.error failure)))
  | won {action : Action} {steps : List Action} {previous result : Json} {trail : List Exchange} {deeds : List Deed}
      {standing : Standing} (way : StepRun setup selector action previous trail (.done (.ok result)))
      (marked : action.head.winsRace = true) (later : CaseRun setup selector struck true steps result deeds standing) :
      CaseRun setup selector struck false (action :: steps) previous
        (trail.map .exchange ++ .exchange ⟨.win result, ()⟩ :: deeds) standing
  | passed {hasWon : Bool} {action : Action} {steps : List Action} {previous result : Json} {trail : List Exchange}
      {deeds : List Deed} {standing : Standing}
      (way : StepRun setup selector action previous trail (.done (.ok result)))
      (unmarked : action.head.winsRace = false ∨ hasWon = true)
      (later : CaseRun setup selector struck hasWon steps result deeds standing) :
      CaseRun setup selector struck hasWon (action :: steps) previous (trail.map .exchange ++ deeds) standing
  | ready {hasWon : Bool} {previous : Json} {hold : Option Hold} :
      CaseRun setup selector struck hasWon [] previous [] (.underway (.done (.ok previous)) hold)
  | struckLast {hasWon : Bool} {previous : Json} (cause : struck) :
      CaseRun setup selector struck hasWon [] previous [.ending none] (.finished none)
  | finished {hasWon : Bool} {previous : Json} :
      CaseRun setup selector struck hasWon [] previous [.ending (some (.ok previous))] (.finished (some (.ok previous)))

/-- How the deeds of a task can end and where it stands then, given what remains of its job. -/
inductive EndsWith (struck : Prop) (rest : Job (Except Failure Json)) : List Deed → Standing → Prop where
  | underway (hold : Option Hold) : EndsWith struck rest [] (.underway rest hold)
  | died (cause : struck ∨ ∃ next, rest = .request .perish next) : EndsWith struck rest [.ending none] (.finished none)
  | finished {outcome : Except Failure Json} (done : rest = .done outcome) :
      EndsWith struck rest [.ending (some outcome)] (.finished (some outcome))

/-- The deeds of a task are cut in front of its ending, if the cause of its death is known. -/
theorem Follows.cut {struck : Prop} {origin : Job (Except Failure Json)} {standing : Standing} {deeds : List Deed}
    (follows : Follows origin standing deeds)
    (cause : standing = .finished none → struck ∨ ∃ trail next, Job.Trail origin trail (.request .perish next) ∧
      deeds = trail.map Deed.exchange ++ [.ending none]) :
    ∃ trail rest last, deeds = trail.map Deed.exchange ++ last ∧ Job.Trail origin trail rest ∧
      EndsWith struck rest last standing := by
  cases follows with
  | @underway trail job hold way => exact ⟨trail, job, [], by simp, way, .underway hold⟩
  | @finished trail rest outcome way honest =>
    cases outcome with
    | some outcome => exact ⟨trail, rest, _, rfl, way, .finished (honest outcome rfl)⟩
    | none =>
      rcases cause rfl with isStruck | ⟨other, next, perishing, same⟩
      · exact ⟨trail, rest, _, rfl, way, .died (.inl isStruck)⟩
      · exact ⟨other, _, _, same, perishing, .died (.inr ⟨next, rfl⟩)⟩

theorem performCase_run_eq (setup : Setup) (selector : String) (hasWon : Bool) (action : Action) (steps : List Action)
    (previous : Json) : (Run.performCase setup selector hasWon (action :: steps) previous).run =
      (Run.perform setup action selector previous).run.andThen (behindStep setup selector hasWon action steps) := by
  rw [Run.performCase]
  show Job.andThen _ _ = _
  congr 1
  funext outcome
  cases outcome with
  | error failure => rfl
  | ok result =>
    show (if (action.head.winsRace && !hasWon) = true then _ else _ : Script Json).run = _
    unfold behindStep
    split <;> rfl

/-- What a case does behind the outcome of its first step. -/
theorem caseRun_behindStep {setup : Setup} {selector : String} {struck : Prop} {hasWon : Bool} {action : Action}
    {steps : List Action} {previous : Json} {front back : List Exchange} {outcome : Except Failure Json}
    {rest : Job (Except Failure Json)} {last : List Deed} {standing : Standing}
    (step : StepRun setup selector action previous front (.done outcome))
    (behind : Job.Trail (behindStep setup selector hasWon action steps outcome) back rest)
    (ends : EndsWith struck rest last standing)
    (later : ∀ {hasWon : Bool} {previous : Json} {trail : List Exchange},
      Job.Trail (Run.performCase setup selector hasWon steps previous).run trail rest →
      CaseRun setup selector struck hasWon steps previous (trail.map .exchange ++ last) standing) :
    CaseRun setup selector struck hasWon (action :: steps) previous ((front ++ back).map .exchange ++ last) standing := by
  rw [List.map_append, List.append_assoc]
  cases outcome with
  | error failure =>
    obtain ⟨rfl, rfl⟩ := Job.Trail.eq_of_done behind
    cases ends with
    | underway hold =>
      have stays : CaseRun setup selector struck hasWon (action :: steps) previous (front.map .exchange)
        (.underway (.done (.error failure)) hold) := .within step
      rwa [List.map_nil, List.append_nil, List.append_nil]
    | died cause => exact .died step (.inl (cause.resolve_right fun ⟨_, other⟩ => nomatch other))
    | finished done =>
      cases done
      exact .failed step
  | ok result =>
    by_cases wins : (action.head.winsRace && !hasWon) = true
    · rw [behindStep, if_pos wins] at behind
      have marked := (Bool.and_eq_true_iff.mp wins).1
      have fresh : hasWon = false := by simpa using (Bool.and_eq_true_iff.mp wins).2
      subst fresh
      cases behind with
      | step following => exact .won step marked (later following)
      | stay =>
        cases ends with
        | underway hold =>
          have stays : CaseRun setup selector struck false (action :: steps) previous (front.map .exchange)
            (.underway (behindStep setup selector false action steps (.ok result)) hold) := .within step
          rw [behindStep, if_pos wins] at stays
          rwa [List.map_nil, List.append_nil, List.append_nil]
        | died cause => exact .died step (.inl (cause.resolve_right fun ⟨_, other⟩ => nomatch other))
        | finished done => exact nomatch done
    · rw [behindStep, if_neg wins] at behind
      refine .passed step ?_ (later behind)
      revert wins
      cases action.head.winsRace <;> cases hasWon <;> simp

/-- A case whose steps are silent runs as `CaseRun` says, whatever the others do. -/
theorem caseRun_of_trail {setup : Setup} (custom : setup.CustomSilent) (selector : String) {struck : Prop}
    {hasWon : Bool} {steps : List Action} {previous : Json} {trail : List Exchange} {rest : Job (Except Failure Json)}
    {last : List Deed} {standing : Standing}
    (way : Job.Trail (Run.performCase setup selector hasWon steps previous).run trail rest)
    (ends : EndsWith struck rest last standing) :
    CaseRun setup selector struck hasWon steps previous (trail.map .exchange ++ last) standing := by
  induction steps generalizing hasWon previous trail with
  | nil =>
    obtain ⟨rfl, rfl⟩ := Job.Trail.eq_of_done way
    cases ends with
    | underway hold => exact .ready
    | died cause => exact .struckLast (cause.resolve_right fun ⟨_, other⟩ => nomatch other)
    | finished done =>
      cases done
      exact .finished
  | cons action steps inductionHypothesis =>
    have silent := (silent_conduct custom).perform action selector previous
    rw [performCase_run_eq] at way
    rcases Job.trail_andThen way with ⟨inner, inside, rfl⟩ | ⟨front, back, outcome, rfl, ahead, behind⟩
    · cases inner with
      | done outcome =>
        -- the step is over, and the case has not yet taken notice of it
        have whole := caseRun_behindStep ⟨inside, silent _ _ inside⟩ (.stay _) ends inductionHypothesis
        rwa [List.append_nil] at whole
      | request request next =>
        have step : StepRun setup selector action previous trail (.request request next) := ⟨inside, silent _ _ inside⟩
        cases ends with
        | underway hold =>
          rw [List.append_nil]
          exact .within step
        | died cause =>
          refine .died step (cause.imp_right fun ⟨_, same⟩ => ?_)
          injection same with same
          subst same
          exact ⟨next, rfl⟩
        | finished done => exact nomatch done
    · exact caseRun_behindStep ⟨ahead, silent _ _ ahead⟩ behind ends inductionHypothesis

end Harvest
