import Harvest.Proofs.Run.Once
import Harvest.Proofs.Run.Upkeep

/-!
Contract: the calls of a parse in any order of the steps of all tasks.

A parse has a ledger of its own, so what is done on its behalf are the events of that ledger: its
own and those of the cases that it races, which may go on when the race is decided. `Opens` is the
invariant that nothing is called before the page is prepared. `parse_upkept` adds what the trails of
the parse and of its cases say about tearing down. An event is there when its call is answered; since
the laws are about every schedule, they are also about those in which whoever waits is answered.
-/

namespace Harvest

def Event.isCall (ledger : Nat) (event : Event) : Bool :=
  event.ledger == ledger && event.deed.exchange?.any fun made => made.request.isCall

def Event.tearsDown (ledger : Nat) (event : Event) : Bool :=
  event.ledger == ledger && event.deed.exchange?.any fun made => made.request.tearsDown

def Event.IsPreparation (index : Nat) (event : Event) : Prop :=
  event.task = index ∧ ∃ answer, event.deed = .exchange ⟨.ask .prepare, answer⟩

namespace Crowd

variable {σ : Type} {surroundings : Surroundings σ} {crowd : Crowd σ} {world : World σ} {index main ledger : Nat}
  {task : Task} {standing : Standing} {new : List Deed}

/-- No errand but one is accepted on a ledger. -/
def Sole (crowd : Crowd σ) (main ledger : Nat) : Prop :=
  ∀ (index : Nat) (task : Task), crowd.tasks[index]? = some task → task.origin.records.ledger = ledger →
    task.origin.race = none → index = main

/-! ### What a task that acts can do -/

/-- What a task starts and does is what the job asks for at which it stands. -/
structure Allowed (setup : Setup) (task : Task) (job : Job (Except Failure Json)) (started : List Runner)
    (new : List Deed) : Prop where
  races : ∀ runner ∈ started, ∃ cases selector previous next steps race,
    job = .request (.race cases selector previous) next ∧ runner =
      { job := (Run.performCase setup selector false steps previous).run, records := task.origin.records,
        race := some race }
  asks : ∀ made, Deed.exchange made ∈ new → ∃ next, job = .request made.request next

theorem allowed_of_attend {request : Request} {next : request.Answer → Job (Except Failure Json)}
    {hold : Option Hold} {later : World σ} {reply : Reply request.Answer} (settled : world.background = [])
    (attended : world.attend surroundings task.origin.records task.origin.race hold request = (later, reply))
    (asks : ∀ made, Deed.exchange made ∈ new → made.request = request) :
    Allowed surroundings.setup task (.request request next) later.background new where
  races := by
    intro runner member
    have same : later = (world.attend surroundings task.origin.records task.origin.race hold request).1 := by
      rw [attended]
    rw [same] at member
    rcases World.mem_attend_background _ _ _ _ member with old | ⟨cases, selector, previous, rfl, started⟩
    · rw [settled] at old
      cases old
    · obtain ⟨steps, _, rfl⟩ := List.mem_map.mp started
      exact ⟨cases, selector, previous, next, steps, _, rfl, rfl⟩
  asks := by
    intro made member
    obtain rfl := asks made member
    exact ⟨next, rfl⟩

/-- A step changes no task and no event, accepts an errand, or is the act of a task under way. -/
theorem Step.stays_or_acts {later : Crowd σ} (traced : Traced crowd) (taken : crowd.Step surroundings later) :
    (later.trace = crowd.trace ∧ later.tasks = crowd.tasks) ∨
      (∃ origin : Runner, origin.race = none ∧ later = crowd.join origin) ∨
      ∃ index task job hold world standing new, crowd.tasks[index]? = some task ∧ task.standing = .underway job hold ∧
        later = crowd.act world index task standing new ∧
        Allowed surroundings.setup task job world.background new := by
  cases taken with
  | outside _ _ _ _ => exact .inl ⟨rfl, rfl⟩
  | accepted records errand _ => exact .inr (.inl ⟨_, rfl, rfl⟩)
  | answered found standing attended =>
    refine .inr (.inr ⟨_, _, _, _, _, _, _, found, standing, rfl, allowed_of_attend traced.settled attended ?_⟩)
    intro made member
    cases List.mem_singleton.mp member
    rfl
  | waited found standing attended =>
    refine .inr (.inr ⟨_, _, _, _, _, _, _, found, standing, rfl, allowed_of_attend traced.settled attended ?_⟩)
    intro made member
    cases member
  | @left index task job hold outcome found standing honest =>
    refine .inr (.inr ⟨_, _, _, _, _, _, _, found, standing, rfl, fun runner member => ?_, fun made member => ?_⟩)
    · rw [worldWithout_background, traced.settled] at member
      cases member
    · cases List.mem_singleton.mp member

/-! ### Cases and their errands -/

/-- An errand was accepted on a ledger. -/
def Rooted (crowd : Crowd σ) (ledger : Nat) : Prop :=
  ∃ (index : Nat) (root : Task), crowd.tasks[index]? = some root ∧ root.origin.race = none ∧
    root.origin.records.ledger = ledger

theorem Step.rooted {later : Crowd σ} (taken : crowd.Step surroundings later) (rooted : Rooted crowd ledger) :
    Rooted later ledger := by
  obtain ⟨index, root, begun, raceless, same⟩ := rooted
  obtain ⟨found, present, origin⟩ := taken.task_stays begun
  exact ⟨index, found, present, by rw [origin]; exact raceless, by rw [origin]; exact same⟩

/-- Every case is confined, and works on the ledger of an errand. -/
structure Kin (crowd : Crowd σ) : Prop where
  confined : ∀ (index : Nat) (task : Task), crowd.tasks[index]? = some task → task.origin.race.isSome →
    task.origin.job.Confined
  rooted : ∀ (index : Nat) (task : Task), crowd.tasks[index]? = some task →
    Rooted crowd task.origin.records.ledger

namespace Kin

theorem start (world : World σ) : Kin (Crowd.start world) where
  confined := fun index task member => by cases member
  rooted := fun index task member => by cases member

theorem step {later : Crowd σ} (custom : surroundings.setup.CustomLeavesUpkeep) (traced : Traced crowd)
    (kin : Kin crowd) (taken : crowd.Step surroundings later) : Kin later := by
  have stays : ∀ (index : Nat) (task : Task), crowd.tasks[index]? = some task →
      Rooted later task.origin.records.ledger :=
    fun index task begun => taken.rooted (kin.rooted index task begun)
  rcases taken.stays_or_acts traced with ⟨_, same⟩ | ⟨origin, raceless, rfl⟩ | ⟨actor, acting, job, hold, world,
    standing, new, found, underway, rfl, allowed⟩
  · exact ⟨by rw [same]; exact kin.confined, by rw [same]; exact stays⟩
  · constructor
    · intro index task begun racing
      rcases join_tasks_cases begun with old | ⟨rfl, rfl⟩
      · exact kin.confined index task old racing
      · rw [show (Task.begin origin).origin.race = none from raceless] at racing
        cases racing
    · intro index task begun
      rcases join_tasks_cases begun with old | ⟨rfl, rfl⟩
      · exact stays index task old
      · exact ⟨_, _, begun, raceless, rfl⟩
  · constructor
    · intro index task begun racing
      rcases act_tasks_cases found begun with ⟨rfl, rfl⟩ | ⟨_, old⟩ | ⟨_, origin, recent, rfl⟩
      · exact kin.confined _ acting found racing
      · exact kin.confined _ task old racing
      · obtain ⟨cases, selector, previous, next, steps, race, _, rfl⟩ := allowed.races origin recent
        exact (confined_practice custom).performCase (fun value => Job.confined_perform rfl) selector false steps
          previous
    · intro index task begun
      rcases act_tasks_cases found begun with ⟨rfl, rfl⟩ | ⟨_, old⟩ | ⟨_, origin, recent, rfl⟩
      · exact stays _ acting found
      · exact stays _ task old
      · obtain ⟨cases, selector, previous, next, steps, race, _, rfl⟩ := allowed.races origin recent
        exact stays _ acting found

end Kin

/-! ### The first call -/

/-- On a ledger either nothing has been called, and only one task works on it, or that task has called first, to
prepare the page. -/
inductive Opens (crowd : Crowd σ) (main ledger : Nat) : Prop where
  | untouched (quiet : crowd.trace.filter (Event.isCall ledger) = [])
      (alone : ∀ (index : Nat) (task : Task), crowd.tasks[index]? = some task → task.origin.records.ledger = ledger →
        index = main)
  | prepared {first : Event} {rest : List Event} (calls : crowd.trace.filter (Event.isCall ledger) = first :: rest)
      (isPreparation : first.IsPreparation main)

theorem act_calls : (crowd.act world index task standing new).trace.filter (Event.isCall ledger) =
    crowd.trace.filter (Event.isCall ledger) ++
      (new.map fun deed => ⟨index, task.origin.records.ledger, deed⟩).filter (Event.isCall ledger) := by
  rw [act, List.filter_append]

/-- A task that has called nothing has exchanged no call. -/
theorem Traced.uncalled (traced : Traced crowd) (begun : crowd.tasks[index]? = some task)
    (quiet : crowd.trace.filter (Event.isCall task.origin.records.ledger) = []) :
    ∀ made, Deed.exchange made ∈ crowd.deeds index → made.request.isCall = false := by
  intro made did
  obtain ⟨event, member, same⟩ := List.mem_map.mp did
  obtain ⟨happened, own⟩ := List.mem_filter.mp member
  obtain ⟨found, present, ledger⟩ := traced.known event happened
  rw [beq_iff_eq.mp own, begun] at present
  cases present
  have uncalled := List.filter_eq_nil_iff.mp quiet event happened
  simpa [Event.isCall, ledger, same, Deed.exchange?] using uncalled

theorem Opens.act {setup : Setup} {job : Job (Except Failure Json)} {hold : Option Hold} (config : ParseConfig)
    (opens : Opens crowd main ledger) (traced : Traced crowd) (found : crowd.tasks[index]? = some task)
    (underway : task.standing = .underway job hold) (allowed : Allowed setup task job world.background new)
    (parses : index = main → task.origin.job = (Run.parse setup config).run) :
    Opens (crowd.act world index task standing new) main ledger := by
  -- Events are only added, so the first call stays the first.
  cases opens with
  | prepared calls isPreparation =>
    have longer := @act_calls σ crowd world index ledger task standing new
    rw [calls, List.cons_append] at longer
    exact .prepared longer isPreparation
  | untouched quiet alone =>
    by_cases own : task.origin.records.ledger = ledger
    · subst own
      obtain rfl := alone index task found rfl
      -- The parse has called nothing, so it still stands where it asks for the preparation.
      have follows := traced.follows found
      rw [underway] at follows
      obtain ⟨trail, did, way⟩ := follows.exchanged
      rw [parses rfl] at way
      obtain ⟨next, rfl⟩ := Run.asks_prepare_of_uncalled way fun exchange member =>
        traced.uncalled found quiet exchange (by rw [did]; exact List.mem_map_of_mem member)
      cases called : (new.map fun deed => (⟨index, task.origin.records.ledger, deed⟩ : Event)).filter
          (Event.isCall task.origin.records.ledger) with
      | nil =>
        refine .untouched (by rw [act_calls, quiet, called, List.append_nil]) fun other late begun same => ?_
        rcases act_tasks_cases found begun with ⟨rfl, _⟩ | ⟨_, old⟩ | ⟨_, origin, recent, rfl⟩
        · rfl
        · exact alone other late old same
        · obtain ⟨cases, selector, previous, following, steps, race, asked, _⟩ := allowed.races origin recent
          cases asked
      | cons first rest =>
        refine .prepared (by rw [act_calls, quiet, called, List.nil_append]) ?_
        have member : first ∈ first :: rest := List.mem_cons_self
        rw [← called] at member
        obtain ⟨happened, isCall⟩ := List.mem_filter.mp member
        obtain ⟨deed, isNew, rfl⟩ := List.mem_map.mp happened
        cases deed with
        | ending outcome => simp [Event.isCall, Deed.exchange?] at isCall
        | exchange made =>
          obtain ⟨following, asked⟩ := allowed.asks made isNew
          obtain ⟨request, answer⟩ := made
          cases asked
          exact ⟨rfl, answer, rfl⟩
    · refine .untouched ?_ fun other late begun same => ?_
      · rw [act_calls, quiet, List.nil_append, List.filter_eq_nil_iff]
        intro event member
        obtain ⟨deed, _, rfl⟩ := List.mem_map.mp member
        simp [Event.isCall, own]
      · rcases act_tasks_cases found begun with ⟨rfl, rfl⟩ | ⟨_, old⟩ | ⟨_, origin, recent, rfl⟩
        · exact absurd same own
        · exact alone other late old same
        · obtain ⟨cases, selector, previous, following, steps, race, _, rfl⟩ := allowed.races origin recent
          exact absurd same own

/-- Every parse with a ledger of its own opens the calls on it. -/
def Opened (setup : Setup) (crowd : Crowd σ) : Prop :=
  ∀ (main : Nat) (task : Task) (config : ParseConfig), crowd.tasks[main]? = some task →
    task.origin.job = (Run.parse setup config).run → task.origin.race = none →
      Sole crowd main task.origin.records.ledger → Opens crowd main task.origin.records.ledger

/-- No errand was accepted on a ledger before the only one that ever is. -/
theorem Sole.not_rooted {origin : Runner} (sole : Sole (crowd.join origin) crowd.tasks.length ledger) :
    ¬ Rooted crowd ledger := by
  rintro ⟨index, root, begun, raceless, same⟩
  have last := sole index root (join_tasks_other begun) same raceless
  have below : index < crowd.tasks.length := (List.getElem?_eq_some_iff.mp begun).1
  omega

theorem Sole.of_step {later : Crowd σ} (sole : Sole later main ledger) (taken : crowd.Step surroundings later) :
    Sole crowd main ledger := by
  intro index task begun same raceless
  obtain ⟨found, present, origin⟩ := taken.task_stays begun
  rw [← origin] at same raceless
  exact sole index found present same raceless

theorem Opened.step {later : Crowd σ} (traced : Traced crowd) (kin : Kin crowd)
    (opened : Opened surroundings.setup crowd) (taken : crowd.Step surroundings later) :
    Opened surroundings.setup later := by
  intro main task config begun parses raceless sole
  have before := sole.of_step taken
  rcases taken.stays_or_acts traced with ⟨sameTrace, sameTasks⟩ | ⟨origin, accepted, rfl⟩ | ⟨index, acting, job, hold,
    world, standing, new, found, underway, rfl, allowed⟩
  · rw [sameTasks] at begun
    cases opened main task config begun parses raceless before with
    | untouched quiet alone => exact .untouched (by rw [sameTrace]; exact quiet) (by rw [sameTasks]; exact alone)
    | prepared calls isPreparation => exact .prepared (by rw [sameTrace]; exact calls) isPreparation
  · rcases join_tasks_cases begun with old | ⟨rfl, rfl⟩
    · cases opened main task config old parses raceless before with
      | prepared calls isPreparation => exact .prepared calls isPreparation
      | untouched quiet alone =>
        refine .untouched quiet fun index found present same => ?_
        rcases join_tasks_cases present with former | ⟨rfl, rfl⟩
        · exact alone index found former same
        · exact sole _ _ present same accepted
    · -- The parse is accepted just now, so nobody has worked on its ledger.
      have fresh := sole.not_rooted
      refine .untouched (List.filter_eq_nil_iff.mpr fun event member isCall => ?_) fun index found present same => ?_
      · obtain ⟨found, present, ledger⟩ := traced.known event member
        have own : event.ledger = origin.records.ledger := by
          simp only [Event.isCall, Bool.and_eq_true, beq_iff_eq] at isCall
          exact isCall.1
        exact fresh (own ▸ ledger ▸ kin.rooted _ found present)
      · rcases join_tasks_cases present with former | ⟨rfl, rfl⟩
        · exact absurd (same ▸ kin.rooted index found former) fresh
        · rfl
  · rcases act_tasks_cases found begun with ⟨rfl, rfl⟩ | ⟨different, old⟩ | ⟨_, origin, recent, rfl⟩
    · have opens := opened main acting config found parses raceless before
      exact opens.act config traced found underway allowed fun _ => parses
    · have opens := opened main task config old parses raceless before
      exact opens.act config traced found underway allowed fun same => absurd same.symm different
    · obtain ⟨cases, selector, previous, following, steps, race, _, rfl⟩ := allowed.races origin recent
      cases raceless

/-! ### Whole schedules -/

/-- What holds of all tasks after any schedule. -/
theorem play_opened (custom : surroundings.setup.CustomLeavesUpkeep) (world : World σ) (schedule : List (Turn σ)) :
    Kin ((Crowd.start world).play surroundings schedule) ∧
      Opened surroundings.setup ((Crowd.start world).play surroundings schedule) := by
  have all := @play_preserves σ surroundings
    (fun crowd => Traced crowd ∧ Kin crowd ∧ Opened surroundings.setup crowd) _ schedule
    ⟨Traced.start world, Kin.start world, fun main task config begun => by cases begun⟩ fun former taken =>
      ⟨former.1.step taken, former.2.1.step custom former.1 taken, former.2.2.step former.1 former.2.1 taken⟩
  exact all.2

theorem mem_exchangesOf {event : Event} {events : List Event} {made : Exchange} (member : event ∈ events)
    (own : event.task = index) (did : event.deed.exchange? = some made) : made ∈ exchangesOf index events := by
  refine List.mem_filterMap.mpr ⟨event.deed, List.mem_map_of_mem ?_, did⟩
  exact List.mem_filter.mpr ⟨member, beq_iff_eq.mpr own⟩

/-- Only the parse tears the page down for its ledger. -/
theorem Kin.task_eq_of_tearsDown (kin : Kin crowd) (traced : Traced crowd) (sole : Sole crowd main ledger)
    {event : Event} (member : event ∈ crowd.trace) (tearsDown : event.tearsDown ledger) : event.task = main := by
  obtain ⟨task, begun, same⟩ := traced.known event member
  simp only [Event.tearsDown, Bool.and_eq_true, beq_iff_eq, Option.any_eq_true] at tearsDown
  obtain ⟨own, made, did, tears⟩ := tearsDown
  cases racing : task.origin.race with
  | none => exact sole event.task task begun (same.symm.trans own) racing
  | some race =>
    obtain ⟨rest, way, _⟩ := (traced.follows begun).trail
    have exchanged := mem_exchangesOf member rfl did
    have confined := kin.confined event.task task begun (by rw [racing]; rfl) _ _ way made exchanged
    simp [Request.isUpkeep, tears] at confined

/-- The tear-downs for a ledger are those that its parse has exchanged. -/
theorem Kin.countP_tearsDown (kin : Kin crowd) (traced : Traced crowd) (begun : crowd.tasks[main]? = some task)
    (sole : Sole crowd main task.origin.records.ledger) :
    crowd.trace.countP (Event.tearsDown task.origin.records.ledger) =
      (exchangesOf main crowd.trace).countP fun made => made.request.tearsDown := by
  have own : ∀ event ∈ crowd.trace, event.task = main → event.ledger = task.origin.records.ledger := by
    intro event member same
    obtain ⟨found, present, ledger⟩ := traced.known event member
    rw [same, begun] at present
    rw [ledger, Option.some.inj present]
  rw [← countOf_eq_countP_exchanges _ own]
  refine List.countP_congr fun event member => ?_
  rw [Bool.and_eq_true, beq_iff_eq]
  exact ⟨fun tears => ⟨kin.task_eq_of_tearsDown traced sole member tears, tears⟩, And.right⟩

section Parse

variable {config : ParseConfig}

/-- The page is torn down at most once on behalf of a parse, and exactly once when that has come to an outcome. -/
theorem Kin.tearsDown_once (custom : surroundings.setup.CustomLeavesUpkeep) (kin : Kin crowd) (traced : Traced crowd)
    (begun : crowd.tasks[main]? = some task) (parses : task.origin.job = (Run.parse surroundings.setup config).run)
    (sole : Sole crowd main task.origin.records.ledger) :
    crowd.trace.countP (Event.tearsDown task.origin.records.ledger) ≤ 1 ∧
      ∀ outcome, task.standing = .finished (some outcome) →
        crowd.trace.countP (Event.tearsDown task.origin.records.ledger) = 1 := by
  obtain ⟨rest, way, ended⟩ := (traced.follows begun).trail
  rw [parses] at way
  rw [kin.countP_tearsDown traced begun sole]
  have counted := (Run.upkeep_of_trail custom way).countP_tearsDown
  change (exchangesOf main crowd.trace).countP _ = 0 ∧ _ ∨ (exchangesOf main crowd.trace).countP _ = 1 ∧ _ at counted
  refine ⟨by omega, fun outcome finished => ?_⟩
  rcases counted with ⟨_, goesOn⟩ | ⟨once, _⟩
  · exact absurd (ended outcome finished) (goesOn outcome)
  · exact once

/-- Behind the tear-down nothing is called on behalf of a parse, unless by a case. -/
theorem Kin.calls_behind (custom : surroundings.setup.CustomLeavesUpkeep) (kin : Kin crowd) (traced : Traced crowd)
    (begun : crowd.tasks[main]? = some task) (parses : task.origin.job = (Run.parse surroundings.setup config).run)
    (sole : Sole crowd main task.origin.records.ledger) :
    crowd.trace.Pairwise fun first later => first.tearsDown task.origin.records.ledger →
      later.isCall task.origin.records.ledger →
        later.task ≠ main ∧ ∃ found, crowd.tasks[later.task]? = some found ∧ found.origin.race.isSome := by
  rw [List.pairwise_iff_forall_sublist]
  intro first later within tearsDown isCall
  obtain ⟨front, back, cut, early, rest⟩ := List.cons_sublist_iff.mp within
  have late : later ∈ back := List.singleton_sublist.mp rest
  have happened : first ∈ crowd.trace := by
    rw [cut]
    exact List.mem_append_left _ early
  obtain ⟨found, present, ledger⟩ := traced.known later (by rw [cut]; exact List.mem_append_right _ late)
  simp only [Event.isCall, Bool.and_eq_true, beq_iff_eq, Option.any_eq_true] at isCall
  obtain ⟨own, made, did, _⟩ := isCall
  have behind : later.task ≠ main := by
    intro same
    -- The trail of the parse up to the tear-down leaves nothing that could exchange what comes later.
    obtain ⟨middle, rest, ahead, after⟩ := traced.cutTrail cut begun
    have torn : 0 < (exchangesOf main front).countP fun made => made.request.tearsDown := by
      have only := kin.task_eq_of_tearsDown traced sole happened tearsDown
      simp only [Event.tearsDown, Bool.and_eq_true, beq_iff_eq, Option.any_eq_true] at tearsDown
      obtain ⟨_, tearing, deed, tears⟩ := tearsDown
      exact List.countP_pos_iff.mpr ⟨tearing, mem_exchangesOf early only deed, tears⟩
    rw [parses] at ahead
    rcases (Run.upkeep_of_trail custom ahead).countP_tearsDown with ⟨none, _⟩ | ⟨_, result, rfl⟩
    · omega
    · have exchanged := mem_exchangesOf late same did
      rw [after.eq_of_done.1] at exchanged
      cases exchanged
  refine ⟨behind, found, present, ?_⟩
  cases racing : found.origin.race with
  | none => exact absurd (sole later.task found present (ledger.symm.trans own) racing) behind
  | some race => rfl

end Parse

/-- What is done on behalf of a parse that works on a ledger of its own. -/
structure Upkept (crowd : Crowd σ) (main ledger : Nat) : Prop where
  /-- The first call has the page prepared. -/
  opens : ∀ first ∈ (crowd.trace.filter (Event.isCall ledger)).head?, first.IsPreparation main
  atMostOnce : crowd.trace.countP (Event.tearsDown ledger) ≤ 1
  once : ∀ task outcome, crowd.tasks[main]? = some task → task.standing = .finished (some outcome) →
    crowd.trace.countP (Event.tearsDown ledger) = 1
  /-- What is called behind the tear-down is called by cases. -/
  behind : crowd.trace.Pairwise fun first later => first.tearsDown ledger → later.isCall ledger →
    later.task ≠ main ∧ ∃ task, crowd.tasks[later.task]? = some task ∧ task.origin.race.isSome
  /-- A task would have come to its outcome whatever captures and tear-downs had been answered. -/
  heedless : ∀ index task outcome other, crowd.tasks[index]? = some task →
    task.standing = .finished (some outcome) → List.Forall₂ Exchange.Alike other (exchangesOf index crowd.trace) →
      Job.Trail task.origin.job other (.done outcome)

/-- Whatever is done by whom in which order, a parse on a ledger of its own prepares its page first and tears it down
once and last, but for cases that it has left behind. -/
theorem parse_upkept (custom : surroundings.setup.CustomLeavesUpkeep) (world : World σ) (schedule : List (Turn σ))
    {records : Records} {config : ParseConfig} {main : Nat} {task : Task}
    (begun : ((Crowd.start world).play surroundings schedule).tasks[main]? = some task)
    (accepted : task.origin = { job := ((Errand.parse config).script surroundings.setup).run, records := records })
    (sole : ((Crowd.start world).play surroundings schedule).Sole main records.ledger) :
    ((Crowd.start world).play surroundings schedule).Upkept main records.ledger := by
  have traced : Traced ((Crowd.start world).play surroundings schedule) := .play world schedule
  obtain ⟨kin, opened⟩ := play_opened custom world schedule
  have heedless := play_obeys (heedless_conduct custom) (fun value => Job.heedless_perform rfl) world schedule
  generalize (Crowd.start world).play surroundings schedule = crowd at *
  obtain ⟨origin, standing⟩ := task
  cases accepted
  obtain ⟨atMostOnce, once⟩ := kin.tearsDown_once custom traced begun rfl sole
  constructor
  case opens =>
    intro first isFirst
    cases opened main _ config begun rfl rfl sole with
    | untouched quiet alone =>
      rw [quiet] at isFirst
      cases isFirst
    | prepared calls isPreparation =>
      rw [calls] at isFirst
      cases isFirst
      exact isPreparation
  case atMostOnce => exact atMostOnce
  case once =>
    intro task outcome present finished
    rw [begun] at present
    cases present
    exact once outcome finished
  case behind => exact kin.calls_behind custom traced begun rfl sole
  case heedless =>
    intro index task outcome other present finished alike
    obtain ⟨rest, way, ended⟩ := (traced.follows present).trail
    rw [ended outcome finished] at way
    exact heedless task (List.mem_of_getElem? present) _ _ _ way alike

/-- A parse that races two cases, each of which asks for the address of the page. -/
def racingParse : ParseConfig where
  rules := .mk {} none []
  actions := [.mk { kind := "cases" } [] [] none [[.mk { kind := "url" } [] [] none [] none],
    [.mk { kind := "url" } [] [] none [] none]] none]

/-- The first case wins, the parse goes on to its end, and only then does the second case begin. -/
def lateCase : List (Turn Unit) :=
  [.accept ⟨0, 0⟩ (.parse racingParse), .move 0, .move 0, .move 1, .move 1, .move 0, .move 0, .move 0, .move 0,
    .move 0, .move 2]

/-- A case that has lost calls the page behind the tear-down. -/
theorem lateCase_calls_behind :
    ¬ ((Crowd.start World.blank).play .echo lateCase).trace.Pairwise fun first later =>
      first.tearsDown 0 → later.isCall 0 = false := by
  decide

theorem echo_leavesUpkeep : Surroundings.echo.setup.CustomLeavesUpkeep := fun kind name run registered =>
  absurd registered (Performer.find?_standard_ne_custom kind name run)

theorem sole_lateCase : ((Crowd.start World.blank).play .echo lateCase).Sole 0 0 := by
  intro index task begun _ raceless
  have races : ((Crowd.start World.blank).play .echo lateCase).tasks.map (fun task => task.origin.race) =
      [none, some 0, some 0] := by
    decide
  have own : [none, some 0, some 0][index]? = some (none : Option Nat) := by
    rw [← races, List.getElem?_map, begun, ← raceless]
    rfl
  match index, own with
  | 0, _ => rfl
  | _ + 3, beyond => simp at beyond

/-- Nonetheless the parse has kept up its page: only the case that it has left behind calls then. -/
theorem upkept_lateCase : ((Crowd.start World.blank).play .echo lateCase).trace.countP (Event.tearsDown 0) = 1 ∧
    ((Crowd.start World.blank).play .echo lateCase).Upkept 0 0 := by
  have first : ((Crowd.start World.blank).play .echo (lateCase.take 1)).tasks[0]? = some (Task.begin
      { job := ((Errand.parse racingParse).script Surroundings.echo.setup).run, records := ⟨0, 0⟩ }) := rfl
  obtain ⟨task, begun, accepted⟩ := @play_task_stays Unit .echo _ _ _ (lateCase.drop 1) first
  rw [← play_append, List.take_append_drop] at begun
  exact ⟨by decide, parse_upkept echo_leavesUpkeep World.blank lateCase begun accepted sole_lateCase⟩

end Crowd

end Harvest
