import Harvest.Proofs.Run.Composition
import Harvest.Proofs.Run.Crowd

/-!
Contract: what the trace of a crowd says about its tasks.

What a task did is a trail of the job as which it began, up to where the task stands, and an
ending if it is over. `Traced` is that invariant of all tasks; it holds after every schedule.
`Traced.prefixTrail` gives the trail of a task up to any point of the trace.
-/

namespace Harvest

/-- What a task has done fits the job as which it began and where it stands. -/
inductive Follows (origin : Job (Except Failure Json)) : Standing → List Deed → Prop where
  | underway {trail : List Exchange} {job : Job (Except Failure Json)} {hold : Option Hold}
      (so_far : Job.Trail origin trail job) : Follows origin (.underway job hold) (trail.map Deed.exchange)
  | finished {trail : List Exchange} {rest : Job (Except Failure Json)} {outcome : Option (Except Failure Json)}
      (so_far : Job.Trail origin trail rest) (honest : ∀ value, outcome = some value → rest = .done value) :
      Follows origin (.finished outcome) (trail.map Deed.exchange ++ [.ending outcome])

def Deed.exchange? : Deed → Option Exchange
  | .exchange made => some made
  | .ending _ => none

theorem Deed.filterMap_exchange?_map (trail : List Exchange) :
    (trail.map Deed.exchange).filterMap Deed.exchange? = trail := by
  rw [List.filterMap_map]
  show trail.filterMap some = trail
  exact List.filterMap_some

/-- What a task has exchanged is a trail of the job as which it began, to its outcome if it has one. -/
theorem Follows.trail {origin : Job (Except Failure Json)} {standing : Standing} {deeds : List Deed}
    (follows : Follows origin standing deeds) : ∃ rest, Job.Trail origin (deeds.filterMap Deed.exchange?) rest ∧
      ∀ outcome, standing = .finished (some outcome) → rest = .done outcome := by
  cases follows with
  | underway so_far =>
    rw [Deed.filterMap_exchange?_map]
    exact ⟨_, so_far, fun outcome same => by cases same⟩
  | finished so_far honest =>
    rw [List.filterMap_append, Deed.filterMap_exchange?_map]
    show ∃ rest, Job.Trail origin (_ ++ []) rest ∧ _
    rw [List.append_nil]
    exact ⟨_, so_far, fun outcome same => honest outcome (Standing.finished.inj same)⟩

/-- A task that is under way has only exchanged. -/
theorem Follows.exchanged {origin job : Job (Except Failure Json)} {hold : Option Hold} {deeds : List Deed}
    (follows : Follows origin (.underway job hold) deeds) :
    ∃ trail : List Exchange, deeds = trail.map Deed.exchange ∧ Job.Trail origin trail job := by
  cases follows with
  | underway so_far => exact ⟨_, rfl, so_far⟩

/-- A task that has only exchanged is under way, where its trail has led it. -/
theorem Follows.isUnderway {origin rest : Job (Except Failure Json)} {standing : Standing} {trail : List Exchange}
    (follows : Follows origin standing (trail.map Deed.exchange)) (way : Job.Trail origin trail rest) :
    ∃ hold, standing = .underway rest hold := by
  generalize did : trail.map Deed.exchange = deeds at follows
  cases follows with
  | @underway other job hold so_far =>
    have same : trail = other := (List.map_inj_right fun _ _ equal => Deed.exchange.inj equal).mp did
    subst same
    exact ⟨hold, by rw [way.unique so_far]⟩
  | @finished _ _ outcome so_far honest =>
    have ended : Deed.ending outcome ∈ trail.map Deed.exchange := by
      rw [did]
      exact List.mem_append_right _ (List.mem_singleton_self _)
    obtain ⟨_, _, same⟩ := List.mem_map.mp ended
    cases same

/-- A law of all that a setup makes of descriptions holds of all errands. -/
theorem Conduct.errand {law : {α : Type} → Job α → Prop} {setup : Setup} (conduct : Conduct law setup)
    (errand : Errand) : law (errand.script setup).run := by
  cases errand with
  | perform actions parent previous => exact conduct.performAll actions parent previous
  | evaluate rule stack offset => exact conduct.evaluateWithin rule stack offset
  | parse config => exact conduct.parse config
  | nextPage pagination seen => exact conduct.map _ (conduct.nextPage pagination seen)
  | capture label => exact conduct.map _ (conduct.capture label)
  | sleep duration => exact conduct.map _ (conduct.sleep duration)

theorem Follows.begin (origin : Runner) : Follows origin.job (Task.begin origin).standing [] :=
  .underway (.stay origin.job)

theorem Follows.answered {origin : Job (Except Failure Json)} {request : Request}
    {next : request.Answer → Job (Except Failure Json)} {hold : Option Hold} {deeds : List Deed}
    (follows : Follows origin (.underway (.request request next) hold) deeds) (answer : request.Answer) :
    Follows origin (.underway (next answer) none) (deeds ++ [.exchange ⟨request, answer⟩]) := by
  cases follows with
  | underway so_far =>
    have longer : Follows origin (.underway (next answer) none) _ := .underway (so_far.snoc answer)
    rw [List.map_append] at longer
    exact longer

theorem Follows.waited {origin job : Job (Except Failure Json)} {hold : Option Hold} {deeds : List Deed}
    (follows : Follows origin (.underway job hold) deeds) (later : Option Hold) :
    Follows origin (.underway job later) deeds := by
  cases follows with
  | underway so_far => exact .underway so_far

theorem Follows.left {origin job : Job (Except Failure Json)} {hold : Option Hold} {deeds : List Deed}
    {outcome : Option (Except Failure Json)} (follows : Follows origin (.underway job hold) deeds)
    (honest : ∀ value, outcome = some value → job = .done value) :
    Follows origin (.finished outcome) (deeds ++ [.ending outcome]) := by
  cases follows with
  | underway so_far => exact .finished so_far honest

namespace Crowd

variable {σ : Type} {surroundings : Surroundings σ} {crowd : Crowd σ} {world : World σ} {index other : Nat}
  {task found : Task} {standing : Standing} {new : List Deed}

/-! ### Tasks and deeds after a task has acted -/

theorem act_deeds_self : (crowd.act world index task standing new).deeds index = crowd.deeds index ++ new := by
  simp [act, deeds, List.filter_map, Function.comp_def]

theorem act_deeds_other (different : other ≠ index) :
    (crowd.act world index task standing new).deeds other = crowd.deeds other := by
  have distinct : index ≠ other := Ne.symm different
  simp [act, deeds, List.filter_map, Function.comp_def, distinct]

theorem act_tasks_self (begun : crowd.tasks[index]? = some found) :
    (crowd.act world index task standing new).tasks[index]? = some { task with standing := standing } := by
  have below : index < crowd.tasks.length := (List.getElem?_eq_some_iff.mp begun).1
  simp [act, List.getElem?_append, below]

theorem act_tasks_other (different : other ≠ index) (below : other < crowd.tasks.length) :
    (crowd.act world index task standing new).tasks[other]? = crowd.tasks[other]? := by
  have within : other < (crowd.tasks.set index { task with standing := standing }).length := by simpa using below
  rw [act, List.getElem?_append_left within, List.getElem?_set_ne (Ne.symm different)]

/-- A task of the crowd after one has acted is that one, another one as it was, or one that has been started. -/
theorem act_tasks_cases (begun : crowd.tasks[index]? = some task)
    (member : (crowd.act world index task standing new).tasks[other]? = some found) :
    (other = index ∧ found = { task with standing := standing }) ∨
      (other ≠ index ∧ crowd.tasks[other]? = some found) ∨
      (crowd.tasks.length ≤ other ∧ ∃ origin ∈ world.background, found = Task.begin origin) := by
  by_cases below : other < crowd.tasks.length
  · by_cases same : other = index
    · subst same
      rw [act_tasks_self begun] at member
      exact .inl ⟨rfl, (Option.some.inj member).symm⟩
    · rw [act_tasks_other same below] at member
      exact .inr (.inl ⟨same, member⟩)
  · have beyond : crowd.tasks.length ≤ other := by omega
    rw [act, List.getElem?_append_right (by simpa using beyond)] at member
    obtain ⟨origin, started, same⟩ := List.mem_map.mp (List.mem_of_getElem? member)
    exact .inr (.inr ⟨beyond, origin, started, same.symm⟩)

/-- A task of the crowd after one has been accepted is one as it was, or the one accepted. -/
theorem join_tasks_cases {origin : Runner} (member : (crowd.join origin).tasks[other]? = some found) :
    crowd.tasks[other]? = some found ∨ (other = crowd.tasks.length ∧ found = Task.begin origin) := by
  by_cases below : other < crowd.tasks.length
  · rw [join, List.getElem?_append_left below] at member
    exact .inl member
  · rw [join, List.getElem?_append_right (by omega)] at member
    have last : other = crowd.tasks.length := by
      have bound := (List.getElem?_eq_some_iff.mp member).1
      simp only [List.length_singleton] at bound
      omega
    subst last
    simp only [Nat.sub_self, List.getElem?_cons_zero, Option.some.injEq] at member
    exact .inr ⟨rfl, member.symm⟩

theorem join_tasks_other {origin : Runner} (begun : crowd.tasks[other]? = some found) :
    (crowd.join origin).tasks[other]? = some found := by
  have below : other < crowd.tasks.length := (List.getElem?_eq_some_iff.mp begun).1
  rw [join, List.getElem?_append_left below, begun]

@[simp]
theorem worldWithout_background (task : Task) (outcome : Option (Except Failure Json)) :
    (crowd.worldWithout task outcome).background = crowd.world.background := by
  unfold worldWithout
  split
  · exact World.leaveRace_background _ _ _
  · rfl

@[simp]
theorem worldWithout_ledgers (task : Task) (outcome : Option (Except Failure Json)) :
    (crowd.worldWithout task outcome).ledgers = crowd.world.ledgers := by
  unfold worldWithout
  split
  · exact World.leaveRace_ledgers _ _ _
  · rfl

/-! ### The invariant -/

/-- Nothing runs in the background, each task has done what its job allows, and each event is the deed of a task. -/
structure Traced (crowd : Crowd σ) : Prop where
  settled : crowd.world.background = []
  follows : ∀ {index : Nat} {task : Task}, crowd.tasks[index]? = some task →
    Follows task.origin.job task.standing (crowd.deeds index)
  known : ∀ event ∈ crowd.trace, ∃ task, crowd.tasks[event.task]? = some task ∧
    event.ledger = task.origin.records.ledger

namespace Traced

theorem start (world : World σ) : Traced (Crowd.start world) where
  settled := rfl
  follows := fun begun => nomatch begun
  known := fun _ member => nomatch member

/-- What was not begun has done nothing. -/
theorem deeds_beyond (traced : Traced crowd) (beyond : crowd.tasks.length ≤ index) : crowd.deeds index = [] := by
  unfold deeds
  rw [List.map_eq_nil_iff, List.filter_eq_nil_iff]
  intro event member same
  obtain ⟨task, begun, _⟩ := traced.known event member
  have below : event.task < crowd.tasks.length := (List.getElem?_eq_some_iff.mp begun).1
  have equal : event.task = index := by simpa using same
  omega

theorem act (traced : Traced crowd) (begun : crowd.tasks[index]? = some task)
    (follows : Follows task.origin.job standing (crowd.deeds index ++ new)) :
    Traced (crowd.act world index task standing new) where
  settled := rfl
  follows := by
    intro other found member
    rcases act_tasks_cases begun member with ⟨rfl, rfl⟩ | ⟨different, same⟩ | ⟨beyond, origin, _, rfl⟩
    · rw [act_deeds_self]
      exact follows
    · rw [act_deeds_other different]
      exact traced.follows same
    · have below : index < crowd.tasks.length := (List.getElem?_eq_some_iff.mp begun).1
      rw [act_deeds_other (by omega), traced.deeds_beyond beyond]
      exact Follows.begin origin
  known := by
    intro event member
    rcases List.mem_append.mp member with old | recent
    · obtain ⟨found, known, same⟩ := traced.known event old
      by_cases self : event.task = index
      · rw [self] at known ⊢
        refine ⟨_, act_tasks_self begun, ?_⟩
        rw [begun] at known
        rw [same, ← Option.some.inj known]
      · have below : event.task < crowd.tasks.length := (List.getElem?_eq_some_iff.mp known).1
        exact ⟨found, by rw [act_tasks_other self below, known], same⟩
    · obtain ⟨deed, _, rfl⟩ := List.mem_map.mp recent
      exact ⟨_, act_tasks_self begun, rfl⟩

theorem join (traced : Traced crowd) (origin : Runner) : Traced (crowd.join origin) where
  settled := traced.settled
  follows := by
    intro other found member
    rcases join_tasks_cases member with same | ⟨rfl, rfl⟩
    · exact traced.follows same
    · show Follows _ _ (crowd.deeds _)
      rw [traced.deeds_beyond (Nat.le_refl _)]
      exact Follows.begin origin
  known := by
    intro event member
    obtain ⟨found, known, same⟩ := traced.known event member
    exact ⟨found, join_tasks_other known, same⟩

theorem step {later : Crowd σ} (traced : Traced crowd) (taken : crowd.Step surroundings later) : Traced later := by
  cases taken with
  | outside sameRaces sameBackground moreLedgers goesOn =>
    exact ⟨sameBackground.trans traced.settled, traced.follows, traced.known⟩
  | accepted records errand known => exact traced.join _
  | answered found standing attended =>
    have follows := traced.follows found
    rw [standing] at follows
    exact traced.act found (follows.answered _)
  | waited found standing attended =>
    have follows := traced.follows found
    rw [standing] at follows
    exact traced.act found (by simpa using follows.waited _)
  | left found standing honest =>
    have follows := traced.follows found
    rw [standing] at follows
    exact traced.act found (follows.left honest)

theorem play (world : World σ) (schedule : List (Turn σ)) : Traced ((Crowd.start world).play surroundings schedule) :=
  play_preserves schedule (start world) step

end Traced

/-! ### Deeds only ever follow -/

/-- A step leaves the trace as it is, or a task that is under way acts. -/
theorem Step.quiet_or_acts {later : Crowd σ} (taken : crowd.Step surroundings later) :
    later.trace = crowd.trace ∨ ∃ index task job hold world standing new, crowd.tasks[index]? = some task ∧
      task.standing = .underway job hold ∧ later = crowd.act world index task standing new := by
  cases taken with
  | outside _ _ _ _ => exact .inl rfl
  | accepted _ _ _ => exact .inl rfl
  | answered found standing _ => exact .inr ⟨_, _, _, _, _, _, _, found, standing, rfl⟩
  | waited found standing _ => exact .inr ⟨_, _, _, _, _, _, _, found, standing, rfl⟩
  | left found standing _ => exact .inr ⟨_, _, _, _, _, _, _, found, standing, rfl⟩

/-- What a task has done stays done. -/
theorem Step.deeds_append {later : Crowd σ} (taken : crowd.Step surroundings later) (index : Nat) :
    ∃ more, later.deeds index = crowd.deeds index ++ more := by
  rcases taken.quiet_or_acts with same | ⟨actor, task, job, hold, world, standing, new, _, _, rfl⟩
  · refine ⟨[], ?_⟩
    unfold deeds
    rw [same, List.append_nil]
  · by_cases self : index = actor
    · subst self
      exact ⟨new, act_deeds_self⟩
    · exact ⟨[], by rw [act_deeds_other self, List.append_nil]⟩

theorem play_deeds_append (schedule : List (Turn σ)) (index : Nat) :
    ∃ more, (crowd.play surroundings schedule).deeds index = crowd.deeds index ++ more := by
  have initial : ∃ more, crowd.deeds index = crowd.deeds index ++ more := ⟨[], (List.append_nil _).symm⟩
  refine @play_preserves σ surroundings (fun later => ∃ more, later.deeds index = crowd.deeds index ++ more) crowd
    schedule initial fun former taken => ?_
  obtain ⟨early, did⟩ := former
  obtain ⟨late, next⟩ := taken.deeds_append index
  exact ⟨early ++ late, by rw [next, did, List.append_assoc]⟩

/-- A task remains the one as which it began. -/
theorem Step.task_stays {later : Crowd σ} (taken : crowd.Step surroundings later)
    (begun : crowd.tasks[index]? = some task) :
    ∃ found, later.tasks[index]? = some found ∧ found.origin = task.origin := by
  have others : ∀ (actor : Nat) (acting : Task) (world : World σ) (stands : Standing) (new : List Deed),
      crowd.tasks[actor]? = some acting →
      ∃ found, (crowd.act world actor acting stands new).tasks[index]? = some found ∧ found.origin = task.origin := by
    intro actor acting world stands new present
    by_cases same : index = actor
    · subst same
      rw [begun] at present
      cases present
      exact ⟨_, act_tasks_self begun, rfl⟩
    · have below : index < crowd.tasks.length := (List.getElem?_eq_some_iff.mp begun).1
      exact ⟨task, by rw [act_tasks_other same below, begun], rfl⟩
  cases taken with
  | outside _ _ _ _ => exact ⟨task, begun, rfl⟩
  | accepted _ _ _ => exact ⟨task, join_tasks_other begun, rfl⟩
  | answered present _ _ => exact others _ _ _ _ _ present
  | waited present _ _ => exact others _ _ _ _ _ present
  | left present _ _ => exact others _ _ _ _ _ present

theorem play_task_stays (schedule : List (Turn σ)) (begun : crowd.tasks[index]? = some task) :
    ∃ found, (crowd.play surroundings schedule).tasks[index]? = some found ∧ found.origin = task.origin := by
  refine @play_preserves σ surroundings (fun later => ∃ found, later.tasks[index]? = some found ∧
    found.origin = task.origin) crowd schedule ⟨task, begun, rfl⟩ fun former taken => ?_
  obtain ⟨found, present, same⟩ := former
  obtain ⟨next, presentNext, sameNext⟩ := taken.task_stays present
  exact ⟨next, presentNext, sameNext.trans same⟩

/-- A task is over exactly when its ending is among its deeds. -/
theorem Traced.over_iff (traced : Traced crowd) (begun : crowd.tasks[index]? = some task) :
    (∃ outcome, task.standing = .finished outcome) ↔ ∃ outcome, Deed.ending outcome ∈ crowd.deeds index := by
  have follows := traced.follows begun
  generalize task.standing = standing, crowd.deeds index = deeds at *
  cases follows with
  | underway so_far => simp
  | finished so_far honest => simp

/-- What a step is to one of the tasks: it leaves it alone, or it is what that task itself does. -/
theorem Step.leaves_or_acts {later : Crowd σ} (taken : crowd.Step surroundings later)
    (begun : crowd.tasks[index]? = some task) :
    (later.tasks[index]? = some task ∧ later.deeds index = crowd.deeds index) ∨
    (∃ request next hold answer world, task.standing = .underway (.request request next) hold ∧
      crowd.world.attend surroundings task.origin.records task.origin.race hold request = (world, .answer answer) ∧
      later = crowd.act world index task (.underway (next answer) none) [.exchange ⟨request, answer⟩]) ∨
    (∃ request next hold waiting world, task.standing = .underway (.request request next) hold ∧
      crowd.world.attend surroundings task.origin.records task.origin.race hold request = (world, .wait waiting) ∧
      later = crowd.act world index task (.underway (.request request next) waiting) []) ∨
    ∃ job hold outcome, task.standing = .underway job hold ∧ (∀ value, outcome = some value → job = .done value) ∧
      later = crowd.leave index task outcome := by
  have below : index < crowd.tasks.length := (List.getElem?_eq_some_iff.mp begun).1
  have others : ∀ {actor : Nat} {acting : Task} {world : World σ} {stands : Standing} {new : List Deed},
      index ≠ actor → (crowd.act world actor acting stands new).tasks[index]? = some task ∧
        (crowd.act world actor acting stands new).deeds index = crowd.deeds index :=
    fun different => ⟨by rw [act_tasks_other different below, begun], act_deeds_other different⟩
  cases taken with
  | outside _ _ _ _ => exact .inl ⟨begun, rfl⟩
  | accepted _ _ _ => exact .inl ⟨join_tasks_other begun, rfl⟩
  | @answered actor _ _ _ _ _ _ present underway attended =>
    by_cases self : index = actor
    · subst self
      cases begun.symm.trans present
      exact .inr (.inl ⟨_, _, _, _, _, underway, attended, rfl⟩)
    · exact .inl (others self)
  | @waited actor _ _ _ _ _ _ present underway attended =>
    by_cases self : index = actor
    · subst self
      cases begun.symm.trans present
      exact .inr (.inr (.inl ⟨_, _, _, _, _, underway, attended, rfl⟩))
    · exact .inl (others self)
  | @left actor _ _ _ _ present underway honest =>
    by_cases self : index = actor
    · subst self
      cases begun.symm.trans present
      exact .inr (.inr (.inr ⟨_, _, _, underway, honest, rfl⟩))
    · exact .inl (others self)

/-- A task that is over does nothing more. -/
theorem Step.over_stays {later : Crowd σ} (taken : crowd.Step surroundings later)
    {outcome : Option (Except Failure Json)} (begun : crowd.tasks[index]? = some task)
    (finished : task.standing = .finished outcome) :
    later.tasks[index]? = some task ∧ later.deeds index = crowd.deeds index := by
  rcases taken.leaves_or_acts begun with stays | ⟨_, _, _, _, _, underway, _⟩ | ⟨_, _, _, _, _, underway, _⟩ |
    ⟨_, _, _, underway, _⟩
  · exact stays
  · exact nomatch finished.symm.trans underway
  · exact nomatch finished.symm.trans underway
  · exact nomatch finished.symm.trans underway

/-! ### How tasks die -/

/-- A task that has died was struck down by one of these turns, or its job had come to a request to perish. -/
def DiedOf (crowd : Crowd σ) (turns : List (Turn σ)) (index : Nat) (task : Task) : Prop :=
  .strike index ∈ turns ∨ ∃ trail next, Job.Trail task.origin.job trail (.request .perish next) ∧
    crowd.deeds index = trail.map Deed.exchange ++ [.ending none]

def DeathKnown (index : Nat) (turns : List (Turn σ)) (crowd : Crowd σ) : Prop :=
  ∀ task, crowd.tasks[index]? = some task → task.standing = .finished none → crowd.DiedOf turns index task

namespace DeathKnown

variable {turns : List (Turn σ)}

theorem of_unborn (beyond : crowd.tasks.length ≤ index) : DeathKnown index turns crowd :=
  fun _ begun => nomatch begun.symm.trans (List.getElem?_eq_none beyond)

theorem act {actor : Nat} {acting : Task} (known : DeathKnown index turns crowd)
    (present : crowd.tasks[actor]? = some acting)
    (cause : actor = index → standing = .finished none →
      (crowd.act world actor acting standing new).DiedOf turns actor { acting with standing := standing }) :
    DeathKnown index turns (crowd.act world actor acting standing new) := by
  intro task begun dead
  rcases act_tasks_cases present begun with ⟨rfl, rfl⟩ | ⟨different, same⟩ | ⟨_, origin, _, rfl⟩
  · exact cause rfl dead
  · unfold DiedOf
    rw [act_deeds_other different]
    exact known task same dead
  · exact nomatch dead

/-- With each turn the cause of a death is known, as what is done is known. -/
theorem turn (traced : Traced crowd) (known : DeathKnown index turns crowd) (next : Turn σ) :
    DeathKnown index (turns ++ [next]) (crowd.turn surroundings next) := by
  have longer : DeathKnown index (turns ++ [next]) crowd := fun task begun dead =>
    (known task begun dead).imp_left (List.mem_append_left [next])
  cases next with
  | found storage => exact longer
  | pass duration => exact longer
  | undergo incident => exact longer
  | accept records errand =>
    dsimp only [Crowd.turn]
    split
    · intro task begun dead
      rcases join_tasks_cases begun with same | ⟨_, rfl⟩
      · exact longer task same dead
      · exact nomatch dead
    · exact longer
  | strike actor =>
    dsimp only [Crowd.turn]
    split
    · rename_i present
      refine longer.act present fun self _ => .inl ?_
      exact List.mem_append_right _ (List.mem_singleton.mpr rfl)
    · exact longer
  | move actor =>
    dsimp only [Crowd.turn]
    split
    · rename_i origin job hold present
      cases job with
      | done outcome => exact longer.act present fun _ dead => nomatch dead
      | request request next =>
        dsimp only [advance]
        split
        · exact longer.act present fun _ dead => nomatch dead
        · exact longer.act present fun _ dead => nomatch dead
        · rename_i gone
          obtain rfl := World.eq_perish_of_gone gone
          refine longer.act present fun _ _ => .inr ?_
          have follows := traced.follows present
          generalize did : crowd.deeds actor = deeds at follows
          cases follows with
          | underway so_far => exact ⟨_, next, so_far, by rw [act_deeds_self, did]⟩
    · exact longer

theorem play (traced : Traced crowd) (known : DeathKnown index turns crowd) (schedule : List (Turn σ)) :
    DeathKnown index (turns ++ schedule) (crowd.play surroundings schedule) := by
  induction schedule generalizing crowd turns with
  | nil =>
    rw [List.append_nil]
    exact known
  | cons next schedule inductionHypothesis =>
    have later : Traced (crowd.turn surroundings next) := traced.step (turn_step crowd next)
    have further := inductionHypothesis later (known.turn traced next)
    rwa [List.append_assoc] at further

end DeathKnown

/-! ### Trails in the trace -/

/-- A task that was under way and has not ended stands where its further trail has led it. -/
theorem play_stands {world : World σ} {before after : List (Turn σ)} {former later : Crowd σ}
    (reached : (Crowd.start world).play surroundings before = former)
    (played : former.play surroundings after = later) {origin : Runner} {job rest : Job (Except Failure Json)}
    {hold : Option Hold} (begun : former.tasks[index]? = some ⟨origin, .underway job hold⟩) {trail : List Exchange}
    (did : later.deeds index = former.deeds index ++ trail.map Deed.exchange) (way : Job.Trail job trail rest) :
    ∃ hold, later.tasks[index]? = some ⟨origin, .underway rest hold⟩ := by
  have traced : Traced former := reached ▸ .play world before
  have tracedLater : Traced later := by
    rw [← played, ← reached, ← play_append]
    exact .play world (before ++ after)
  obtain ⟨earlier, exchanged, so_far⟩ := (traced.follows begun).exchanged
  obtain ⟨⟨_, standing⟩, present, rfl⟩ := played ▸ play_task_stays after begun
  have follows := tracedLater.follows present
  rw [did, exchanged, ← List.map_append] at follows
  obtain ⟨later, rfl⟩ := follows.isUnderway (so_far.append way)
  exact ⟨later, present⟩

def exchangesOf (index : Nat) (events : List Event) : List Exchange :=
  ((events.filter fun event => event.task == index).map Event.deed).filterMap Deed.exchange?

/-- Where the trace is cut, the trail of a task is cut as well. -/
theorem Traced.cutTrail (traced : Traced crowd) {front back : List Event} (cut : crowd.trace = front ++ back)
    (begun : crowd.tasks[index]? = some task) :
    ∃ middle rest, Job.Trail task.origin.job (exchangesOf index front) middle ∧
      Job.Trail middle (exchangesOf index back) rest := by
  obtain ⟨rest, whole, _⟩ := (traced.follows begun).trail
  rw [deeds, cut, List.filter_append, List.map_append, List.filterMap_append] at whole
  obtain ⟨middle, first, last⟩ := whole.split
  exact ⟨middle, rest, first, last⟩

/-- What a task has exchanged by any point of the trace is a trail of the job as which it began. -/
theorem Traced.prefixTrail (traced : Traced crowd) {front back : List Event} (cut : crowd.trace = front ++ back)
    (begun : crowd.tasks[index]? = some task) :
    ∃ rest, Job.Trail task.origin.job (exchangesOf index front) rest := by
  obtain ⟨middle, _, first, _⟩ := traced.cutTrail cut begun
  exact ⟨middle, first⟩

/-! ### Laws of all tasks -/

/-- The job as which each task began obeys a law. -/
def Obeys (law : {α : Type} → Job α → Prop) (crowd : Crowd σ) : Prop :=
  ∀ task ∈ crowd.tasks, law task.origin.job

namespace Obeys

variable {law : {α : Type} → Job α → Prop}

theorem act (obeys : Obeys law crowd) (begun : crowd.tasks[index]? = some task)
    (started : ∀ runner ∈ world.background, law runner.job) : Obeys law (crowd.act world index task standing new) := by
  intro found member
  obtain ⟨other, found⟩ := List.mem_iff_getElem?.mp member
  rcases act_tasks_cases begun found with ⟨rfl, rfl⟩ | ⟨_, same⟩ | ⟨_, origin, recent, rfl⟩
  · exact obeys task (List.mem_of_getElem? begun)
  · exact obeys _ (List.mem_of_getElem? same)
  · exact started origin recent

/-- A law that holds of all errands and of all cases holds of all tasks. -/
theorem step {later : Crowd σ} (traced : Traced crowd)
    (errands : ∀ errand : Errand, law (errand.script surroundings.setup).run)
    (cases : ∀ selector steps previous, law (Run.performCase surroundings.setup selector false steps previous).run)
    (obeys : Obeys law crowd) (taken : crowd.Step surroundings later) : Obeys law later := by
  have attended : ∀ (records : Records) (race : Option Nat) (hold : Option Hold) (request : Request),
      ∀ runner ∈ (crowd.world.attend surroundings records race hold request).1.background, law runner.job := by
    intro records race hold request runner member
    rcases World.mem_attend_background _ _ _ _ member with old | ⟨chains, selector, previous, _, started⟩
    · rw [traced.settled] at old
      exact nomatch old
    · obtain ⟨steps, _, rfl⟩ := List.mem_map.mp started
      exact cases selector steps previous
  cases taken with
  | outside sameRaces sameBackground moreLedgers goesOn => exact obeys
  | accepted records errand known =>
    intro found member
    rcases List.mem_append.mp member with old | new
    · exact obeys found old
    · rw [List.mem_singleton.mp new]
      exact errands errand
  | answered found standing same =>
    exact obeys.act found fun runner member => attended _ _ _ _ runner (by rw [same]; exact member)
  | waited found standing same =>
    exact obeys.act found fun runner member => attended _ _ _ _ runner (by rw [same]; exact member)
  | @left index task _ _ outcome found standing honest =>
    refine obeys.act found fun runner member => ?_
    rw [worldWithout_background, traced.settled] at member
    exact nomatch member

end Obeys

/-- A law that holds of all that a setup makes of descriptions holds of all tasks after any schedule. -/
theorem play_obeys {law : {α : Type} → Job α → Prop} (conduct : Conduct law surroundings.setup)
    (wins : ∀ value, law (Job.perform (.win value))) (world : World σ) (schedule : List (Turn σ)) :
    Obeys law ((Crowd.start world).play surroundings schedule) := by
  have both := @play_preserves σ surroundings (fun crowd => Traced crowd ∧ Obeys law crowd) _ schedule
    ⟨Traced.start world, fun _ member => nomatch member⟩ fun former taken =>
      ⟨former.1.step taken, former.2.step former.1 (fun errand => conduct.errand errand)
        (fun selector steps previous => conduct.performCase wins selector false steps previous) taken⟩
  exact both.2

end Crowd

end Harvest
