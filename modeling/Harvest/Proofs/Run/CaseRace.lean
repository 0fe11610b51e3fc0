import Harvest.Proofs.Run.CaseRun

/-!
Contract: races between cases in any order of their steps.

`Racing` is the invariant of one race: its cases are tasks one behind the other, what has been
reported to it is what they have reported, and as many run as are not over. Who asked for the
race gets the verdict of what was reported by then, and what comes later does not change it:
`race_law` states that of every schedule.
-/

namespace Harvest

namespace World

variable {σ : Type} {surroundings : Surroundings σ} {world : World σ}

/-- A request adds at most its report to a race that is there. -/
theorem races_of_attend (records : Records) (race : Option Nat) (hold : Option Hold) (request : Request) {known : Nat}
    (below : known < world.races.size) :
    (world.attend surroundings records race hold request).1.races[known]? =
      world.races[known]?.map fun state =>
        { state with reports := state.reports ++ if race = some known then request.report?.toList else [] } := by
  by_cases isLocal : request.IsLocal
  · have quiet : request.report? = none := by
      cases request with
      | win value => exact isLocal.elim
      | _ => rfl
    rw [(attend_local world records race hold isLocal).2.1, quiet]
    simp
  cases request with
  | race cases selector previous =>
    cases racing : Hold.race? hold with
    | none =>
      rw [attend_race_new world records race hold cases selector previous racing]
      simp [startRace, Request.report?, Array.getElem?_push_lt, below]
    | some held =>
      rw [attend_race_held world records race hold cases selector previous racing]
      simp [Request.report?]
  | record identity => simp [attend, record, Request.report?]
  | win value =>
    cases race with
    | none => simp [attend]
    | some race =>
      by_cases same : race = known
      · simp [attend, withRace, Array.getElem?_modify, same, Race.report, Request.report?]
      · simp [attend, withRace, Array.getElem?_modify, same]
  | _ => exact absurd trivial isLocal

/-- A case that ends leaves its own race, with its outcome as its report. -/
theorem leaveRace_races (race : Nat) (outcome : Option (Except Failure Json)) (known : Nat) :
    (world.leaveRace race outcome).races[known]? =
      world.races[known]?.map fun state =>
        if race = known then { state with reports := state.reports ++ outcome.toList, running := state.running - 1 }
        else state := by
  by_cases same : race = known
  · cases outcome <;> simp [leaveRace, withRace, Array.getElem?_modify, same, Race.report, Function.comp_def] <;> rfl
  · cases outcome <;> simp [leaveRace, withRace, Array.getElem?_modify, same]

theorem leaveRace_races_size (race : Nat) (outcome : Option (Except Failure Json)) :
    (world.leaveRace race outcome).races.size = world.races.size := by
  cases outcome <;> simp [leaveRace, withRace]

/-- No race is forgotten, and what a request starts belongs to a race that it adds. -/
theorem races_size_of_attend (records : Records) (race : Option Nat) (hold : Option Hold) (request : Request)
    (settled : world.background = []) :
    world.races.size ≤ (world.attend surroundings records race hold request).1.races.size ∧
      ∀ runner ∈ (world.attend surroundings records race hold request).1.background,
        runner.race = some world.races.size ∧
          world.races.size < (world.attend surroundings records race hold request).1.races.size := by
  by_cases isLocal : request.IsLocal
  · obtain ⟨_, sameRaces, sameBackground⟩ := @attend_local σ surroundings world records race hold _ isLocal
    rw [sameRaces, sameBackground, settled]
    exact ⟨Nat.le_refl _, fun _ member => nomatch member⟩
  have nothing : ∀ {property : Runner → Prop}, ∀ runner ∈ world.background, property runner := by
    intro property runner member
    rw [settled] at member
    exact nomatch member
  cases request with
  | race cases selector previous =>
    cases racing : Hold.race? hold with
    | none =>
      rw [attend_race_new world records race hold cases selector previous racing]
      have larger : (world.startRace surroundings records cases selector previous).races.size = world.races.size + 1 := by
        simp [startRace]
      refine ⟨by simp only [larger]; omega, fun runner member => ?_⟩
      rw [startRace_background, settled, List.nil_append] at member
      obtain ⟨steps, _, rfl⟩ := List.mem_map.mp member
      exact ⟨rfl, by simp only [larger]; omega⟩
    | some held =>
      rw [attend_race_held world records race hold cases selector previous racing]
      exact ⟨Nat.le_refl _, nothing⟩
  | record identity => exact ⟨Nat.le_refl _, nothing⟩
  | win value =>
    cases race with
    | none => exact ⟨Nat.le_refl _, nothing⟩
    | some race => exact ⟨by simp [attend, withRace], nothing⟩
  | _ => exact absurd trivial isLocal

/-- The runner at a position performs the case at it. -/
theorem getElem?_runners {setup : Setup} {records : Records} {race position : Nat} {cases : List (List Action)}
    {selector : String} {previous : Json} {steps : List Action} (place : cases[position]? = some steps) :
    (runners setup records race cases selector previous)[position]? = some
      { job := (Run.performCase setup selector false steps previous).run, records := records, race := some race } := by
  rw [runners, List.getElem?_map, place, Option.map_some]

section Attended

variable {records : Records} {race : Option Nat} {hold : Option Hold} {request : Request} {later : World σ}
  {reply : Reply request.Answer}

theorem attended_races (attended : world.attend surroundings records race hold request = (later, reply)) {known : Nat}
    (below : known < world.races.size) :
    later.races[known]? = world.races[known]?.map fun state =>
      { state with reports := state.reports ++ if race = some known then request.report?.toList else [] } := by
  have changed := @races_of_attend σ surroundings world records race hold request known below
  rwa [attended] at changed

theorem attended_sizes (attended : world.attend surroundings records race hold request = (later, reply))
    (settled : world.background = []) :
    world.races.size ≤ later.races.size ∧
      ∀ runner ∈ later.background, runner.race = some world.races.size ∧ world.races.size < later.races.size := by
  have sizes := @races_size_of_attend σ surroundings world records race hold request settled
  rwa [attended] at sizes

/-- A request that must wait reports nothing. -/
theorem report?_of_waiting {waiting : Option Hold} (attended : world.attend surroundings records race hold request = (later, .wait waiting)) :
    request.report? = none := by
  cases request with
  | win value => cases race <;> exact nomatch (Prod.mk.inj attended).2
  | _ => rfl

end Attended

end World

def Task.runs (race : Nat) (task : Task) : Bool :=
  task.origin.race == some race && match task.standing with
    | .underway _ _ => true
    | .finished _ => false

namespace Crowd

variable {σ : Type} {surroundings : Surroundings σ} {crowd : Crowd σ} {world : World σ} {index : Nat}
  {task : Task} {standing : Standing} {new : List Deed} {race first : Nat} {origins : List Runner}

theorem worldWithout_races_size (task : Task) (outcome : Option (Except Failure Json)) :
    (crowd.worldWithout task outcome).races.size = crowd.world.races.size := by
  unfold worldWithout
  split
  · exact World.leaveRace_races_size _ _
  · rfl

/-- Everything that some tasks, one behind the other, have reported, the earliest first. -/
def reports (crowd : Crowd σ) (first size : Nat) : List (Except Failure Json) :=
  (crowd.trace.filter fun event => decide (first ≤ event.task ∧ event.task < first + size)).filterMap
    fun event => event.deed.report?

/-- Some tasks, one behind the other, have all ended. -/
def AllOver (crowd : Crowd σ) (first size : Nat) : Prop :=
  ∀ index, first ≤ index → index < first + size → ∃ outcome, Deed.ending outcome ∈ crowd.deeds index

def RacesKnown (crowd : Crowd σ) : Prop :=
  ∀ task ∈ crowd.tasks, ∀ race, task.origin.race = some race → race < crowd.world.races.size

namespace RacesKnown

theorem act (known : RacesKnown crowd) (found : crowd.tasks[index]? = some task)
    (grows : crowd.world.races.size ≤ world.races.size)
    (started : ∀ runner ∈ world.background,
      runner.race = some crowd.world.races.size ∧ crowd.world.races.size < world.races.size) :
    RacesKnown (crowd.act world index task standing new) := by
  intro former member other same
  show other < world.races.size
  obtain ⟨place, member⟩ := List.mem_iff_getElem?.mp member
  rcases act_tasks_cases found member with ⟨rfl, rfl⟩ | ⟨_, old⟩ | ⟨_, origin, recent, rfl⟩
  · exact Nat.lt_of_lt_of_le (known task (List.mem_of_getElem? found) other same) grows
  · exact Nat.lt_of_lt_of_le (known former (List.mem_of_getElem? old) other same) grows
  · obtain ⟨fresh, larger⟩ := started origin recent
    have equal : other = crowd.world.races.size := Option.some.inj (same.symm.trans fresh)
    omega

theorem step {later : Crowd σ} (traced : Traced crowd) (known : RacesKnown crowd)
    (taken : crowd.Step surroundings later) : RacesKnown later := by
  cases taken with
  | outside sameRaces sameBackground moreLedgers goesOn =>
    intro task member race same
    rw [sameRaces]
    exact known task member race same
  | accepted records errand _ =>
    intro task member race same
    rcases List.mem_append.mp member with old | new
    · exact known task old race same
    · rw [List.mem_singleton.mp new] at same
      exact nomatch same
  | answered found standing attended =>
    obtain ⟨grows, started⟩ := World.attended_sizes attended traced.settled
    exact known.act found grows started
  | waited found standing attended =>
    obtain ⟨grows, started⟩ := World.attended_sizes attended traced.settled
    exact known.act found grows started
  | @left index task _ _ outcome found standing honest =>
    refine known.act found (Nat.le_of_eq (worldWithout_races_size _ _).symm) ?_
    rw [worldWithout_background, traced.settled]
    exact fun _ member => nomatch member

theorem play (world : World σ) (schedule : List (Turn σ)) :
    RacesKnown ((Crowd.start world).play surroundings schedule) := by
  have both := @play_preserves σ surroundings (fun crowd => Traced crowd ∧ RacesKnown crowd) _ schedule
    ⟨Traced.start world, fun _ member => nomatch member⟩
    fun former taken => ⟨former.1.step taken, step former.1 former.2 taken⟩
  exact both.2

end RacesKnown

/-- A race under way or decided: its cases are the tasks from an index on, and its state is what they make it. -/
structure Racing (race first : Nat) (origins : List Runner) (crowd : Crowd σ) : Prop where
  begun : ∀ {position : Nat} {origin : Runner}, origins[position]? = some origin →
    ∃ task, crowd.tasks[first + position]? = some task ∧ task.origin = origin
  own : ∀ {index : Nat} {task : Task}, crowd.tasks[index]? = some task →
    (task.origin.race = some race ↔ first ≤ index ∧ index < first + origins.length)
  state : crowd.world.races[race]? = some
    { size := origins.length
      running := crowd.tasks.countP (Task.runs race)
      reports := crowd.reports first origins.length }

namespace Racing

theorem reports_act (first size : Nat) :
    (crowd.act world index task standing new).reports first size = crowd.reports first size ++
      if first ≤ index ∧ index < first + size then new.filterMap Deed.report? else [] := by
  unfold reports act
  rw [List.filter_append, List.filterMap_append]
  congr 1
  by_cases inside : first ≤ index ∧ index < first + size
  · have all : new.filter (fun _ => true) = new := List.filter_eq_self.mpr fun _ _ => rfl
    simp [inside, List.filter_map, Function.comp_def, List.filterMap_map, all]
  · simp [inside, List.filter_map, Function.comp_def]

/-- The number of cases that run changes only with the one that acts. -/
theorem countP_runs_act (found : crowd.tasks[index]? = some task)
    (strange : ∀ runner ∈ world.background, runner.race ≠ some race) :
    (crowd.act world index task standing new).tasks.countP (Task.runs race) =
      crowd.tasks.countP (Task.runs race) - (if task.runs race then 1 else 0)
        + if ({ task with standing := standing } : Task).runs race then 1 else 0 := by
  obtain ⟨within, same⟩ := List.getElem?_eq_some_iff.mp found
  have none_started : (world.background.map Task.begin).countP (Task.runs race) = 0 := by
    refine List.countP_eq_zero.mpr fun started member => ?_
    obtain ⟨runner, recent, rfl⟩ := List.mem_map.mp member
    have distinct := strange runner recent
    simp [Task.runs, Task.begin, distinct]
  unfold Crowd.act
  rw [List.countP_append, none_started, List.countP_set within, same, Nat.add_zero]

theorem lt_length (racing : Racing race first origins crowd) (above : first ≤ index)
    (below : index < first + origins.length) : index < crowd.tasks.length := by
  have place : origins[index - first]? = some origins[index - first] := List.getElem?_eq_getElem (by omega)
  obtain ⟨task, member, _⟩ := racing.begun place
  have old := (List.getElem?_eq_some_iff.mp member).1
  omega

/-- The invariant holds after a task has acted, if the race has got what the task has reported, and has lost the
task if that is over. -/
theorem act (racing : Racing race first origins crowd) (found : crowd.tasks[index]? = some task)
    (ran : ∃ job hold, task.standing = .underway job hold)
    (started : ∀ runner ∈ world.background,
      runner.race = some crowd.world.races.size ∧ crowd.world.races.size < world.races.size)
    (changed : world.races[race]? = crowd.world.races[race]?.map fun state =>
      { state with
        reports := state.reports ++ if task.origin.race = some race then new.filterMap Deed.report? else []
        running := state.running - if task.origin.race = some race then (match standing with
          | .underway _ _ => 0
          | .finished _ => 1) else 0 }) :
    Racing race first origins (crowd.act world index task standing new) := by
  have within : index < crowd.tasks.length := (List.getElem?_eq_some_iff.mp found).1
  have below : race < crowd.world.races.size := (Array.getElem?_eq_some_iff.mp racing.state).1
  have inside := racing.own found
  refine ⟨?_, ?_, ?_⟩
  · intro position origin place
    obtain ⟨former, member, same⟩ := racing.begun place
    by_cases self : first + position = index
    · rw [self] at member ⊢
      rw [found] at member
      refine ⟨_, act_tasks_self found, ?_⟩
      rw [← same, ← Option.some.inj member]
    · have old : first + position < crowd.tasks.length := (List.getElem?_eq_some_iff.mp member).1
      exact ⟨former, by rw [act_tasks_other self old, member], same⟩
  · intro other former member
    rcases act_tasks_cases found member with ⟨rfl, rfl⟩ | ⟨_, same⟩ | ⟨beyond, origin, recent, rfl⟩
    · exact inside
    · exact racing.own same
    · have distinct : origin.race ≠ some race := by
        rw [(started origin recent).1]
        intro same
        have equal := Option.some.inj same
        omega
      exact ⟨fun same => absurd same distinct, fun range => absurd (racing.lt_length range.1 range.2) (by omega)⟩
  · show world.races[race]? = _
    have strange : ∀ runner ∈ world.background, runner.race ≠ some race := by
      intro runner recent same
      have equal := Option.some.inj ((started runner recent).1.symm.trans same)
      omega
    obtain ⟨job, hold, underway⟩ := ran
    rw [changed, racing.state, countP_runs_act found strange, reports_act, Option.map_some, Option.some.injEq,
      Race.mk.injEq]
    by_cases mine : task.origin.race = some race
    · have runs : task.runs race = true := by simp [Task.runs, mine, underway]
      have positive : 0 < crowd.tasks.countP (Task.runs race) :=
        List.countP_pos_iff.mpr ⟨task, List.mem_of_getElem? found, runs⟩
      refine ⟨rfl, ?_, by rw [if_pos mine, if_pos (inside.mp mine)]⟩
      cases standing with
      | underway job hold =>
        have still : ({ task with standing := .underway job hold } : Task).runs race = true := by simp [Task.runs, mine]
        rw [if_pos mine, if_pos runs, if_pos still]
        show crowd.tasks.countP (Task.runs race) - 0 = crowd.tasks.countP (Task.runs race) - 1 + 1
        omega
      | finished outcome =>
        have ended : ({ task with standing := .finished outcome } : Task).runs race = false := by simp [Task.runs]
        rw [if_pos mine, if_pos runs, ended]
        rfl
    · have idle : ∀ other, ({ task with standing := other } : Task).runs race = false := by simp [Task.runs, mine]
      refine ⟨rfl, ?_, by rw [if_neg mine, if_neg fun range => mine (inside.mpr range)]⟩
      rw [if_neg mine, idle standing, show task.runs race = false from idle task.standing]
      rfl

/-- The invariant holds after a task has come that is no case of a race. -/
theorem join (racing : Racing race first origins crowd) {origin : Runner} (apart : origin.race = none) :
    Racing race first origins (crowd.join origin) where
  begun := by
    intro position former place
    obtain ⟨task, member, same⟩ := racing.begun place
    exact ⟨task, join_tasks_other member, same⟩
  own := by
    intro other former member
    rcases join_tasks_cases member with old | ⟨rfl, rfl⟩
    · exact racing.own old
    · refine ⟨fun same => ?_, fun range => absurd (racing.lt_length range.1 range.2) (Nat.lt_irrefl _)⟩
      rw [show (Task.begin origin).origin.race = none from apart] at same
      exact nomatch same
  state := by
    have idle : (Task.begin origin).runs race = false := by simp [Task.runs, Task.begin, apart]
    show crowd.world.races[race]? = some ⟨_, (crowd.tasks ++ [Task.begin origin]).countP _, crowd.reports _ _⟩
    rw [racing.state, List.countP_append, List.countP_cons_of_neg (by simp [idle]), List.countP_nil, Nat.add_zero]

theorem step {later : Crowd σ} (traced : Traced crowd) (racing : Racing race first origins crowd)
    (taken : crowd.Step surroundings later) : Racing race first origins later := by
  have below : race < crowd.world.races.size := (Array.getElem?_eq_some_iff.mp racing.state).1
  cases taken with
  | outside sameRaces sameBackground moreLedgers goesOn =>
    refine ⟨racing.begun, racing.own, ?_⟩
    rw [sameRaces]
    exact racing.state
  | accepted records errand known => exact racing.join rfl
  | @answered index task hold request next answer world found standing attended =>
    obtain ⟨_, started⟩ := World.attended_sizes attended traced.settled
    refine racing.act found ⟨_, _, standing⟩ started ((World.attended_races attended below).trans ?_)
    have same : [Deed.exchange ⟨request, answer⟩].filterMap Deed.report? = request.report?.toList := by
      cases request <;> rfl
    rw [same]
    simp
  | @waited index task hold later request next world found standing attended =>
    obtain ⟨_, started⟩ := World.attended_sizes attended traced.settled
    refine racing.act found ⟨_, _, standing⟩ started ((World.attended_races attended below).trans ?_)
    rw [World.report?_of_waiting attended]
    simp
  | @left index task job hold outcome found standing honest =>
    have same : [Deed.ending outcome].filterMap Deed.report? = outcome.toList := by cases outcome <;> rfl
    refine racing.act found ⟨_, _, standing⟩ ?_ ?_
    · rw [worldWithout_background, traced.settled]
      exact fun _ member => nomatch member
    · rw [same]
      unfold worldWithout
      cases mine : task.origin.race with
      | none => simp
      | some other =>
        rw [World.leaveRace_races]
        by_cases equal : other = race
        · simp [equal]
        · simp [equal]

end Racing

/-! ### The beginning of a race -/

section Beginning

variable {hold : Option Hold} {cases : List (List Action)} {selector : String} {previous : Json}
  {next : Except Failure Json → Job (Except Failure Json)}

theorem advance_race_new (fresh : Hold.race? hold = none) :
    crowd.advance surroundings index task hold (.request (.race cases selector previous) next) =
      crowd.act (crowd.world.startRace surroundings task.origin.records cases selector previous) index task
        (.underway (.request (.race cases selector previous) next) (some (.racing crowd.world.races.size))) [] := by
  simp only [advance, World.attend_race_new crowd.world task.origin.records task.origin.race hold cases selector
    previous fresh]

theorem advance_race_held {held : Nat} (racing : Hold.race? hold = some held) :
    crowd.advance surroundings index task hold (.request (.race cases selector previous) next) =
      match crowd.world.raceOutcome? held with
      | some outcome =>
        crowd.act crowd.world index task (.underway (next outcome) none)
          [.exchange ⟨.race cases selector previous, outcome⟩]
      | none =>
        crowd.act crowd.world index task
          (.underway (.request (.race cases selector previous) next) (some (.racing held))) [] := by
  simp only [advance, World.attend_race_held crowd.world task.origin.records task.origin.race hold cases selector
    previous racing]
  cases crowd.world.raceOutcome? held <;> rfl

end Beginning

/-- The runners that a new race starts are that race in the crowd. -/
theorem Racing.begin (traced : Traced crowd) (races : RacesKnown crowd) (found : crowd.tasks[index]? = some task)
    (background : world.background = origins)
    (ours : ∀ runner ∈ origins, runner.race = some crowd.world.races.size)
    (pushed : world.races = crowd.world.races.push (Race.start origins.length)) :
    Racing crowd.world.races.size crowd.tasks.length origins (crowd.act world index task standing []) := by
  have old : ∀ {place : Nat} {former : Task}, crowd.tasks[place]? = some former →
      (former.origin.race = some crowd.world.races.size ↔
        crowd.tasks.length ≤ place ∧ place < crowd.tasks.length + origins.length) := by
    intro place former member
    have below := (List.getElem?_eq_some_iff.mp member).1
    refine ⟨fun same => ?_, fun range => absurd range.1 (by omega)⟩
    exact absurd (races former (List.mem_of_getElem? member) _ same) (Nat.lt_irrefl _)
  refine ⟨?_, ?_, ?_⟩
  · intro position origin place
    refine ⟨Task.begin origin, ?_, rfl⟩
    rw [Crowd.act, List.getElem?_append_right (by simp), background]
    simp [place]
  · intro other former member
    have total := (List.getElem?_eq_some_iff.mp member).1
    simp only [Crowd.act, background, List.length_append, List.length_set, List.length_map] at total
    rcases act_tasks_cases found member with ⟨rfl, rfl⟩ | ⟨_, same⟩ | ⟨beyond, origin, recent, rfl⟩
    · have same := old found
      exact same
    · exact old same
    · rw [background] at recent
      exact ⟨fun _ => ⟨beyond, total⟩, fun _ => ours origin recent⟩
  · have idle : (crowd.tasks.set index { task with standing := standing }).countP
        (Task.runs crowd.world.races.size) = 0 := by
      refine List.countP_eq_zero.mpr fun former member => ?_
      have known : ∀ former ∈ crowd.tasks, former.origin.race ≠ some crowd.world.races.size := fun former member same =>
        Nat.lt_irrefl _ (races former member _ same)
      rcases List.mem_or_eq_of_mem_set member with old | rfl
      · simp [Task.runs, known former old]
      · simp [Task.runs, known task (List.mem_of_getElem? found)]
    have running : (origins.map Task.begin).countP (Task.runs crowd.world.races.size) = origins.length := by
      rw [List.countP_eq_length.mpr, List.length_map]
      intro former member
      obtain ⟨origin, recent, rfl⟩ := List.mem_map.mp member
      simp [Task.runs, Task.begin, ours origin recent]
    have silent : crowd.reports crowd.tasks.length origins.length = [] := by
      unfold reports
      rw [List.filterMap_eq_nil_iff]
      intro event member
      obtain ⟨known, range⟩ := List.mem_filter.mp member
      obtain ⟨former, begun, _⟩ := traced.known event known
      have below := (List.getElem?_eq_some_iff.mp begun).1
      simp only [decide_eq_true_eq] at range
      omega
    rw [reports_act, silent]
    simp only [Crowd.act, background, pushed, List.countP_append, idle, running, Array.getElem?_push_size, Race.start]
    simp

/-! ### The verdict of a race -/

namespace Racing

variable {later : Crowd σ}

/-- No case of a race runs exactly when all have ended. -/
theorem countP_runs_eq_zero_iff (traced : Traced crowd) (racing : Racing race first origins crowd) :
    crowd.tasks.countP (Task.runs race) = 0 ↔ crowd.AllOver first origins.length := by
  rw [List.countP_eq_zero]
  constructor
  · intro still index above below
    obtain ⟨task, found⟩ := Option.isSome_iff_exists.mp
      (Option.isSome_iff_ne_none.mpr fun none => absurd (racing.lt_length above below)
        (Nat.not_lt.mpr (List.getElem?_eq_none_iff.mp none)))
    have mine := (racing.own found).mpr ⟨above, below⟩
    have stopped := still task (List.mem_of_getElem? found)
    refine (traced.over_iff found).mp ?_
    generalize standing : task.standing = stands at *
    cases stands with
    | underway job hold => exact absurd (by simp [Task.runs, mine, standing]) stopped
    | finished outcome => exact ⟨outcome, rfl⟩
  · intro finished task member runs
    obtain ⟨index, found⟩ := List.mem_iff_getElem?.mp member
    simp only [Task.runs, Bool.and_eq_true, beq_iff_eq] at runs
    obtain ⟨above, below⟩ := (racing.own found).mp runs.1
    obtain ⟨outcome, standing⟩ := (traced.over_iff found).mpr (finished index above below)
    rw [standing] at runs
    exact nomatch runs.2

/-- The race has an outcome when there is a verdict on what its cases have reported. -/
theorem raceOutcome?_eq_some_iff (traced : Traced crowd) (racing : Racing race first origins crowd)
    (outcome : Except Failure Json) :
    crowd.world.raceOutcome? race = some outcome ↔
      Verdict origins.length (crowd.reports first origins.length) (crowd.AllOver first origins.length) outcome := by
  unfold World.raceOutcome?
  rw [racing.state, Option.bind_some, Race.outcome?_eq_some_iff, racing.countP_runs_eq_zero_iff traced]

end Racing

/-- Those that have ended stay so. -/
theorem Step.allOver {later : Crowd σ} (taken : crowd.Step surroundings later) {size : Nat}
    (finished : crowd.AllOver first size) : later.AllOver first size := by
  intro index above below
  obtain ⟨outcome, member⟩ := finished index above below
  obtain ⟨more, longer⟩ := taken.deeds_append index
  exact ⟨outcome, by rw [longer]; exact List.mem_append_left _ member⟩

/-- Reports are added behind those before, and none when all have ended. -/
theorem Step.reports_append {later : Crowd σ} (traced : Traced crowd) (taken : crowd.Step surroundings later)
    (first size : Nat) :
    ∃ more, later.reports first size = crowd.reports first size ++ more ∧ (crowd.AllOver first size → more = []) := by
  rcases taken.quiet_or_acts with same | ⟨index, task, job, hold, world, standing, new, found, underway, rfl⟩
  · refine ⟨[], ?_, fun _ => rfl⟩
    unfold reports
    rw [same, List.append_nil]
  · refine ⟨_, Racing.reports_act first size, fun finished => if_neg fun range => ?_⟩
    obtain ⟨outcome, standing⟩ := (traced.over_iff found).mpr (finished index range.1 range.2)
    rw [underway] at standing
    exact nomatch standing

/-- A verdict stands after each step. -/
theorem Step.verdict {later : Crowd σ} (traced : Traced crowd) (taken : crowd.Step surroundings later) {size : Nat}
    {outcome : Except Failure Json}
    (verdict : Verdict size (crowd.reports first size) (crowd.AllOver first size) outcome) :
    Verdict size (later.reports first size) (later.AllOver first size) outcome := by
  obtain ⟨more, longer, last⟩ := taken.reports_append traced first size
  rw [longer]
  exact verdict.append last taken.allOver

/-! ### Who asked for the race -/

variable {asker : Nat} {past : List Deed} {cases : List (List Action)} {selector : String} {previous : Json}
  {next : Except Failure Json → Job (Except Failure Json)}

/-- Where a task stands that has asked for a race: it waits for the outcome, it has been answered with the verdict, or
it has died. -/
inductive Asked (race first size asker : Nat) (past : List Deed) (cases : List (List Action)) (selector : String)
    (previous : Json) (next : Except Failure Json → Job (Except Failure Json)) (crowd : Crowd σ) : Prop where
  | waiting {task : Task} (found : crowd.tasks[asker]? = some task)
      (standing : task.standing = .underway (.request (.race cases selector previous) next) (some (.racing race)))
      (idle : crowd.deeds asker = past)
  | answered {answer : Except Failure Json} {later : List Deed}
      (deeds : crowd.deeds asker = past ++ .exchange ⟨.race cases selector previous, answer⟩ :: later)
      (verdict : Verdict size (crowd.reports first size) (crowd.AllOver first size) answer)
  | struck {task : Task} (found : crowd.tasks[asker]? = some task) (standing : task.standing = .finished none)
      (deeds : crowd.deeds asker = past ++ [.ending none])

namespace Asked

theorem step {later : Crowd σ} (traced : Traced crowd) (racing : Racing race first origins crowd)
    (asked : Asked race first origins.length asker past cases selector previous next crowd)
    (taken : crowd.Step surroundings later) :
    Asked race first origins.length asker past cases selector previous next later := by
  cases asked with
  | answered deeds verdict =>
    obtain ⟨more, longer⟩ := taken.deeds_append asker
    rw [deeds, List.append_assoc, List.cons_append] at longer
    exact .answered longer (taken.verdict traced verdict)
  | struck found standing deeds =>
    obtain ⟨stays, silent⟩ := taken.over_stays found standing
    exact .struck stays standing (silent.trans deeds)
  | waiting found standing idle =>
    rcases taken.leaves_or_acts found with ⟨stays, silent⟩ | ⟨_, _, _, answer, _, underway, attended, rfl⟩ |
      ⟨_, _, _, waiting, _, underway, attended, rfl⟩ | ⟨_, _, outcome, underway, honest, rfl⟩
    · exact .waiting stays standing (silent.trans idle)
    · cases standing.symm.trans underway
      rw [World.attend_race_held _ _ _ _ _ _ _ rfl] at attended
      cases decided : crowd.world.raceOutcome? race with
      | none =>
        rw [decided] at attended
        exact nomatch (Prod.mk.inj attended).2
      | some outcome =>
        rw [decided] at attended
        have same : outcome = answer := by
          injection (Prod.mk.inj attended).2
        subst same
        have verdict := (racing.raceOutcome?_eq_some_iff traced outcome).mp decided
        exact .answered (by rw [act_deeds_self, idle]) (taken.verdict traced verdict)
    · cases standing.symm.trans underway
      rw [World.attend_race_held _ _ _ _ _ _ _ rfl] at attended
      cases decided : crowd.world.raceOutcome? race with
      | none =>
        rw [decided] at attended
        have same : some (Hold.racing race) = waiting := by
          injection (Prod.mk.inj attended).2
        subst same
        exact .waiting (act_tasks_self found) rfl (by rw [act_deeds_self, idle, List.append_nil])
      | some outcome =>
        rw [decided] at attended
        exact nomatch (Prod.mk.inj attended).2
    · cases standing.symm.trans underway
      cases outcome with
      | some value => exact nomatch honest value rfl
      | none => exact .struck (act_tasks_self found) rfl (by rw [leave, act_deeds_self, idle])

end Asked

/-! ### The law of races -/

/-- What holds of a race between the state in which a task asks for it and any later state, when the asker and then these
turns have been taken in between. -/
structure RaceLaw (surroundings : Surroundings σ) (asker : Nat) (cases : List (List Action)) (selector : String)
    (previous : Json) (turns : List (Turn σ)) (now final : Crowd σ) : Prop where
  /-- Each case performs its steps in order up to its own first failure. Until then it is under way with the rest of them,
  decided or not, unless it was struck down in one of the turns or a step has perished. -/
  inOrder : ∀ {position : Nat} {steps : List Action}, cases[position]? = some steps →
    ∃ task, final.tasks[now.tasks.length + position]? = some task ∧
      CaseRun surroundings.setup selector (.strike (now.tasks.length + position) ∈ turns) false steps previous
        (final.deeds (now.tasks.length + position)) task.standing
  /-- A case that is under way makes its next deed at its turn, decided or not, unless its next request awaits something
  of its own. -/
  goesOn : ∀ {position : Nat} {task : Task} {job : Job (Except Failure Json)} {hold : Option Hold},
    position < cases.length → final.tasks[now.tasks.length + position]? = some task →
    task.standing = .underway job hold →
    (∃ deed, (final.turn surroundings (.move (now.tasks.length + position))).deeds (now.tasks.length + position) =
        final.deeds (now.tasks.length + position) ++ [deed]) ∨
      ∃ request next world later, job = .request request next ∧ world.Awaits request later ∧
        final.world.attend surroundings task.origin.records task.origin.race hold request = (world, .wait later)
  /-- An answer that was given is the verdict on all reports, also on those that came later. -/
  stands : ∀ {answer : Except Failure Json} {later : List Deed},
    final.deeds asker = now.deeds asker ++ .exchange ⟨.race cases selector previous, answer⟩ :: later →
    Verdict cases.length (final.reports now.tasks.length cases.length) (final.AllOver now.tasks.length cases.length)
      answer
  /-- While none was given, the next turn of the task gives the verdict, if there is one. -/
  settles : final.deeds asker = now.deeds asker → ∀ answer : Except Failure Json,
    (final.turn surroundings (.move asker)).deeds asker
        = now.deeds asker ++ [.exchange ⟨.race cases selector previous, answer⟩] ↔
      Verdict cases.length (final.reports now.tasks.length cases.length)
        (final.AllOver now.tasks.length cases.length) answer

/-- An answer that was given is the one of the verdict. -/
theorem Asked.stands {size : Nat} (asked : Asked race first size asker past cases selector previous next crowd)
    {answer : Except Failure Json} {later : List Deed}
    (given : crowd.deeds asker = past ++ .exchange ⟨.race cases selector previous, answer⟩ :: later) :
    Verdict size (crowd.reports first size) (crowd.AllOver first size) answer := by
  cases asked with
  | waiting found standing idle =>
    rw [idle] at given
    exact absurd given (by simp)
  | answered deeds verdict =>
    rw [deeds, List.append_cancel_left_eq, List.cons.injEq] at given
    injection given.1 with same
    injection same with _ equal
    rw [← equal]
    exact verdict
  | struck found standing deeds =>
    rw [deeds, List.append_cancel_left_eq, List.cons.injEq] at given
    exact nomatch given.1

/-- A task under way makes its next deed at its turn, unless its next request awaits something. -/
theorem turn_goesOn {job : Job (Except Failure Json)} {hold : Option Hold} (found : crowd.tasks[index]? = some task)
    (standing : task.standing = .underway job hold) :
    (∃ deed, (crowd.turn surroundings (.move index)).deeds index = crowd.deeds index ++ [deed]) ∨
      ∃ request next world later, job = .request request next ∧ world.Awaits request later ∧
        crowd.world.attend surroundings task.origin.records task.origin.race hold request = (world, .wait later) := by
  rw [turn_move found standing]
  cases job with
  | done outcome => exact .inl ⟨_, act_deeds_self⟩
  | request request next =>
    dsimp only [advance]
    split
    · exact .inl ⟨_, act_deeds_self⟩
    · rename_i world later attended
      exact .inr ⟨request, next, world, later, rfl, World.awaits_of_wait attended, attended⟩
    · exact .inl ⟨_, act_deeds_self⟩

/-- A task that began as a case runs as a case does. It dies only if it is struck down in one of the turns, or by a step
that perishes. -/
theorem caseRun_of_traced (custom : surroundings.setup.CustomSilent) (traced : Traced crowd) {turns : List (Turn σ)}
    (known : DeathKnown index turns crowd) (begun : crowd.tasks[index]? = some task) {steps : List Action}
    (same : task.origin.job = (Run.performCase surroundings.setup selector false steps previous).run) :
    CaseRun surroundings.setup selector (.strike index ∈ turns) false steps previous (crowd.deeds index)
      task.standing := by
  have follows := traced.follows begun
  have cause := known task begun
  unfold DiedOf at cause
  rw [same] at follows cause
  obtain ⟨trail, rest, last, done, way, ends⟩ := follows.cut cause
  rw [done]
  exact caseRun_of_trail custom selector way ends

/-- Who waits is answered in the next turn when there is a verdict. -/
theorem Asked.settles (traced : Traced crowd) (racing : Racing race first origins crowd)
    (asked : Asked race first origins.length asker past cases selector previous next crowd)
    (idle : crowd.deeds asker = past) (answer : Except Failure Json) :
    (crowd.turn surroundings (.move asker)).deeds asker
        = past ++ [.exchange ⟨.race cases selector previous, answer⟩] ↔
      Verdict origins.length (crowd.reports first origins.length) (crowd.AllOver first origins.length) answer := by
  cases asked with
  | answered deeds _ =>
    rw [idle] at deeds
    exact absurd deeds (by simp)
  | struck _ _ deeds =>
    rw [idle] at deeds
    exact absurd deeds (by simp)
  | waiting found standing _ =>
    rw [← racing.raceOutcome?_eq_some_iff traced, turn_move found standing, advance_race_held rfl]
    cases decided : crowd.world.raceOutcome? race with
    | none =>
      dsimp only
      rw [act_deeds_self, idle]
      simp
    | some outcome =>
      dsimp only
      rw [act_deeds_self, idle, List.append_cancel_left_eq, List.cons.injEq]
      constructor
      · intro same
        injection same.1 with same
        injection same with _ equal
        rw [equal]
      · intro same
        rw [Option.some.inj same]
        exact ⟨rfl, rfl⟩

/-- With the turn of a task that asks for a race, the race is under way and the task waits for it. -/
theorem race_opens (traced : Traced crowd) (races : RacesKnown crowd) {hold : Option Hold}
    (found : crowd.tasks[asker]? = some task)
    (asks : task.standing = .underway (.request (.race cases selector previous) next) hold)
    (fresh : Hold.race? hold = none) :
    Racing crowd.world.races.size crowd.tasks.length
        (World.runners surroundings.setup task.origin.records crowd.world.races.size cases selector previous)
        (crowd.turn surroundings (.move asker)) ∧
      Asked crowd.world.races.size crowd.tasks.length cases.length asker (crowd.deeds asker) cases selector previous
        next (crowd.turn surroundings (.move asker)) := by
  rw [turn_move found asks, advance_race_new fresh]
  constructor
  · refine Racing.begin traced races found ?_ ?_ ?_
    · rw [World.startRace_background, traced.settled, List.nil_append]
    · intro runner member
      obtain ⟨steps, _, rfl⟩ := List.mem_map.mp member
      rfl
    · rw [World.runners, List.length_map]
      rfl
  · exact .waiting (act_tasks_self found) rfl (by rw [act_deeds_self, List.append_nil])

/-- A race is won by the first success that its cases report and lost when all have ended without any, in all
interleavings. Its cases perform their steps in order, and go on with them whether or not it is decided. -/
theorem race_law (custom : surroundings.setup.CustomSilent) (world : World σ) (before after : List (Turn σ))
    {hold : Option Hold} (found : ((Crowd.start world).play surroundings before).tasks[asker]? = some task)
    (asks : task.standing = .underway (.request (.race cases selector previous) next) hold)
    (fresh : Hold.race? hold = none) :
    RaceLaw surroundings asker cases selector previous after ((Crowd.start world).play surroundings before)
      ((Crowd.start world).play surroundings (before ++ .move asker :: after)) := by
  have traced : Traced ((Crowd.start world).play surroundings before) := .play world before
  have races : RacesKnown ((Crowd.start world).play surroundings before) := .play world before
  rw [play_append]
  generalize (Crowd.start world).play surroundings before = now at *
  have size : (World.runners surroundings.setup task.origin.records now.world.races.size cases selector
      previous).length = cases.length := List.length_map _
  have deaths : ∀ index, now.tasks.length ≤ index →
      DeathKnown index (.move asker :: after) (now.play surroundings (.move asker :: after)) := by
    intro index beyond
    have unborn : DeathKnown index [] now := .of_unborn beyond
    exact unborn.play traced _
  obtain ⟨racing, asked⟩ := race_opens traced races found asks fresh
  rw [← size] at asked
  -- The three invariants hold when the race begins and after every later turn.
  obtain ⟨traced, racing, asked⟩ := @play_preserves σ surroundings (fun later => Traced later ∧ Racing _ _ _ later ∧
      Asked _ _ _ asker (now.deeds asker) cases selector previous next later) _ after
    ⟨traced.step (turn_step now _), racing, asked⟩ fun former taken =>
      ⟨former.1.step taken, former.2.1.step former.1 taken, former.2.2.step former.1 former.2.1 taken⟩
  refine ⟨?_, fun _ present standing => turn_goesOn present standing, ?_, ?_⟩
  · intro position steps place
    obtain ⟨chain, begun, same⟩ := racing.begun (World.getElem?_runners place)
    have run := caseRun_of_traced custom traced (deaths _ (Nat.le_add_right _ _)) begun (congrArg Process.job same)
    simp only [List.mem_cons, reduceCtorEq, false_or] at run
    exact ⟨chain, begun, run⟩
  · rw [← size]
    exact asked.stands
  · rw [← size]
    exact asked.settles traced racing

theorem echo_silent : Surroundings.echo.setup.CustomSilent := fun kind name run registered =>
  absurd registered (Performer.find?_standard_ne_custom kind name run)

def twoCases : List (List Action) :=
  [[.ofKind "scroll", .ofKind "url"], [.ofKind "scroll"]]

def twoCasesRun (turns : List (Turn Unit)) : Crowd Unit :=
  (Crowd.start World.blank).play .echo ([.accept ⟨0, 0⟩ (.ofRace twoCases)] ++ .move 0 :: turns)

/-- The second of two cases wins, and the first performs its second step behind that. -/
theorem race_law_twoCases :
    (twoCasesRun [.move 1, .move 2, .move 2, .move 0]).deeds 0 =
        [.exchange ⟨.race twoCases "" .null, .ok (.string "scroll")⟩] ∧
      (∃ deed, (twoCasesRun [.move 1, .move 2, .move 2, .move 0, .move 1]).deeds 1 =
        (twoCasesRun [.move 1, .move 2, .move 2, .move 0]).deeds 1 ++ [deed]) ∧
      (twoCasesRun [.move 1, .move 2, .move 2, .move 0, .move 1, .move 1]).deeds 1 =
        [.exchange ⟨.ask (.call (.scroll none)), .ok (.string "scroll")⟩, .exchange ⟨.ask (.call .url), .ok (.string "url")⟩,
          .ending (some (.ok (.string "url")))] ∧
      (twoCasesRun [.move 1, .move 2, .move 2, .move 0, .move 1, .move 1]).reports 1 2 =
        [.ok (.string "scroll"), .ok (.string "url")] ∧
      Verdict 2 ((twoCasesRun [.move 1, .move 2, .move 2, .move 0, .move 1, .move 1]).reports 1 2)
        ((twoCasesRun [.move 1, .move 2, .move 2, .move 0, .move 1, .move 1]).AllOver 1 2) (.ok (.string "scroll")) := by
  have law : ∀ turns, RaceLaw .echo 0 twoCases "" .null turns _ (twoCasesRun turns) := fun turns =>
    race_law echo_silent World.blank [.accept ⟨0, 0⟩ (.ofRace twoCases)] turns rfl rfl rfl
  have further := (law [.move 1, .move 2, .move 2, .move 0]).goesOn (show 0 < twoCases.length by decide) rfl rfl
  refine ⟨rfl, further.resolve_right ?_, rfl, rfl, ?_⟩
  · rintro ⟨request, next, world, later, same, _, waits⟩
    injection same with same
    subst same
    cases waits
  · exact (law _).stands rfl

end Crowd

end Harvest
