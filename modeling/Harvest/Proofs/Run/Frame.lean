import Harvest.Proofs.Run.Channel
import Harvest.Run.World

/-!
Contract: which parts of a world a request can change.

`World.attend` changes the ledgers only where something is recorded, the races only where a
race begins or a win is reported, and what runs in the background only where a race begins.
Runners that are in the background already make no difference to it. A request that is not answered
has a reason to wait (`awaits_of_wait`), or was to perish.
-/

namespace Harvest

/-- A request that changes neither ledgers nor races and starts nothing in the background. -/
def Request.IsLocal : Request → Prop
  | .record _ => False
  | .win _ => False
  | .race _ _ _ => False
  | _ => True

def Hold.race? : Option Hold → Option Nat
  | some (.racing race) => some race
  | _ => none

namespace World

variable {σ : Type} {surroundings : Surroundings σ} {subscription : Nat}

def runners (setup : Setup) (records : Records) (race : Nat) (cases : List (List Action)) (selector : String)
    (previous : Json) : List Runner :=
  cases.map fun steps =>
    { job := (Run.performCase setup selector false steps previous).run, records := records, race := some race }

/-! ### Parts that have no part in a request -/

@[simp]
theorem report_ledgers (world : World σ) (events : List PageEvent) : (world.report events).ledgers = world.ledgers :=
  rfl

@[simp]
theorem report_races (world : World σ) (events : List PageEvent) : (world.report events).races = world.races :=
  rfl

@[simp]
theorem report_background (world : World σ) (events : List PageEvent) :
    (world.report events).background = world.background :=
  rfl

@[simp]
theorem undergo_ledgers (world : World σ) (incident : Incident σ) :
    (world.undergo incident).ledgers = world.ledgers := by
  unfold undergo
  cases incident.closesChannel <;> rfl

@[simp]
theorem undergo_races (world : World σ) (incident : Incident σ) : (world.undergo incident).races = world.races := by
  unfold undergo
  cases incident.closesChannel <;> rfl

@[simp]
theorem undergo_background (world : World σ) (incident : Incident σ) :
    (world.undergo incident).background = world.background := by
  unfold undergo
  cases incident.closesChannel <;> rfl

@[simp]
theorem leaveRace_ledgers (world : World σ) (race : Nat) (outcome : Option (Except Failure Json)) :
    (world.leaveRace race outcome).ledgers = world.ledgers := by
  cases outcome <;> rfl

@[simp]
theorem leaveRace_background (world : World σ) (race : Nat) (outcome : Option (Except Failure Json)) :
    (world.leaveRace race outcome).background = world.background := by
  cases outcome <;> rfl

theorem undergo_continues (world : World σ) (incident : Incident σ) :
    world.channel.Continues subscription (world.undergo incident).channel := by
  have sent : world.channel.Continues subscription (world.channel.sendAll (incident.change world.state).2) :=
    .sendAll _ _
  unfold undergo
  cases incident.closesChannel with
  | false => exact sent
  | true => exact ⟨sent.capacity, sent.place, sent.sent⟩

theorem leaveRace_channel (world : World σ) (race : Nat) (outcome : Option (Except Failure Json)) :
    (world.leaveRace race outcome).channel = world.channel := by
  cases outcome <;> rfl

theorem attendWork_parts (world : World σ) (hold : Option Hold) (work : PageWork) :
    (world.attendWork surroundings hold work).1.ledgers = world.ledgers ∧
      (world.attendWork surroundings hold work).1.races = world.races ∧
      (world.attendWork surroundings hold work).1.background = world.background := by
  unfold attendWork
  split <;> exact ⟨rfl, rfl, rfl⟩

theorem attendWork_continues (world : World σ) (hold : Option Hold) (work : PageWork) :
    world.channel.Continues subscription (world.attendWork surroundings hold work).1.channel := by
  unfold attendWork
  split
  · exact .refl _ _
  · exact .sendAll _ _

theorem attendWorkBy_world (world : World σ) (hold : Option Hold) (deadline : Nat) (work : PageWork) :
    (world.attendWorkBy surroundings hold deadline work).1 = (world.attendWork surroundings hold work).1 := by
  unfold attendWorkBy
  rcases attended : world.attendWork surroundings hold work with ⟨changed, reply⟩
  cases reply <;> rfl

/-! ### What a request changes -/

variable (world : World σ) (records : Records) (race : Option Nat) (hold : Option Hold)

theorem attend_local {request : Request} (isLocal : request.IsLocal) :
    (world.attend surroundings records race hold request).1.ledgers = world.ledgers ∧
      (world.attend surroundings records race hold request).1.races = world.races ∧
      (world.attend surroundings records race hold request).1.background = world.background := by
  cases request with
  | ask work => exact attendWork_parts world hold work
  | askBy deadline work =>
    simp only [attend, attendWorkBy_world]
    exact attendWork_parts world hold work
  | listen subscription limit awaited =>
    simp only [attend]
    split <;> exact ⟨rfl, rfl, rfl⟩
  | record identity => exact isLocal.elim
  | win value => exact isLocal.elim
  | race cases selector previous => exact isLocal.elim
  | _ => exact ⟨rfl, rfl, rfl⟩

/-- What a request waits for in a world: work of the page that is not finished, an event, a time, or the verdict of the
race that it began. -/
inductive Awaits (world : World σ) : Request → Option Hold → Prop where
  | page {work : PageWork} {finish : Nat} {outcome : Except Failure Json} (unfinished : world.now < finish) :
      Awaits world (.ask work) (some (.working finish outcome))
  | pageInTime {deadline finish : Nat} {work : PageWork} {outcome : Except Failure Json}
      (unfinished : world.now < finish) (early : world.now < deadline) :
      Awaits world (.askBy deadline work) (some (.working finish outcome))
  | event {subscription limit : Nat} {awaited : Awaited} (silent : world.channel.hear? subscription awaited = none)
      (early : world.now < limit) : Awaits world (.listen subscription limit awaited) none
  | time {time : Nat} (early : world.now < time) : Awaits world (.sleepUntil time) none
  | begun {cases : List (List Action)} {selector : String} {previous : Json} {race : Nat}
      (latest : world.races.size = race + 1) : Awaits world (.race cases selector previous) (some (.racing race))
  | verdict {cases : List (List Action)} {selector : String} {previous : Json} {race : Nat}
      (undecided : world.raceOutcome? race = none) : Awaits world (.race cases selector previous) (some (.racing race))

/-- A request that is not answered awaits something, or was to perish. -/
def Justifies (world : World σ) : (request : Request) → Reply request.Answer → Prop
  | _, .answer _ => True
  | request, .wait hold => world.Awaits request hold
  | request, .gone => request = .perish

theorem attendWork_justified (work : PageWork) :
    Justifies (world.attendWork surroundings hold work).1 (.ask work) (world.attendWork surroundings hold work).2 := by
  unfold attendWork
  split
  · dsimp only
    split
    · trivial
    · rename_i unfinished
      exact .page (Nat.lt_of_not_le unfinished)
  · dsimp only
    split
    · trivial
    · rename_i unfinished
      exact .page (Nat.lt_of_not_le unfinished)

theorem attend_justified (request : Request) :
    Justifies (world.attend surroundings records race hold request).1 request
      (world.attend surroundings records race hold request).2 := by
  cases request with
  | perish => rfl
  | ask work => exact attendWork_justified world hold work
  | askBy deadline work =>
    have worked := @attendWork_justified _ surroundings world hold work
    simp only [attend, attendWorkBy]
    split
    · trivial
    · rename_i attended
      rw [attended] at worked
      dsimp only
      split
      · trivial
      · rename_i early
        cases worked with
        | page unfinished => exact .pageInTime unfinished (Nat.lt_of_not_le early)
    · rename_i attended
      rw [attended] at worked
      cases worked
  | listen subscription limit awaited =>
    simp only [attend]
    split
    · trivial
    · rename_i silent
      dsimp only
      split
      · trivial
      · rename_i early
        exact .event silent (Nat.lt_of_not_le early)
  | sleepUntil time =>
    simp only [attend]
    split
    · trivial
    · rename_i early
      exact .time (Nat.lt_of_not_le early)
  | race cases selector previous =>
    simp only [attend, attendRace]
    split
    · split
      · trivial
      · rename_i undecided
        exact .verdict undecided
    · exact .begun (by simp [startRace])
  | win value => cases race <;> trivial
  | _ => trivial

variable {world records race hold} in
theorem awaits_of_wait {later : World σ} {request : Request} {waiting : Option Hold}
    (waits : world.attend surroundings records race hold request = (later, .wait waiting)) :
    later.Awaits request waiting := by
  have justified := @attend_justified _ surroundings world records race hold request
  rwa [waits] at justified

variable {world records race hold} in
/-- Only a request to perish ends a process. -/
theorem eq_perish_of_gone {later : World σ} {request : Request}
    (gone : world.attend surroundings records race hold request = (later, .gone)) : request = .perish := by
  have justified := @attend_justified _ surroundings world records race hold request
  rwa [gone] at justified

/-- A request for a race that is not yet held begins one. -/
theorem attend_race_new (cases : List (List Action)) (selector : String) (previous : Json)
    (fresh : Hold.race? hold = none) :
    world.attend surroundings records race hold (.race cases selector previous) =
      (world.startRace surroundings records cases selector previous, .wait (some (.racing world.races.size))) := by
  match hold, fresh with
  | none, _ => rfl
  | some (.working _ _), _ => rfl

/-- A request for a race that is held is answered when the race has an outcome. -/
theorem attend_race_held (cases : List (List Action)) (selector : String) (previous : Json) {held : Nat}
    (racing : Hold.race? hold = some held) :
    world.attend surroundings records race hold (.race cases selector previous) =
      (world, match world.raceOutcome? held with
        | some outcome => .answer outcome
        | none => .wait (some (.racing held))) := by
  match hold, racing with
  | some (.racing _), rfl =>
    simp only [attend, attendRace]
    cases world.raceOutcome? held <;> rfl

@[simp]
theorem startRace_background (cases : List (List Action)) (selector : String) (previous : Json) :
    (world.startRace surroundings records cases selector previous).background =
      world.background ++ runners surroundings.setup records world.races.size cases selector previous :=
  rfl

/-- A request starts nothing in the background but the cases of a race. -/
theorem mem_attend_background {request : Request} {runner : Runner}
    (member : runner ∈ (world.attend surroundings records race hold request).1.background) :
    runner ∈ world.background ∨ ∃ cases selector previous, request = .race cases selector previous ∧
      runner ∈ runners surroundings.setup records world.races.size cases selector previous := by
  by_cases isLocal : request.IsLocal
  · rw [(attend_local world records race hold isLocal).2.2] at member
    exact .inl member
  cases request with
  | race cases selector previous =>
    cases racing : Hold.race? hold with
    | none =>
      rw [attend_race_new world records race hold cases selector previous racing] at member
      rcases List.mem_append.mp member with old | new
      · exact .inl old
      · exact .inr ⟨cases, selector, previous, rfl, new⟩
    | some held =>
      rw [attend_race_held world records race hold cases selector previous racing] at member
      exact .inl member
  | record identity => exact .inl member
  | win value => cases race <;> exact .inl member
  | _ => exact absurd trivial isLocal

/-- A request starts something in the background only where a race begins. -/
theorem attend_background {request : Request}
    (raceless : ∀ cases selector previous, request ≠ .race cases selector previous) :
    (world.attend surroundings records race hold request).1.background = world.background := by
  by_cases isLocal : request.IsLocal
  · exact (attend_local world records race hold isLocal).2.2
  · cases request with
    | race cases selector previous => exact absurd rfl (raceless cases selector previous)
    | record identity => rfl
    | win value => cases race <;> rfl
    | _ => exact absurd trivial isLocal

/-- A request that is answered starts nothing in the background. -/
theorem attend_answered_background {world later : World σ} {records : Records} {race : Option Nat}
    {hold : Option Hold} {request : Request} {answer : request.Answer}
    (attended : world.attend surroundings records race hold request = (later, .answer answer)) :
    later.background = world.background := by
  have same : later = (world.attend surroundings records race hold request).1 := by rw [attended]
  cases request with
  | race cases selector previous =>
    cases racing : Hold.race? hold with
    | none => rw [attend_race_new world records race hold cases selector previous racing] at attended; cases attended
    | some held => rw [same, attend_race_held world records race hold cases selector previous racing]
  | _ =>
    rw [same]
    exact attend_background world records race hold fun _ _ _ other => nomatch other

/-- A request that records nothing leaves the ledgers as they are. -/
theorem attend_ledgers {request : Request} (unrecorded : ∀ identity, request ≠ .record identity) :
    (world.attend surroundings records race hold request).1.ledgers = world.ledgers := by
  by_cases isLocal : request.IsLocal
  · exact (attend_local world records race hold isLocal).1
  cases request with
  | race cases selector previous =>
    cases racing : Hold.race? hold with
    | none => rw [attend_race_new world records race hold cases selector previous racing]; rfl
    | some held => rw [attend_race_held world records race hold cases selector previous racing]
  | record identity => exact absurd rfl (unrecorded identity)
  | win value => cases race <;> rfl
  | _ => exact absurd trivial isLocal

end World

end Harvest
