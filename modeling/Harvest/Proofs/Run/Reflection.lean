import Harvest.Proofs.Run.Elision
import Harvest.Proofs.Run.Once
import Mathlib.Data.List.Forall2

/-!
Contract: worlds in which processes go on alike, though some of them leave out what is done already.

A world reflects another one when a view of the other's surroundings is its own, and all else that processes share is
the same; what runs in the background goes on alike, except that it may leave out what is recorded from the start.
Since a process that has been recorded stays recorded and none waits to ask for it, a request, a process until it
must wait, a moment and a whole run preserve that (`World.Reflects.run`).
-/

namespace Harvest

variable {σ τ α : Type}

/-! ### Surroundings -/

/-- What is seen of a service through a view of the surroundings. -/
def Service.seen (view : σ → τ) (service : Service σ) : Service τ where
  state := view service.state
  outcome := service.outcome
  delay := service.delay
  events := service.events

/-- Surroundings that do, as far as a view of other ones goes, what these do. -/
structure Surroundings.Reflects (view : σ → τ) (surroundings : Surroundings σ) (image : Surroundings τ) : Prop where
  setup : image.setup = surroundings.setup
  transforms : image.transforms = surroundings.transforms
  serves : ∀ state work, image.serve (view state) work = (surroundings.serve state work).seen view
  consults : ∀ state breaker time checks, image.consult (view state) breaker time checks =
    (view (surroundings.consult state breaker time checks).1, (surroundings.consult state breaker time checks).2)

theorem Surroundings.Reflects.refl (surroundings : Surroundings σ) :
    Surroundings.Reflects id surroundings surroundings where
  setup := rfl
  transforms := rfl
  serves := fun _ _ => rfl
  consults := fun _ _ _ _ => rfl

/-- An incident that changes what a view shows of the surroundings as another one changes these. -/
structure Incident.Reflects (view : σ → τ) (incident : Incident σ) (image : Incident τ) : Prop where
  time : image.time = incident.time
  closes : image.closesChannel = incident.closesChannel
  changes : ∀ state, image.change (view state) = (view (incident.change state).1, (incident.change state).2)

/-! ### Processes -/

/-- Two jobs are at the same request, or both at their end, and go on alike from there. -/
inductive Job.Level (recorded : Nat → Bool) : Job α → Job α → Prop where
  | done (value : α) : Level recorded (.done value) (.done value)
  | request (request : Request) {next next' : request.Answer → Job α}
      (alike : ∀ answer, Elides recorded (next answer) (next' answer)) :
      Level recorded (.request request next) (.request request next')
  | race (cases : List (List Action)) (selector : String) (previous : Json)
      {next next' : Except Failure Json → Job α} (alike : ∀ outcome, Elides recorded (next outcome) (next' outcome)) :
      Level recorded (.request (.race cases selector previous) next)
        (.request (.race (Action.elideCases recorded cases) selector previous) next')

theorem Job.Level.refl (recorded : Nat → Bool) : (job : Job α) → Job.Level recorded job job
  | .done value => .done value
  | .request asked _ => .request asked fun _ => .refl _

/-- A process goes on as another one does. Where it begins, it may have to ask for what is recorded; from its first
wait on, both are at the same request. -/
inductive Process.Elides (recorded : Nat → Nat → Bool) : Process α → Process α → Prop where
  | begins (records : Records) (race : Option Nat) {job elided : Job α}
      (alike : Job.Elides (recorded records.ledger) job elided) (atOnce : job.BeginsAtOnce)
      (elidedAtOnce : elided.BeginsAtOnce) :
      Elides recorded ⟨job, records, race, none⟩ ⟨elided, records, race, none⟩
  | goesOn (records : Records) (race : Option Nat) (hold : Option Hold) {job elided : Job α}
      (level : Job.Level (recorded records.ledger) job elided) :
      Elides recorded ⟨job, records, race, hold⟩ ⟨elided, records, race, hold⟩

/-- What becomes of processes that go on alike. -/
inductive Progress.Elides (recorded : Nat → Nat → Bool) : Progress α → Progress α → Prop where
  | ended (outcome : Option α) : Elides recorded (.ended outcome) (.ended outcome)
  | waiting {process elided : Process α} (alike : Process.Elides recorded process elided) :
      Elides recorded (.waiting process) (.waiting elided)

/-! ### Worlds -/

namespace World

/-- A world that shows a view of another one's surroundings. The processes have the same in common, and those in the
background go on alike; what is recorded from the start has been recorded. -/
structure Reflects (view : σ → τ) (recorded : Nat → Nat → Bool) (world : World σ) (image : World τ) : Prop where
  state : image.state = view world.state
  channel : image.channel = world.channel
  now : image.now = world.now
  storages : image.storages = world.storages
  ledgers : image.ledgers = world.ledgers
  checks : image.checks = world.checks
  races : image.races = world.races
  background : List.Forall₂ (Process.Elides recorded) world.background image.background
  incidents : List.Forall₂ (Incident.Reflects view) world.incidents image.incidents
  known : ∀ ledger identity, recorded ledger identity = true → world.hasDone ledger identity = true

variable {view : σ → τ} {recorded : Nat → Nat → Bool} {surroundings : Surroundings σ} {mirror : Surroundings τ}
  {world : World σ} {image : World τ}

theorem dueTime?_of_beginsAtOnce {job : Job α} (atOnce : job.BeginsAtOnce) (records : Records) (race : Option Nat) :
    world.dueTime? ⟨job, records, race, none⟩ = some world.now := by
  cases job with
  | done value => rfl
  | request request next =>
    cases request with
    | sleepUntil time => exact atOnce.elim
    | listen subscription limit awaited => exact atOnce.elim
    | _ => rfl

namespace Reflects

theorem storage (reflects : Reflects view recorded world image) (records : Records) :
    image.storage records = world.storage records := by
  unfold World.storage
  rw [reflects.storages]

theorem ledger (reflects : Reflects view recorded world image) (records : Records) :
    image.ledger records = world.ledger records := by
  unfold World.ledger
  rw [reflects.ledgers]

theorem raceOutcome? (reflects : Reflects view recorded world image) (race : Nat) :
    image.raceOutcome? race = world.raceOutcome? race := by
  unfold World.raceOutcome?
  rw [reflects.races]

theorem dueTime? (reflects : Reflects view recorded world image) {process elided : Process α}
    (alike : Process.Elides recorded process elided) : image.dueTime? elided = world.dueTime? process := by
  cases alike with
  | begins records race alike atOnce elidedAtOnce =>
    rw [dueTime?_of_beginsAtOnce atOnce, dueTime?_of_beginsAtOnce elidedAtOnce, reflects.now]
  | goesOn records race hold level =>
    unfold World.dueTime?
    simp only [reflects.now, reflects.channel, reflects.raceOutcome?]
    cases level with
    | done value => rfl
    | request request alike => cases hold with
      | none => cases request <;> rfl
      | some hold => cases hold <;> cases request <;> rfl
    | race cases selector previous alike => cases hold with
      | none => rfl
      | some hold => cases hold <;> rfl

theorem isReady (reflects : Reflects view recorded world image) {process elided : Process α}
    (alike : Process.Elides recorded process elided) : image.isReady elided = world.isReady process := by
  unfold World.isReady
  rw [reflects.dueTime? alike, reflects.now]

/-! ### Requests -/

theorem withRace (reflects : Reflects view recorded world image) (race : Nat) (change : Race → Race) :
    Reflects view recorded (world.withRace race change) (image.withRace race change) :=
  { reflects with races := by unfold World.withRace; rw [reflects.races] }

theorem withStorage (reflects : Reflects view recorded world image) (records : Records) (storage : Storage) :
    Reflects view recorded (world.withStorage records storage) (image.withStorage records storage) :=
  { reflects with storages := by unfold World.withStorage; rw [reflects.storages] }

theorem withChannel (reflects : Reflects view recorded world image) (channel : Channel) :
    Reflects view recorded { world with channel := channel } { image with channel := channel } :=
  { reflects with channel := rfl }

theorem withNow (reflects : Reflects view recorded world image) (now : Nat) :
    Reflects view recorded { world with now := now } { image with now := now } :=
  { reflects with now := rfl }

theorem serve (mirrors : surroundings.Reflects view mirror) (reflects : Reflects view recorded world image)
    (work : PageWork) : (image.serve mirror work).2 = (world.serve surroundings work).2 ∧
      Reflects view recorded (world.serve surroundings work).1 (image.serve mirror work).1 := by
  unfold World.serve World.report
  simp only [reflects.state, mirrors.serves, reflects.now, reflects.channel, Service.seen, true_and]
  exact { reflects with state := rfl, channel := rfl, now := rfl }

theorem attendWork (mirrors : surroundings.Reflects view mirror) (reflects : Reflects view recorded world image)
    (hold : Option Hold) (work : PageWork) :
    (image.attendWork mirror hold work).2 = (world.attendWork surroundings hold work).2 ∧
      Reflects view recorded (world.attendWork surroundings hold work).1 (image.attendWork mirror hold work).1 := by
  obtain ⟨same, after⟩ := reflects.serve mirrors work
  unfold World.attendWork
  split
  · rw [reflects.now]
    exact ⟨rfl, reflects⟩
  · rcases served : world.serve surroundings work with ⟨later, finish, outcome⟩
    rcases seen : image.serve mirror work with ⟨laterImage, ending⟩
    rw [served, seen] at same after
    cases (same : ending = (finish, outcome))
    dsimp only
    rw [after.now]
    exact ⟨rfl, after⟩

theorem attendWorkBy (mirrors : surroundings.Reflects view mirror) (reflects : Reflects view recorded world image)
    (hold : Option Hold) (deadline : Nat) (work : PageWork) :
    (image.attendWorkBy mirror hold deadline work).2 = (world.attendWorkBy surroundings hold deadline work).2 ∧
      Reflects view recorded (world.attendWorkBy surroundings hold deadline work).1
        (image.attendWorkBy mirror hold deadline work).1 := by
  obtain ⟨replies, after⟩ := reflects.attendWork mirrors hold work
  unfold World.attendWorkBy
  rcases attended : world.attendWork surroundings hold work with ⟨later, reply⟩
  rcases mirrored : image.attendWork mirror hold work with ⟨seen, seenReply⟩
  rw [attended, mirrored] at replies after
  cases (replies : seenReply = reply)
  cases reply with
  | answer outcome => exact ⟨rfl, after⟩
  | wait hold =>
    dsimp only
    rw [after.now]
    exact ⟨rfl, after⟩
  | gone => exact ⟨rfl, after⟩

/-- Races begin alike whose cases go on alike. -/
theorem startRace (mirrors : surroundings.Reflects view mirror) (atOnce : surroundings.setup.CustomBeginsAtOnce)
    (reflects : Reflects view recorded world image) (records : Records) {cases elided : List (List Action)}
    (alike : List.Forall₂ (fun steps elidedSteps => ∀ selector previous, Job.Elides (recorded records.ledger)
      (Run.performCase surroundings.setup selector false steps previous).run
      (Run.performCase surroundings.setup selector false elidedSteps previous).run) cases elided)
    (selector : String) (previous : Json) :
    Reflects view recorded (world.startRace surroundings records cases selector previous)
      (image.startRace mirror records elided selector previous) where
  state := reflects.state
  channel := reflects.channel
  now := reflects.now
  storages := reflects.storages
  ledgers := reflects.ledgers
  checks := reflects.checks
  races := by
    unfold World.startRace
    rw [reflects.races, alike.length_eq]
  background := by
    refine List.rel_append reflects.background ?_
    rw [mirrors.setup, reflects.races]
    refine List.forall₂_map_left_iff.mpr (List.forall₂_map_right_iff.mpr (alike.imp fun steps elidedSteps same => ?_))
    exact .begins records _ (same selector previous)
      (Run.beginsAtOnce_performCase atOnce selector false steps previous)
      (Run.beginsAtOnce_performCase atOnce selector false elidedSteps previous)
  incidents := reflects.incidents
  known := reflects.known

theorem attendRace (mirrors : surroundings.Reflects view mirror) (atOnce : surroundings.setup.CustomBeginsAtOnce)
    (reflects : Reflects view recorded world image) (hold : Option Hold) (records : Records)
    {cases elided : List (List Action)}
    (alike : List.Forall₂ (fun steps elidedSteps => ∀ selector previous, Job.Elides (recorded records.ledger)
      (Run.performCase surroundings.setup selector false steps previous).run
      (Run.performCase surroundings.setup selector false elidedSteps previous).run) cases elided)
    (selector : String) (previous : Json) :
    (image.attendRace mirror hold records elided selector previous).2 =
        (world.attendRace surroundings hold records cases selector previous).2 ∧
      Reflects view recorded (world.attendRace surroundings hold records cases selector previous).1
        (image.attendRace mirror hold records elided selector previous).1 := by
  unfold World.attendRace
  split
  · rw [reflects.raceOutcome?]
    split <;> exact ⟨rfl, reflects⟩
  · rw [reflects.races]
    exact ⟨rfl, reflects.startRace mirrors atOnce records alike selector previous⟩

/-- A request has the same reply. -/
theorem attend (mirrors : surroundings.Reflects view mirror) (atOnce : surroundings.setup.CustomBeginsAtOnce)
    (reflects : Reflects view recorded world image) (records : Records) (race : Option Nat) (hold : Option Hold)
    (request : Request) : (image.attend mirror records race hold request).2 =
        (world.attend surroundings records race hold request).2 ∧
      Reflects view recorded (world.attend surroundings records race hold request).1
        (image.attend mirror records race hold request).1 := by
  cases request with
  | ask work => exact reflects.attendWork mirrors hold work
  | askBy deadline work => exact reflects.attendWorkBy mirrors hold deadline work
  | convert steps value =>
    unfold World.attend
    dsimp only
    rw [mirrors.transforms, reflects.storage]
    exact ⟨rfl, reflects.withStorage records _⟩
  | keep name value =>
    unfold World.attend
    dsimp only
    rw [reflects.storage]
    exact ⟨rfl, reflects.withStorage records _⟩
  | isDone identity =>
    unfold World.attend
    dsimp only
    rw [reflects.ledger]
    exact ⟨rfl, reflects⟩
  | record identity =>
    refine ⟨rfl, { reflects with ledgers := ?_, known := fun ledger recorded holds => ?_ }⟩
    · show image.ledgers.setIfInBounds _ ((image.ledger records).insert identity) = _
      rw [reflects.ledgers, reflects.ledger]
      rfl
    · exact attend_hasDone records race hold (.record identity) (reflects.known ledger recorded holds)
  | subscribe =>
    unfold World.attend
    dsimp only
    rw [reflects.channel]
    exact ⟨rfl, reflects.withChannel _⟩
  | listen subscription limit awaited =>
    unfold World.attend
    dsimp only
    rw [reflects.channel]
    cases world.channel.hear? subscription awaited with
    | none =>
      dsimp only
      rw [reflects.now]
      exact ⟨rfl, reflects⟩
    | some found => exact ⟨rfl, reflects.withChannel found.1⟩
  | isBroken breaker =>
    unfold World.attend World.consult World.countCheck World.checkCount
    dsimp only
    rw [reflects.state, reflects.now, reflects.checks, mirrors.consults]
    exact ⟨rfl, { reflects with state := rfl, now := rfl, checks := rfl }⟩
  | now =>
    unfold World.attend
    dsimp only
    rw [reflects.now]
    exact ⟨rfl, reflects⟩
  | sleepUntil time =>
    unfold World.attend
    dsimp only
    rw [reflects.now]
    exact ⟨rfl, reflects⟩
  | race cases selector previous =>
    exact reflects.attendRace mirrors atOnce hold records (List.forall₂_same.mpr fun _ _ _ _ => .refl _) selector previous
  | win value =>
    cases race with
    | none => exact ⟨rfl, reflects⟩
    | some race => exact ⟨rfl, reflects.withRace race _⟩
  | perish => exact ⟨rfl, reflects⟩

/-! ### Processes -/

/-- A job that asks for what is recorded is told so and goes on. -/
theorem isDone_of_known (reflects : Reflects view recorded world image) {records : Records} {identity : Nat}
    (known : recorded records.ledger identity = true) (race : Option Nat) (hold : Option Hold) :
    world.attend surroundings records race hold (.isDone identity) = (world, .answer true) := by
  have done : (world.ledger records).contains identity = true := reflects.known _ _ known
  unfold World.attend
  dsimp only
  rw [done]

/-- Processes have got equally far, and the world around one reflects that around the other. -/
structure Abreast (view : σ → τ) (recorded : Nat → Nat → Bool) (run : World σ × Progress α)
    (mirrored : World τ × Progress α) : Prop where
  world : Reflects view recorded run.1 mirrored.1
  progress : Progress.Elides recorded run.2 mirrored.2

section Rounds

variable (mirrors : surroundings.Reflects view mirror) (atOnce : surroundings.setup.CustomBeginsAtOnce)

include mirrors atOnce

/-- Processes at the same request get equally far, if they do behind it. -/
theorem runJob_request (reflects : Reflects view recorded world image) (records : Records) (race : Option Nat)
    (hold : Option Hold) (request : Request) {next next' : request.Answer → Job α}
    (alike : ∀ answer, Job.Elides (recorded records.ledger) (next answer) (next' answer))
    (behind : ∀ answer {world : World σ} {image : World τ}, Reflects view recorded world image →
      Abreast view recorded (runJob surroundings records race (next answer) none world)
        (runJob mirror records race (next' answer) none image)) :
    Abreast view recorded (runJob surroundings records race (.request request next) hold world)
      (runJob mirror records race (.request request next') hold image) := by
  obtain ⟨same, after⟩ := reflects.attend mirrors atOnce records race hold request
  unfold World.runJob
  rcases attended : world.attend surroundings records race hold request with ⟨later, reply⟩
  rcases mirrored : image.attend mirror records race hold request with ⟨laterImage, seen⟩
  rw [attended, mirrored] at same after
  cases (same : seen = reply)
  cases reply with
  | answer answer => exact behind answer after
  | wait hold => exact ⟨after, .waiting (.goesOn records race hold (.request request alike))⟩
  | gone => exact ⟨after, .ended none⟩

/-- Processes that wait for the same race get equally far, if they do behind it, though steps of its cases have been
left out. -/
theorem runJob_race (reflects : Reflects view recorded world image) (records : Records) (race : Option Nat)
    (hold : Option Hold) (cases : List (List Action)) (selector : String) (previous : Json)
    {next next' : Except Failure Json → Job α}
    (alike : ∀ outcome, Job.Elides (recorded records.ledger) (next outcome) (next' outcome))
    (behind : ∀ outcome {world : World σ} {image : World τ}, Reflects view recorded world image →
      Abreast view recorded (runJob surroundings records race (next outcome) none world)
        (runJob mirror records race (next' outcome) none image)) :
    Abreast view recorded (runJob surroundings records race (.request (.race cases selector previous) next) hold world)
      (runJob mirror records race
        (.request (.race (Action.elideCases (recorded records.ledger) cases) selector previous) next') hold image) := by
  have spared : List.Forall₂ (fun steps elidedSteps => ∀ selector previous, Job.Elides (recorded records.ledger)
      (Run.performCase surroundings.setup selector false steps previous).run
      (Run.performCase surroundings.setup selector false elidedSteps previous).run) cases
      (Action.elideCases (recorded records.ledger) cases) := by
    rw [Action.elideCases_eq_map, List.forall₂_map_right_iff, List.forall₂_same]
    exact fun steps _ selector previous => Run.elides_performCase _ selector false steps previous
  obtain ⟨same, after⟩ := reflects.attendRace mirrors atOnce hold records spared selector previous
  unfold World.runJob
  rcases attended : world.attend surroundings records race hold (.race cases selector previous) with ⟨later, reply⟩
  rcases mirrored : image.attend mirror records race hold
    (.race (Action.elideCases (recorded records.ledger) cases) selector previous) with ⟨laterImage, seen⟩
  rw [show world.attendRace surroundings hold records cases selector previous = _ from attended,
    show image.attendRace mirror hold records (Action.elideCases (recorded records.ledger) cases) selector previous = _
      from mirrored] at same after
  cases (same : seen = reply)
  cases reply with
  | answer outcome => exact behind outcome after
  | wait hold => exact ⟨after, .waiting (.goesOn records race hold (.race cases selector previous alike))⟩
  | gone => exact ⟨after, .ended none⟩

/-- Processes that go on alike get equally far. -/
theorem runJob (records : Records) (race : Option Nat) {job elided : Job α}
    (alike : Job.Elides (recorded records.ledger) job elided) (reflects : Reflects view recorded world image) :
    Abreast view recorded (World.runJob surroundings records race job none world)
      (World.runJob mirror records race elided none image) := by
  induction alike generalizing world image with
  | done value => exact ⟨reflects, .ended (some value)⟩
  | request request alike inductionHypothesis =>
    exact reflects.runJob_request mirrors atOnce records race none request alike fun answer => inductionHypothesis answer
  | race cases selector previous alike inductionHypothesis =>
    exact reflects.runJob_race mirrors atOnce records race none cases selector previous alike
      fun outcome => inductionHypothesis outcome
  | passed known alike inductionHypothesis =>
    rw [World.runJob, reflects.isDone_of_known known]
    exact inductionHypothesis reflects

theorem runUntilWait (reflects : Reflects view recorded world image) {process elided : Process α}
    (alike : Process.Elides recorded process elided) :
    Abreast view recorded (world.runUntilWait surroundings process) (image.runUntilWait mirror elided) := by
  cases alike with
  | begins records race alike _ _ => exact runJob mirrors atOnce records race alike reflects
  | goesOn records race hold level =>
    cases level with
    | done value => exact ⟨reflects, .ended (some value)⟩
    | request request alike =>
      exact reflects.runJob_request mirrors atOnce records race hold request alike
        fun answer => runJob mirrors atOnce records race (alike answer)
    | race cases selector previous alike =>
      exact reflects.runJob_race mirrors atOnce records race hold cases selector previous alike
        fun outcome => runJob mirrors atOnce records race (alike outcome)

omit mirrors atOnce in
theorem leaveRace (reflects : Reflects view recorded world image) (race : Nat)
    (outcome : Option (Except Failure Json)) :
    Reflects view recorded (world.leaveRace race outcome) (image.leaveRace race outcome) := by
  cases outcome with
  | none => exact reflects.withRace race _
  | some outcome => exact (reflects.withRace race _).withRace race _

/-- A process in the background stays there in both worlds, or has ended in both. -/
theorem runInBackground (reflects : Reflects view recorded world image) {runner elided : Runner}
    (alike : Process.Elides recorded runner elided) :
    Reflects view recorded (world.runInBackground surroundings runner).1 (image.runInBackground mirror elided).1 ∧
      Option.Rel (Process.Elides recorded) (world.runInBackground surroundings runner).2
        (image.runInBackground mirror elided).2 := by
  have sameRace : elided.race = runner.race := by cases alike <;> rfl
  obtain ⟨after, progress⟩ := reflects.runUntilWait mirrors atOnce alike
  unfold World.runInBackground
  rcases ran : world.runUntilWait surroundings runner with ⟨later, got⟩
  rcases mirrored : image.runUntilWait mirror elided with ⟨laterImage, gotAlso⟩
  rw [ran, mirrored] at after progress
  cases progress with
  | waiting alike => exact ⟨after, .some alike⟩
  | ended outcome =>
    dsimp only
    rw [sameRace]
    split
    · exact ⟨after.leaveRace _ outcome, .none⟩
    · exact ⟨after, .none⟩

/-- In one round, the processes in the background go on alike. -/
theorem passOver {pending pendingImage : List Runner}
    (alike : List.Forall₂ (Process.Elides recorded) pending pendingImage) {kept keptImage : List Runner}
    (keptAlike : List.Forall₂ (Process.Elides recorded) kept keptImage) (moved : Bool)
    (reflects : Reflects view recorded world image) :
    (World.passOver mirror pendingImage keptImage moved image).2 =
        (World.passOver surroundings pending kept moved world).2 ∧
      Reflects view recorded (World.passOver surroundings pending kept moved world).1
        (World.passOver mirror pendingImage keptImage moved image).1 := by
  induction alike generalizing kept keptImage moved world image with
  | nil =>
    exact ⟨rfl, { reflects with background := List.rel_append (List.rel_reverse keptAlike) reflects.background }⟩
  | @cons runner elided pending pendingImage here _ inductionHypothesis =>
    unfold World.passOver
    rw [reflects.isReady here]
    split
    · obtain ⟨after, stays⟩ := reflects.runInBackground mirrors atOnce here
      rcases ran : world.runInBackground surroundings runner with ⟨later, left⟩
      rcases mirrored : image.runInBackground mirror elided with ⟨laterImage, leftAlso⟩
      rw [ran, mirrored] at after stays
      cases stays with
      | some alike => exact inductionHypothesis (.cons alike keptAlike) true after
      | none => exact inductionHypothesis keptAlike true after
    · exact inductionHypothesis (.cons here keptAlike) moved reflects

theorem settle (limit : Nat) (reflects : Reflects view recorded world image) :
    Reflects view recorded (World.settle surroundings limit world) (World.settle mirror limit image) := by
  induction limit generalizing world image with
  | zero => exact reflects
  | succ limit inductionHypothesis =>
    have emptied : Reflects view recorded { world with background := [] } { image with background := [] } :=
      { reflects with background := .nil }
    obtain ⟨same, after⟩ := emptied.passOver mirrors atOnce reflects.background .nil false
    unfold World.settle
    rcases passed : World.passOver surroundings world.background [] false { world with background := [] } with
      ⟨later, moved⟩
    rcases mirrored : World.passOver mirror image.background [] false { image with background := [] } with
      ⟨laterImage, movedAlso⟩
    rw [passed, mirrored] at same after
    cases (same : movedAlso = moved)
    cases moved with
    | true => exact inductionHypothesis after
    | false => exact after

end Rounds

/-! ### Moments -/

theorem undergo (reflects : Reflects view recorded world image) {incident : Incident σ} {shown : Incident τ}
    (alike : incident.Reflects view shown) : Reflects view recorded (world.undergo incident) (image.undergo shown) := by
  unfold World.undergo World.report
  rw [alike.closes, reflects.state, alike.changes]
  dsimp only
  rw [reflects.channel]
  split
  · exact { reflects with state := rfl, channel := rfl }
  · exact { reflects with state := rfl, channel := rfl }

theorem undergoDue (reflects : Reflects view recorded world image) :
    Reflects view recorded world.undergoDue image.undergoDue := by
  have all : ∀ {incidents : List (Incident σ)} {shown : List (Incident τ)},
      List.Forall₂ (Incident.Reflects view) incidents shown → ∀ {world : World σ} {image : World τ},
      Reflects view recorded world image →
      Reflects view recorded (incidents.foldl World.undergo world) (shown.foldl World.undergo image) := by
    intro incidents shown alike
    induction alike with
    | nil => exact id
    | cons here _ inductionHypothesis => exact fun reflects => inductionHypothesis (reflects.undergo here)
  have cut : ∀ {incidents : List (Incident σ)} {shown : List (Incident τ)},
      List.Forall₂ (Incident.Reflects view) incidents shown →
      List.Forall₂ (Incident.Reflects view) (incidents.takeWhile fun incident => decide (incident.time ≤ world.now))
          (shown.takeWhile fun incident => decide (incident.time ≤ world.now)) ∧
        List.Forall₂ (Incident.Reflects view) (incidents.dropWhile fun incident => decide (incident.time ≤ world.now))
          (shown.dropWhile fun incident => decide (incident.time ≤ world.now)) := by
    intro incidents shown alike
    induction alike with
    | nil => exact ⟨.nil, .nil⟩
    | cons here there inductionHypothesis =>
      simp only [List.takeWhile_cons, List.dropWhile_cons, here.time]
      split
      · exact ⟨.cons here inductionHypothesis.1, inductionHypothesis.2⟩
      · exact ⟨.nil, .cons here there⟩
  obtain ⟨due, later⟩ := cut reflects.incidents
  unfold World.undergoDue
  rw [reflects.now]
  exact all due { reflects with now := rfl, incidents := later }

theorem nextMoment? (reflects : Reflects view recorded world image) {process elided : Process α}
    (alike : Process.Elides recorded process elided) : image.nextMoment? elided = world.nextMoment? process := by
  have background : image.background.filterMap image.dueTime? = world.background.filterMap world.dueTime? := by
    have all : ∀ {runners shown : List Runner}, List.Forall₂ (Process.Elides recorded) runners shown →
        shown.filterMap image.dueTime? = runners.filterMap world.dueTime? := by
      intro runners shown alike
      induction alike with
      | nil => rfl
      | cons here _ inductionHypothesis =>
        rw [List.filterMap_cons, List.filterMap_cons, reflects.dueTime? here, inductionHypothesis]
    exact all reflects.background
  have first : image.incidents.head?.map Incident.time = world.incidents.head?.map Incident.time := by
    have coming := reflects.incidents
    generalize world.incidents = incidents, image.incidents = shown at coming ⊢
    cases coming with
    | nil => rfl
    | cons here _ => exact congrArg some here.time
  unfold World.nextMoment?
  rw [reflects.dueTime? alike, background, first]

theorem runInFront (mirrors : surroundings.Reflects view mirror) (atOnce : surroundings.setup.CustomBeginsAtOnce)
    (limit : Nat) (reflects : Reflects view recorded world image) {process elided : Process α}
    (alike : Process.Elides recorded process elided) :
    (image.runInFront mirror limit elided).2 = (world.runInFront surroundings limit process).2 ∧
      Reflects view recorded (world.runInFront surroundings limit process).1
        (image.runInFront mirror limit elided).1 := by
  induction limit generalizing world image process elided with
  | zero => exact ⟨rfl, reflects⟩
  | succ limit inductionHypothesis =>
    obtain ⟨after, progress⟩ := reflects.runUntilWait mirrors atOnce alike
    unfold World.runInFront
    rcases ran : world.runUntilWait surroundings process with ⟨later, got⟩
    rcases mirrored : image.runUntilWait mirror elided with ⟨laterImage, gotAlso⟩
    rw [ran, mirrored] at after progress
    cases progress with
    | ended outcome => exact ⟨rfl, after⟩
    | waiting alike =>
      have settled := after.undergoDue.settle mirrors atOnce bound
      dsimp only at settled ⊢
      rw [settled.isReady alike, settled.nextMoment? alike]
      split
      · exact inductionHypothesis settled alike
      · split
        · exact ⟨rfl, settled⟩
        · rw [settled.now]
          exact inductionHypothesis (settled.withNow _) alike

/-- Scripts that go on alike have the same outcome, and leave a world and what reflects it. -/
theorem run (mirrors : surroundings.Reflects view mirror) (atOnce : surroundings.setup.CustomBeginsAtOnce)
    (reflects : Reflects view recorded world image) {records : Records} {script elided : Script α}
    (alike : Process.Elides recorded ⟨script.run, records, none, none⟩ ⟨elided.run, records, none, none⟩) :
    (image.run mirror records elided).2 = (world.run surroundings records script).2 ∧
      Reflects view recorded (world.run surroundings records script).1 (image.run mirror records elided).1 := by
  obtain ⟨same, after⟩ := reflects.runInFront mirrors atOnce bound alike
  unfold World.run
  rcases ran : world.runInFront surroundings bound (⟨script.run, records, none, none⟩ : Process (Except Failure α))
    with ⟨later, got⟩
  rcases mirrored : image.runInFront mirror bound (⟨elided.run, records, none, none⟩ : Process (Except Failure α))
    with ⟨laterImage, gotAlso⟩
  rw [ran, mirrored] at same after
  cases (same : gotAlso = got)
  cases got with
  | none => exact ⟨rfl, after⟩
  | some outcome => exact ⟨rfl, after⟩

end Reflects

end World

end Harvest
