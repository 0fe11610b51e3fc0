import Harvest.Proofs.Run.Crowd
import Harvest.Proofs.Run.Reflection

/-!
Contract: what is done already can be left out.

`World.noting` has the surroundings note what they are asked to do, which changes nothing else
(`World.runAll_noting`). Actions are performed, and whatever is run behind them is, with the same outcomes, the same
notes and the same records, when those that are recorded as done are left out at any depth.
-/

namespace Harvest

variable {σ : Type}

/-! ### Notes -/

/-- Surroundings that note what they are asked to do, in order. -/
def Surroundings.noting (surroundings : Surroundings σ) : Surroundings (σ × List PageWork) where
  serve state work :=
    let service := surroundings.serve state.1 work
    { state := (service.state, state.2 ++ [work])
      outcome := service.outcome
      delay := service.delay
      events := service.events }
  setup := surroundings.setup
  transforms := surroundings.transforms
  consult state breaker time checks :=
    let told := surroundings.consult state.1 breaker time checks
    ((told.1, state.2), told.2)

theorem Surroundings.reflects_noting (surroundings : Surroundings σ) :
    Surroundings.Reflects Prod.fst surroundings.noting surroundings where
  setup := rfl
  transforms := rfl
  serves := fun _ _ => rfl
  consults := fun _ _ _ _ => rfl

def Incident.noting (incident : Incident σ) : Incident (σ × List PageWork) where
  time := incident.time
  change state := (((incident.change state.1).1, state.2), (incident.change state.1).2)
  closesChannel := incident.closesChannel

namespace World

def noting (world : World σ) : World (σ × List PageWork) where
  state := (world.state, [])
  channel := world.channel
  now := world.now
  storages := world.storages
  ledgers := world.ledgers
  checks := world.checks
  races := world.races
  background := world.background
  incidents := world.incidents.map Incident.noting

/-- Runs scripts one behind the other, each on its records: the world behind them, and their outcomes. -/
def runAll (surroundings : Surroundings σ) : World σ → List (Records × Script Json) →
    World σ × List (Except Failure Json)
  | world, [] => (world, [])
  | world, (records, script) :: scripts =>
    let (later, outcome) := world.run surroundings records script
    let (last, outcomes) := runAll surroundings later scripts
    (last, outcome :: outcomes)

/-- What the surroundings are asked to do while scripts are run one behind the other. -/
def asked (surroundings : Surroundings σ) (world : World σ) (scripts : List (Records × Script Json)) : List PageWork :=
  (world.noting.runAll surroundings.noting scripts).1.state.2

/-- Two worlds show the same surroundings at the same time, with the same events behind and the same records. -/
structure Agrees (world other : World σ) : Prop where
  state : other.state = world.state
  channel : other.channel = world.channel
  now : other.now = world.now
  storages : other.storages = world.storages
  ledgers : other.ledgers = world.ledgers

variable {τ : Type} {view : σ → τ} {recorded : Nat → Nat → Bool} {surroundings : Surroundings σ}
  {mirror : Surroundings τ} {world : World σ} {image : World τ}

theorem Reflects.runAll (mirrors : surroundings.Reflects view mirror)
    (atOnce : surroundings.setup.CustomBeginsAtOnce) (reflects : Reflects view recorded world image)
    (scripts : List (Records × Script Json)) :
    (image.runAll mirror scripts).2 = (world.runAll surroundings scripts).2 ∧
      Reflects view recorded (world.runAll surroundings scripts).1 (image.runAll mirror scripts).1 := by
  induction scripts generalizing world image with
  | nil => exact ⟨rfl, reflects⟩
  | cons first scripts inductionHypothesis =>
    obtain ⟨records, script⟩ := first
    obtain ⟨same, after⟩ := reflects.run mirrors atOnce (@Process.Elides.goesOn _ recorded records none none _ _
      (.refl _ script.run))
    obtain ⟨others, last⟩ := inductionHypothesis after
    exact ⟨List.cons_eq_cons.mpr ⟨same, others⟩, last⟩

/-- A world reflects itself, whatever has been recorded in it. -/
theorem Reflects.self (world : World σ) : Reflects id world.hasDone world world where
  state := rfl
  channel := rfl
  now := rfl
  storages := rfl
  ledgers := rfl
  checks := rfl
  races := rfl
  background := List.forall₂_same.mpr fun runner _ => .goesOn runner.records runner.race runner.hold (.refl _ runner.job)
  incidents := List.forall₂_same.mpr fun _ _ => ⟨rfl, rfl, fun _ => rfl⟩
  known := fun _ _ done => done

/-- A world reflects one in which what it is asked is noted. -/
theorem Reflects.noting (world : World σ) : Reflects Prod.fst world.hasDone world.noting world where
  state := rfl
  channel := rfl
  now := rfl
  storages := rfl
  ledgers := rfl
  checks := rfl
  races := rfl
  background := List.forall₂_same.mpr fun runner _ => .goesOn runner.records runner.race runner.hold (.refl _ runner.job)
  incidents := List.forall₂_map_left_iff.mpr (List.forall₂_same.mpr fun _ _ => ⟨rfl, rfl, fun _ => rfl⟩)
  known := fun _ _ done => done

/-- Nothing else changes when what the surroundings are asked is noted. -/
theorem runAll_noting (atOnce : surroundings.setup.CustomBeginsAtOnce) (world : World σ)
    (scripts : List (Records × Script Json)) :
    (world.noting.runAll surroundings.noting scripts).2 = (world.runAll surroundings scripts).2 ∧
      (world.noting.runAll surroundings.noting scripts).1.state.1 = (world.runAll surroundings scripts).1.state ∧
      (world.noting.runAll surroundings.noting scripts).1.storages = (world.runAll surroundings scripts).1.storages ∧
      (world.noting.runAll surroundings.noting scripts).1.ledgers = (world.runAll surroundings scripts).1.ledgers := by
  obtain ⟨same, reflects⟩ := (Reflects.noting world).runAll (Surroundings.reflects_noting surroundings) atOnce scripts
  exact ⟨same.symm, reflects.state.symm, reflects.storages.symm, reflects.ledgers.symm⟩

/-- A script and one that leaves out what is recorded come to the same, and so does all that is run behind them. -/
theorem runAll_of_elides (atOnce : surroundings.setup.CustomBeginsAtOnce) (world : World σ) {records : Records}
    {script elided : Script Json}
    (alike : Process.Elides world.hasDone ⟨script.run, records, none, none⟩ ⟨elided.run, records, none, none⟩)
    (further : List (Records × Script Json)) :
    (world.runAll surroundings ((records, elided) :: further)).2 =
        (world.runAll surroundings ((records, script) :: further)).2 ∧
      Agrees (world.runAll surroundings ((records, script) :: further)).1
        (world.runAll surroundings ((records, elided) :: further)).1 := by
  obtain ⟨same, after⟩ := (Reflects.self world).run (.refl surroundings) atOnce alike
  obtain ⟨others, last⟩ := after.runAll (.refl surroundings) atOnce further
  exact ⟨List.cons_eq_cons.mpr ⟨same, others⟩, ⟨last.state, last.channel, last.now, last.storages, last.ledgers⟩⟩

/-- Actions without those that are recorded as done, and all that is run behind them, come to the same outcomes. They
ask the same of the surroundings in the same order, and leave these, the time, the events, the storages and the
ledgers the same. -/
theorem recorded_actions_make_no_difference (atOnce : surroundings.setup.CustomBeginsAtOnce) (world : World σ)
    (records : Records) (actions : List Action) (parent : String) (previous : Json)
    (further : List (Records × Script Json)) :
    let scripts := fun actions => (records, Run.performAll surroundings.setup actions parent previous) :: further
    let spared := Action.elideAll (world.hasDone records.ledger) actions
    (world.runAll surroundings (scripts spared)).2 = (world.runAll surroundings (scripts actions)).2 ∧
      world.asked surroundings (scripts spared) = world.asked surroundings (scripts actions) ∧
      Agrees (world.runAll surroundings (scripts actions)).1 (world.runAll surroundings (scripts spared)).1 := by
  intro scripts spared
  have begins := fun actions => (beginsAtOnce_practice atOnce).performAll actions parent previous
  have alike : Process.Elides world.hasDone
      ⟨(Run.performAll surroundings.setup actions parent previous).run, records, none, none⟩
      ⟨(Run.performAll surroundings.setup spared parent previous).run, records, none, none⟩ :=
    .begins records none (Run.elides_performAll surroundings.setup actions parent previous) (begins actions)
      (begins spared)
  obtain ⟨outcomes, agrees⟩ := runAll_of_elides atOnce world alike further
  obtain ⟨_, noted⟩ := @runAll_of_elides _ surroundings.noting atOnce world.noting _ _ _ alike further
  exact ⟨outcomes, congrArg Prod.snd noted.state, agrees⟩

/-- Actions of which the first is recorded in the world below: it stands by itself, among conditions and in a race, of
which one case has no other step. -/
def recordedActions : List Action :=
  let recorded : Action := .mk { identity := 0, kind := "url", once := true } [] [] none [] none
  let click : Action := .mk { identity := 1, kind := "click", scope := some "a" } [] [] none [] none
  [recorded, .mk { identity := 2, kind := "condition" } [recorded, click] [click, recorded] (some [recorded]) [] none,
    .mk { identity := 3, kind := "cases" } [] [] none [[recorded], [click, recorded]] none]

/-- The actions that are recorded in the world are left out, and make no difference. -/
theorem recordedActions_are_spared :
    let world := World.blank.record ⟨0, 0⟩ 0
    let click : Action := .mk { identity := 1, kind := "click", scope := some "a" } [] [] none [] none
    let spared : List Action :=
      [.mk { identity := 2, kind := "condition" } [click] [click] (some []) [] none,
        .mk { identity := 3, kind := "cases" } [] [] none [[], [click]] none]
    let scripts := fun actions => [((⟨0, 0⟩ : Records), Run.performAll Surroundings.echo.setup actions "" .null)]
    (world.runAll .echo (scripts spared)).2 = (world.runAll .echo (scripts recordedActions)).2 ∧
      world.asked .echo (scripts spared) = world.asked .echo (scripts recordedActions) ∧
      Agrees (world.runAll .echo (scripts recordedActions)).1 (world.runAll .echo (scripts spared)).1 := by
  intro world click spared scripts
  have atOnce : Surroundings.echo.setup.CustomBeginsAtOnce := fun kind name run registered =>
    absurd registered (Performer.find?_standard_ne_custom kind name run)
  have left : Action.elideAll (world.hasDone 0) recordedActions = spared := by
    rfl
  have same := recorded_actions_make_no_difference atOnce world ⟨0, 0⟩ recordedActions "" .null []
  rw [left] at same
  exact same

end World

end Harvest
