import Harvest.Proofs.Run.Course

/-!
Contract: when a poll probes, and when and how it settles.

The page answers at once here, whatever it answers, and the breaker says anything. `Polling`
gathers what a poll depends on. `worldAt` is the world at each tick, counted from zero;
`verdict?` is what a tick settles the poll with, if it does, and `tick` what it exchanges. One
tick is a course (`course_settled`, `course_unsettled`), so by induction all ticks up to the one
that settles are, or all ticks up to the deadline.
-/

namespace Harvest

open World

structure Polling (σ : Type) where
  surroundings : Surroundings σ
  options : WaitOptions
  probe : PageCall
  accepts : Json → Bool

namespace Polling

variable {σ : Type} (polling : Polling σ)

def script : Script Json :=
  Wait.poll polling.options polling.probe polling.accepts

/-! ### One tick -/

/-- Whether the breaker of the poll says that it has tripped, and the world behind that. -/
def consult (world : World σ) : World σ × Bool :=
  match polling.options.breaker with
  | none => (world, false)
  | some breaker => world.consult polling.surroundings breaker

/-- The answer of the page to the probe, and the world behind that. -/
def ask (world : World σ) : World σ × Except Failure Json :=
  ((world.serve polling.surroundings (.call polling.probe)).1,
    (world.serve polling.surroundings (.call polling.probe)).2.2)

/-- What an answer of the page settles the poll with, if it does. -/
def judge? : Except Failure Json → Option (Except Failure Json)
  | .error failure => some (.error failure)
  | .ok value => if polling.accepts value then some (.ok value) else none

/-- What a tick settles the poll with, if it does. -/
def verdict? (world : World σ) : Option (Except Failure Json) :=
  if (polling.consult world).2 then some (.error (.waitBroken polling.options.what))
  else polling.judge? (polling.ask (polling.consult world).1).2

def behind (world : World σ) : World σ :=
  if (polling.consult world).2 then (polling.consult world).1 else (polling.ask (polling.consult world).1).1

/-- What a tick exchanges with the world about the breaker. -/
def consultation (world : World σ) : List (Nat × Exchange) :=
  match polling.options.breaker with
  | none => []
  | some breaker => [(world.now, ⟨.isBroken breaker, (polling.consult world).2⟩)]

def probing (deadline : Nat) (world : World σ) : Nat × Exchange :=
  (world.now, ⟨.askBy deadline (.call polling.probe), some (polling.ask world).2⟩)

/-- What a tick exchanges with the world: it consults the breaker, and if that has not tripped it probes the page. -/
def tick (deadline : Nat) (world : World σ) : List (Nat × Exchange) :=
  (world.now, ⟨.sleepUntil world.now, ()⟩) :: (world.now, ⟨.now, world.now⟩) :: (polling.consultation world ++
    if (polling.consult world).2 then [] else [polling.probing deadline (polling.consult world).1])

/-- The page answers the probe of a tick at once. -/
def IsPromptIn (world : World σ) : Prop :=
  (polling.surroundings.serve (polling.consult world).1.state (.call polling.probe)).delay = 0

/-! ### All ticks -/

/-- The world after a number of ticks of a poll that begins in a world. -/
def after (start : World σ) : Nat → World σ
  | 0 => start
  | ticks + 1 => polling.behind { after start ticks with now := start.now + ticks * polling.options.period }

/-- The world at a tick of a poll that begins in a world, when all ticks before it are over. -/
def worldAt (start : World σ) (index : Nat) : World σ :=
  { polling.after start index with now := start.now + index * polling.options.period }

/-- The page answers every probe of a poll that begins in a world at once. -/
def IsPrompt (start : World σ) : Prop :=
  ∀ index, polling.IsPromptIn (polling.worldAt start index)

/-- When a poll that begins in a world gives up. -/
def deadline (start : World σ) : Nat :=
  start.now + polling.options.timeout

/-- What a poll that begins in a world has exchanged with it after a number of ticks. -/
def history (start : World σ) (ticks : Nat) : List (Nat × Exchange) :=
  (start.now, ⟨.now, start.now⟩) ::
    (List.range ticks).flatMap fun index => polling.tick (polling.deadline start) (polling.worldAt start index)

/-! ### The requests of a tick -/

variable {polling} {records : Records} {world : World σ}

theorem attend_consult {breaker : Breaker} (known : polling.options.breaker = some breaker) :
    world.attend polling.surroundings records none none (.isBroken breaker) =
      ((polling.consult world).1, .answer (polling.consult world).2) := by
  simp only [attend, consult, known]

theorem attend_ask (prompt : (polling.surroundings.serve world.state (.call polling.probe)).delay = 0)
    (deadline : Nat) :
    world.attend polling.surroundings records none none (.askBy deadline (.call polling.probe)) =
      ((polling.ask world).1, .answer (some (polling.ask world).2)) := by
  have atOnce : (world.serve polling.surroundings (.call polling.probe)).2.1 = world.now := by
    simp only [World.serve, prompt, Nat.add_zero]
  have sameTime : (world.serve polling.surroundings (.call polling.probe)).1.now = world.now := rfl
  simp only [attend, attendWorkBy, attendWork, atOnce, sameTime, Nat.le_refl, if_true, ask]

theorem consult_now : (polling.consult world).1.now = world.now := by
  unfold consult
  cases polling.options.breaker <;> rfl

theorem behind_now : (polling.behind world).now = world.now := by
  unfold behind
  split
  · exact consult_now
  · exact consult_now

/-- A tick is over before the next one is due. -/
theorem after_now (start : World σ) (index : Nat) :
    (polling.after start index).now ≤ start.now + index * polling.options.period := by
  cases index with
  | zero => simp [after]
  | succ index =>
    have same : (polling.after start (index + 1)).now = start.now + index * polling.options.period := behind_now
    rw [same, Nat.add_mul]
    omega

/-- The breaker lets the poll go on, or ends it. -/
theorem course_consult :
    Course polling.surroundings records 0 world (Wait.checkBreaker polling.options).run (polling.consultation world)
      (polling.consult world).1
      (.done (if (polling.consult world).2 then .error (.waitBroken polling.options.what) else .ok ())) := by
  cases known : polling.options.breaker with
  | none =>
    simp only [Wait.checkBreaker, consultation, consult, known]
    exact .stay world _
  | some breaker =>
    have asked : Course polling.surroundings records 0 world (Script.isBroken breaker).run
        (polling.consultation world) (polling.consult world).1 (.done (.ok (polling.consult world).2)) := by
      rw [consultation, known]
      exact .answered (attend_consult known) (.stay _ _)
    rw [Wait.checkBreaker, known]
    apply asked.andThen_done
    cases (polling.consult world).2 <;> rfl

/-- A tick that is due by the deadline settles the poll, or the poll goes on with the next tick. -/
theorem course_tick {awake : World σ} (prompt : polling.IsPromptIn awake)
    (woken : { world with now := awake.now } = awake)
    (ahead : world.now ≤ awake.now) {deadline : Nat} (inTime : awake.now ≤ deadline) (ticks : Nat) :
    Course polling.surroundings records 1 world
      (Wait.pollFrom polling.options polling.probe polling.accepts deadline (ticks + 1) awake.now).run
      (polling.tick deadline awake) (polling.behind awake)
      ((polling.verdict? awake).elim
        (Wait.pollFrom polling.options polling.probe polling.accepts deadline ticks
          (awake.now + polling.options.period)).run
        Job.done) := by
  have onTime : ¬ awake.now > deadline := Nat.not_lt.mpr inTime
  have punctual : Wait.nextDue polling.options awake.now awake.now = awake.now + polling.options.period :=
    if_neg (Nat.not_lt.mpr (Nat.le_add_right awake.now Wait.tolerance))
  have toldTime : awake.attend polling.surroundings records none none .now = (awake, .answer awake.now) := rfl
  have consulted := @course_consult σ polling records awake
  rw [Wait.pollFrom, if_neg onTime, tick]
  -- the time is asked for on waking, and the breaker consulted before the probe
  refine .slept ahead ?_
  rw [woken]
  refine .answered toldTime ?_
  cases said : (polling.consult awake).2 with
  | true =>
    simp only [said, if_true] at consulted
    simp only [verdict?, behind, said, if_true, List.append_nil, Option.elim_some]
    exact consulted.bind_error
  | false =>
    simp only [said, Bool.false_eq_true, if_false] at consulted
    have answered := @attend_ask σ polling records (polling.consult awake).1 prompt deadline
    simp only [verdict?, behind, said, Bool.false_eq_true, if_false]
    refine consulted.bind (.answered answered ?_)
    cases told : (polling.ask (polling.consult awake).1).2 with
    | error failure => exact .stay _ _
    | ok value =>
      have judged : (if polling.accepts value = true then pure value
          else Wait.pollFrom polling.options polling.probe polling.accepts deadline ticks
            (Wait.nextDue polling.options awake.now awake.now) : Script Json).run =
          (polling.judge? (.ok value)).elim
            (Wait.pollFrom polling.options polling.probe polling.accepts deadline ticks
              (awake.now + polling.options.period)).run
            Job.done := by
        rw [judge?, punctual]
        cases polling.accepts value <;> rfl
      rw [← judged]
      exact .stay _ _

/-- The poll goes through all ticks up to one as long as none of them settles it. -/
theorem course_ticks {start : World σ} (prompt : polling.IsPrompt start) (more count : Nat)
    (unsettled : ∀ index < count, index * polling.options.period ≤ polling.options.timeout ∧
      polling.verdict? (polling.worldAt start index) = none) :
    Course polling.surroundings records count start
      (Wait.pollFrom polling.options polling.probe polling.accepts (polling.deadline start) (more + count) start.now).run
      ((List.range count).flatMap fun index => polling.tick (polling.deadline start) (polling.worldAt start index))
      (polling.after start count)
      (Wait.pollFrom polling.options polling.probe polling.accepts (polling.deadline start) more
        (start.now + count * polling.options.period)).run := by
  -- by the number of ticks gone through; `more` is what is left of the bound on ticks
  induction count generalizing more with
  | zero =>
    rw [Nat.zero_mul]
    exact .stay _ _
  | succ count inductionHypothesis =>
    have formerly := inductionHypothesis (more + 1) fun index before => unsettled index (Nat.lt_succ_of_lt before)
    have here := unsettled count (Nat.lt_succ_self count)
    have inTime : (polling.worldAt start count).now ≤ polling.deadline start := Nat.add_le_add_left here.1 start.now
    have now := @course_tick σ polling records (polling.after start count) (polling.worldAt start count) (prompt count) rfl
      (after_now start count) (polling.deadline start) inTime more
    rw [here.2, Option.elim_none] at now
    have due : (polling.worldAt start count).now + polling.options.period =
        start.now + (count + 1) * polling.options.period := by
      show start.now + count * polling.options.period + polling.options.period = _
      rw [Nat.succ_mul, Nat.add_assoc]
    rw [due] at now
    have fuel : more + (count + 1) = more + 1 + count := by omega
    rw [List.range_succ, List.flatMap_append, List.flatMap_singleton, fuel]
    exact formerly.append now

/-! ### The poll -/

/-- The poll, begun in a world, comes to an outcome in another one, in a number of moments, and all that it has
exchanged is this. If a run can reach that many moments, a run of the poll is that. -/
structure Settles (polling : Polling σ) (records : Records) (start : World σ) (moments : Nat) (last : World σ)
    (exchanged : List (Nat × Exchange)) (outcome : Except Failure Json) : Prop where
  course : Course polling.surroundings records moments start polling.script.run exchanged last (.done outcome)
  run : moments < World.bound → start.run polling.surroundings records polling.script = (last, outcome)

theorem Settles.of_ticks {start last : World σ} {moments : Nat} {exchanged : List (Nat × Exchange)}
    {outcome : Except Failure Json} (quiet : start.IsQuiet)
    (ticks : Course polling.surroundings records moments start
      (Wait.pollFrom polling.options polling.probe polling.accepts (polling.deadline start) polling.options.tickBound
        start.now).run
      exchanged last (.done outcome)) :
    polling.Settles records start moments last ((start.now, ⟨.now, start.now⟩) :: exchanged) outcome := by
  have toldTime : start.attend polling.surroundings records none none .now = (start, .answer start.now) := rfl
  have whole : Course polling.surroundings records moments start polling.script.run
      ((start.now, ⟨.now, start.now⟩) :: exchanged) last (.done outcome) := .answered toldTime ticks
  exact ⟨whole, run_of_course whole quiet⟩

theorem period_pos : 0 < polling.options.period :=
  Nat.lt_of_lt_of_le Nat.one_pos (Nat.le_max_left 1 polling.options.interval)

def tickCount (polling : Polling σ) : Nat :=
  polling.options.timeout / polling.options.period + 1

theorem lt_tickCount_iff {index : Nat} :
    index < polling.tickCount ↔ index * polling.options.period ≤ polling.options.timeout := by
  rw [tickCount, Nat.lt_succ_iff]
  exact Nat.le_div_iff_mul_le period_pos

theorem settles_with_verdict {start : World σ} (quiet : start.IsQuiet) (prompt : polling.IsPrompt start) {index : Nat}
    {outcome : Except Failure Json} (inTime : index < polling.tickCount)
    (unsettled : ∀ former < index, polling.verdict? (polling.worldAt start former) = none)
    (settled : polling.verdict? (polling.worldAt start index) = some outcome) :
    polling.Settles records start (index + 1) (polling.after start (index + 1)) (polling.history start (index + 1))
      outcome := by
  obtain ⟨more, fuel⟩ : ∃ more, polling.options.tickBound = more + 1 + index :=
    ⟨polling.tickCount - index, by unfold WaitOptions.tickBound; unfold tickCount at *; omega⟩
  have formerTicks := @course_ticks σ polling records start prompt (more + 1) index fun former before =>
    ⟨lt_tickCount_iff.mp (Nat.lt_trans before inTime), unsettled former before⟩
  have byDeadline : (polling.worldAt start index).now ≤ polling.deadline start :=
    Nat.add_le_add_left (lt_tickCount_iff.mp inTime) start.now
  have lastTick := @course_tick σ polling records (polling.after start index) (polling.worldAt start index) (prompt index) rfl
    (after_now start index) (polling.deadline start) byDeadline more
  rw [settled, Option.elim_some] at lastTick
  have ticks := formerTicks.append lastTick
  rw [← fuel] at ticks
  rw [history, List.range_succ, List.flatMap_append, List.flatMap_singleton]
  exact .of_ticks quiet ticks

theorem settles_at_deadline {start : World σ} (quiet : start.IsQuiet) (prompt : polling.IsPrompt start)
    (unsettled : ∀ index < polling.tickCount, polling.verdict? (polling.worldAt start index) = none) :
    polling.Settles records start (polling.tickCount + 1)
      { polling.after start polling.tickCount with now := polling.deadline start }
      (polling.history start polling.tickCount ++
        [(polling.deadline start, ⟨.sleepUntil (polling.deadline start), ()⟩)])
      (.error (.waitTimeout polling.options.what polling.options.timeout)) := by
  have ticks := @course_ticks σ polling records start prompt 1 polling.tickCount fun index before =>
    ⟨lt_tickCount_iff.mp before, unsettled index before⟩
  have fuel : 1 + polling.tickCount = polling.options.tickBound := by
    unfold tickCount WaitOptions.tickBound
    omega
  have late : start.now + polling.tickCount * polling.options.period > polling.deadline start := by
    have beyond := mt (@lt_tickCount_iff σ polling polling.tickCount).mpr (Nat.lt_irrefl _)
    unfold deadline
    omega
  have ahead : (polling.after start polling.tickCount).now ≤ polling.deadline start := by
    have elapsed : (polling.after start polling.tickCount).now =
        start.now + polling.options.timeout / polling.options.period * polling.options.period := behind_now
    have bounded := Nat.div_mul_le_self polling.options.timeout polling.options.period
    unfold deadline
    omega
  rw [fuel, Wait.pollFrom, if_pos late] at ticks
  exact .of_ticks quiet (ticks.append (.slept ahead (.stay _ _)))

/-- A poll settles at the first tick by the deadline that settles it, and without such a tick it gives up at the
deadline. It exchanges nothing with the world but its ticks up to then, each at its time. -/
theorem settles_at_first_verdict_or_deadline (records : Records) {start : World σ} (quiet : start.IsQuiet)
    (prompt : polling.IsPrompt start) :
    (∀ index outcome, index * polling.options.period ≤ polling.options.timeout →
      (∀ former < index, polling.verdict? (polling.worldAt start former) = none) →
      polling.verdict? (polling.worldAt start index) = some outcome →
        polling.Settles records start (index + 1) (polling.after start (index + 1)) (polling.history start (index + 1))
          outcome ∧
          (polling.after start (index + 1)).now = start.now + index * polling.options.period) ∧
    ((∀ index, index * polling.options.period ≤ polling.options.timeout →
      polling.verdict? (polling.worldAt start index) = none) →
        polling.Settles records start (polling.tickCount + 1)
          { polling.after start polling.tickCount with now := polling.deadline start }
          (polling.history start polling.tickCount ++
            [(polling.deadline start, ⟨.sleepUntil (polling.deadline start), ()⟩)])
          (.error (.waitTimeout polling.options.what polling.options.timeout))) := by
  constructor
  · intro index outcome inTime unsettled settled
    exact ⟨settles_with_verdict quiet prompt (lt_tickCount_iff.mpr inTime) unsettled settled, behind_now⟩
  · intro unsettled
    exact settles_at_deadline quiet prompt fun index before => unsettled index (lt_tickCount_iff.mp before)

/-- A poll of a page that counts its probes and answers whether two have come before. The breaker trips when it has
been consulted three times. -/
def ofThird (interval timeout : Nat) : Polling Nat where
  surroundings :=
    { serve := fun probes _ => { state := probes + 1, outcome := .ok (.bool (decide (2 ≤ probes))) }
      setup := { performers := Performer.standard, settings := {} }
      transforms := {} }
  options := { what := "exist", interval := interval, timeout := timeout, breaker := some ⟨0, .checks 3⟩ }
  probe := .scrollHeight none
  accepts := Json.isTruthy

def unprobed : World Nat where
  state := 0
  channel := Channel.ofCapacity 1

/-- The third tick is due at the deadline and still settles the poll. With another timeout it is not, and the poll
gives up. -/
theorem settles_ofThird :
    unprobed.run (ofThird 10 20).surroundings ⟨0, 0⟩ (ofThird 10 20).script =
        ((ofThird 10 20).after unprobed 3, .ok (.bool true)) ∧
      ((ofThird 10 20).after unprobed 3).now = 20 ∧
      (unprobed.run (ofThird 10 19).surroundings ⟨0, 0⟩ (ofThird 10 19).script).2 =
        .error (.waitTimeout "exist" 19) := by
  have quiet : unprobed.IsQuiet := ⟨rfl, rfl⟩
  have prompt : ∀ timeout, (ofThird 10 timeout).IsPrompt unprobed := fun _ _ => rfl
  have unsettled : ∀ timeout, ∀ index < 2, (ofThird 10 timeout).verdict? ((ofThird 10 timeout).worldAt unprobed index) =
      none := by
    intro timeout index few
    obtain rfl | rfl : index = 0 ∨ index = 1 := by omega
    · rfl
    · rfl
  have third := (settles_at_first_verdict_or_deadline ⟨0, 0⟩ quiet (prompt 20)).1 2 (.ok (.bool true))
    (show 2 * 10 ≤ 20 by decide) (unsettled 20) rfl
  have never := (settles_at_first_verdict_or_deadline ⟨0, 0⟩ quiet (prompt 19)).2 fun index inTime => by
    have before : index * 10 ≤ 19 := inTime
    exact unsettled 19 index (by omega)
  refine ⟨third.1.run (by decide), third.2, ?_⟩
  rw [never.run (by decide)]
  rfl

end Polling

end Harvest
