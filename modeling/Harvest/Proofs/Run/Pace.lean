import Harvest.Proofs.Run.Poll
import Harvest.Run.Rehearsal

/-!
Contract: the pace of a poll whose probes take any amount of time.

`Paced` says what the stays of a poll are from a tick on: a tick comes when it is due, or at once where a slow
probe has made it late, and the deadline cuts a probe that is not finished by then. `exists_passage` says that a
poll in a quiet world is paced, by induction on the ticks it may have; all bounds are derived from the pace
alone, by induction on it.
-/

namespace Harvest

open World

/-- Whether a stay is one at a piece of work that has a deadline, as probes are. -/
def Stay.isProbe (stay : Stay) : Bool :=
  match stay.exchange.request with
  | .askBy _ _ => true
  | _ => false

namespace Polling

variable {σ : Type} (polling : Polling σ)

/-! ### The stays of a tick -/

/-- How a tick begins: the poll sleeps until the tick is due and asks for the time. -/
def waking (now due : Nat) : List Stay :=
  [⟨now, max now due, ⟨.sleepUntil due, ()⟩⟩, ⟨max now due, max now due, ⟨.now, max now due⟩⟩]

/-- What the poll hears at a time about its breaker, if it has one. -/
def checked (time : Nat) (isBroken : Bool) : List Stay :=
  match polling.options.breaker with
  | none => []
  | some breaker => [⟨time, time, ⟨.isBroken breaker, isBroken⟩⟩]

/-- The probe begun at a time, given what the page makes of it. There is no answer if it is not finished by the
deadline. -/
def probed (deadline begun : Nat) (service : Service σ) : Stay where
  begun := begun
  ended := min (begun + service.delay) deadline
  exchange := ⟨.askBy deadline (.call polling.probe),
    if begun + service.delay ≤ deadline then some service.outcome else none⟩

/-- What the page makes of the probe. -/
def service (state : σ) : Service σ :=
  polling.surroundings.serve state (.call polling.probe)

/-- What a probe begun at a time settles the poll with, if it does. -/
def settle? (deadline begun : Nat) (service : Service σ) : Option (Except Failure Json) :=
  if begun + service.delay ≤ deadline then polling.judge? service.outcome
  else some (.error (.waitTimeout polling.options.what polling.options.timeout))

/-- A probe settles a poll with its own outcome, a value only if that is accepted, or else is not finished by the
deadline. -/
theorem settle?_cases {deadline begun : Nat} {service : Service σ} {outcome : Except Failure Json}
    (settles : polling.settle? deadline begun service = some outcome) :
    (begun + service.delay ≤ deadline ∧ service.outcome = outcome ∧
        ∀ value, outcome = .ok value → polling.accepts value = true) ∨
      (deadline < begun + service.delay ∧
        outcome = .error (.waitTimeout polling.options.what polling.options.timeout)) := by
  unfold settle? at settles
  split at settles
  case isTrue finished =>
    refine .inl ⟨finished, ?_⟩
    cases answered : service.outcome with
    | error failure =>
      rw [answered] at settles
      cases settles
      exact ⟨rfl, fun value other => nomatch other⟩
    | ok value =>
      rw [answered, judge?] at settles
      split at settles
      case isTrue accepted =>
        cases settles
        exact ⟨rfl, fun value same => Except.ok.inj same ▸ accepted⟩
      case isFalse => cases settles
  case isFalse unfinished =>
    cases settles
    exact .inr ⟨Nat.lt_of_not_le unfinished, rfl⟩

/-- The last stay of a poll is a probe, which is finished by the deadline, and this is what comes of it. -/
def EndsWithProbe (deadline settled : Nat) (stays : List Stay) (outcome : Except Failure Json) : Prop :=
  ∃ earlier begun state, stays = earlier ++ [polling.probed deadline begun (polling.service state)] ∧
    begun + (polling.service state).delay = settled ∧ settled ≤ deadline ∧ (polling.service state).outcome = outcome

/-- The last stay of a poll is the one at its breaker, which has tripped. -/
def EndsBroken (settled : Nat) (stays : List Stay) : Prop :=
  ∃ earlier breaker, stays = earlier ++ [⟨settled, settled, ⟨.isBroken breaker, true⟩⟩] ∧
    polling.options.breaker = some breaker

/-- The stays of a poll from a tick on that is due at a time, and when and how they settle the poll. -/
inductive Paced (deadline : Nat) : (now due : Nat) → List Stay → (settled : Nat) → Except Failure Json → Prop where
  | gaveUp {now due : Nat} (late : deadline < due) :
      Paced deadline now due [⟨now, max now deadline, ⟨.sleepUntil deadline, ()⟩⟩] (max now deadline)
        (.error (.waitTimeout polling.options.what polling.options.timeout))
  | broken {now due : Nat} {breaker : Breaker} (inTime : due ≤ deadline)
      (known : polling.options.breaker = some breaker) :
      Paced deadline now due (waking now due ++ polling.checked (max now due) true) (max now due)
        (.error (.waitBroken polling.options.what))
  | settled {now due : Nat} {state : σ} {outcome : Except Failure Json} (inTime : due ≤ deadline)
      (settles : polling.settle? deadline (max now due) (polling.service state) = some outcome) :
      Paced deadline now due
        (waking now due ++ (polling.checked (max now due) false ++
          [polling.probed deadline (max now due) (polling.service state)]))
        (polling.probed deadline (max now due) (polling.service state)).ended outcome
  | goesOn {now due settled : Nat} {state : σ} {stays : List Stay} {outcome : Except Failure Json}
      (inTime : due ≤ deadline)
      (unsettled : polling.settle? deadline (max now due) (polling.service state) = none)
      (behind : Paced deadline (polling.probed deadline (max now due) (polling.service state)).ended
        (Wait.nextDue polling.options due (max now due)) stays settled outcome) :
      Paced deadline now due
        (waking now due ++ (polling.checked (max now due) false ++
          polling.probed deadline (max now due) (polling.service state) :: stays))
        settled outcome

/-! ### A poll is paced -/

variable {polling} {records : Records} {world : World σ} {deadline : Nat}

/-- A sleeper wakes at the time it has asked for, or at once if that is over. -/
theorem passage_sleep {surroundings : Surroundings σ} (world : World σ) (time : Nat) :
    Passage surroundings records world (Script.sleepUntil time).run
      [⟨world.now, max world.now time, ⟨.sleepUntil time, ()⟩⟩] { world with now := max world.now time }
      (.done (.ok ())) := by
  rcases Nat.lt_or_ge world.now time with ahead | past
  · have asleep : world.attend surroundings records none none (.sleepUntil time) = (world, .wait none) := by
      simp [attend, Nat.not_le.mpr ahead]
    have woken : ({ world with now := time } : World σ).attend surroundings records none none (.sleepUntil time) =
        ({ world with now := time }, .answer ()) := by
      simp [attend]
    rw [Nat.max_eq_right (Nat.le_of_lt ahead)]
    exact .waited asleep rfl ahead woken (.stay _ _)
  · have awake : world.attend surroundings records none none (.sleepUntil time) = (world, .answer ()) := by
      simp [attend, past]
    rw [Nat.max_eq_left past]
    exact .answered awake (.stay _ _)

/-- The breaker lets the poll go on, or ends it. -/
theorem passage_checked (world : World σ) :
    Passage polling.surroundings records world (Wait.checkBreaker polling.options).run
      (polling.checked world.now (polling.consult world).2) (polling.consult world).1
      (.done (if (polling.consult world).2 then .error (.waitBroken polling.options.what) else .ok ())) := by
  cases known : polling.options.breaker with
  | none =>
    simp only [Wait.checkBreaker, checked, consult, known]
    exact .stay world _
  | some breaker =>
    have asked : Passage polling.surroundings records world (Script.isBroken breaker).run
        (polling.checked world.now (polling.consult world).2) (polling.consult world).1
        (.done (.ok (polling.consult world).2)) := by
      rw [checked, known]
      exact .answered (attend_consult known) (.stay _ _)
    rw [Wait.checkBreaker, known]
    refine asked.andThen_done ?_
    cases (polling.consult world).2 <;> rfl

/-- A probe that the page has begun to answer is over when it is finished, or at the deadline. -/
theorem attend_held (world : World σ) (finish : Nat) (outcome : Except Failure Json) (deadline : Nat) (work : PageWork) :
    world.attend polling.surroundings records none (some (.working finish outcome)) (.askBy deadline work) =
      (world, if finish ≤ world.now then .answer (some outcome)
        else if deadline ≤ world.now then .answer none else .wait (some (.working finish outcome))) := by
  simp only [attend, attendWorkBy, attendWork]
  by_cases finished : finish ≤ world.now
  · simp only [if_pos finished]
  · simp only [if_neg finished]

/-- The page begins to answer a probe when that is made. -/
theorem attend_begun (world : World σ) (deadline : Nat) :
    world.attend polling.surroundings records none none (.askBy deadline (.call polling.probe)) =
      (polling.ask world).1.attend polling.surroundings records none
        (some (.working (world.now + (polling.service world.state).delay) (polling.service world.state).outcome))
        (.askBy deadline (.call polling.probe)) :=
  rfl

/-- The page answers a probe when it is finished, or the deadline cuts it. -/
theorem passage_probed (inTime : world.now ≤ deadline) :
    ∃ later, Passage polling.surroundings records world (Script.callBy deadline polling.probe).run
      [polling.probed deadline world.now (polling.service world.state)] later
      (.done (.ok (if world.now + (polling.service world.state).delay ≤ deadline
        then some (polling.service world.state).outcome else none))) ∧
      later.now = (polling.probed deadline world.now (polling.service world.state)).ended := by
  unfold probed
  generalize served : polling.service world.state = service
  have begins := @attend_begun σ polling records world deadline
  have sameTime : (polling.ask world).1.now = world.now := rfl
  rw [served, attend_held, sameTime] at begins
  by_cases finished : service.delay = 0
  · rw [finished] at begins ⊢
    simp only [Nat.add_zero, Nat.le_refl, inTime, if_true, Nat.min_eq_left inTime] at begins ⊢
    exact ⟨_, .answered begins (.stay _ _), sameTime⟩
  · rw [if_neg (by omega)] at begins
    rcases Nat.eq_or_lt_of_le inTime with atDeadline | before
    · rw [if_pos (Nat.le_of_eq atDeadline.symm)] at begins
      rw [if_neg (by omega), Nat.min_eq_right (by omega), ← atDeadline]
      rw [← atDeadline] at begins
      exact ⟨_, .answered begins (.stay _ _), sameTime⟩
    · rw [if_neg (by omega)] at begins
      -- the time at which the process is due: that of the answer or the deadline
      generalize ends : min (world.now + service.delay) deadline = time
      have ahead : (polling.ask world).1.now < time := by omega
      have answers := @attend_held σ polling records { (polling.ask world).1 with now := time }
        (world.now + service.delay) service.outcome deadline (.call polling.probe)
      have cut : (if world.now + service.delay ≤ time then .answer (some service.outcome)
          else if deadline ≤ time then .answer none
          else .wait (some (.working (world.now + service.delay) service.outcome)) : Reply (Option (Except Failure Json))) =
          .answer (if world.now + service.delay ≤ deadline then some service.outcome else none) := by
        by_cases byDeadline : world.now + service.delay ≤ deadline
        · rw [if_pos (by omega), if_pos byDeadline]
        · rw [if_neg (by omega), if_pos (by omega), if_neg byDeadline]
      rw [show ({ (polling.ask world).1 with now := time } : World σ).now = time from rfl, cut] at answers
      exact ⟨_, .waited begins (congrArg some ends) ahead answers (.stay _ _), rfl⟩

variable (polling) in
/-- What a poll does with the answer to a probe: it is settled with it, or goes on with the next tick. -/
theorem judged_eq (deadline begun : Nat) (service : Service σ) (next : Script Json) :
    (match (if begun + service.delay ≤ deadline then some service.outcome else none) with
      | none => Wait.giveUp polling.options
      | some (.error failure) => throw failure
      | some (.ok value) => if polling.accepts value then return value else next : Script Json) =
      (polling.settle? deadline begun service).elim next Script.settled := by
  unfold settle?
  by_cases byDeadline : begun + service.delay ≤ deadline
  · rw [if_pos byDeadline, if_pos byDeadline]
    cases service.outcome with
    | error failure => rfl
    | ok value =>
      simp only [judge?]
      split <;> rfl
  · rw [if_neg byDeadline, if_neg byDeadline]
    rfl

theorem breaker_of_broken (broken : (polling.consult world).2 = true) :
    ∃ breaker, polling.options.breaker = some breaker := by
  unfold consult at broken
  cases known : polling.options.breaker with
  | none =>
    rw [known] at broken
    exact nomatch broken
  | some breaker => exact ⟨breaker, rfl⟩

variable (polling) in
/-- Time passes only while the poll sleeps and while it probes. -/
theorem countP_tick (now due : Nat) (isBroken : Bool) (behind : List Stay) :
    (waking now due ++ (polling.checked (max now due) isBroken ++ behind)).countP Stay.isLong ≤
      behind.countP Stay.isLong + 1 := by
  have brief : (polling.checked (max now due) isBroken).countP Stay.isLong = 0 := by
    unfold checked
    cases polling.options.breaker with
    | none => rfl
    | some breaker => simp [Stay.isLong]
  have awake : (waking now due).countP Stay.isLong ≤ 1 := by
    unfold waking
    rw [List.countP_cons, List.countP_cons_of_neg (by simp [Stay.isLong]), List.countP_nil]
    split <;> omega
  rw [List.countP_append, List.countP_append, brief]
  omega

variable (polling) in
/-- However late a tick comes, the next one is due a period behind it at least. -/
theorem due_add_period_le (now due : Nat) :
    due + polling.options.period ≤ Wait.nextDue polling.options due (max now due) := by
  unfold Wait.nextDue
  split <;> omega

variable (polling) (records) in
/-- A tick by the deadline settles the poll, or the poll comes to the next tick. -/
theorem passage_tick (inTime : world.now ≤ deadline) {due : Nat} (onTime : due ≤ deadline) (ticks : Nat) :
    (∃ last stays outcome,
      Passage polling.surroundings records world
        (Wait.pollFrom polling.options polling.probe polling.accepts deadline (ticks + 1) due).run stays last
        (.done outcome) ∧
      polling.Paced deadline world.now due stays last.now outcome ∧ stays.countP Stay.isLong ≤ 2) ∨
    ∃ later state,
      Passage polling.surroundings records world
        (Wait.pollFrom polling.options polling.probe polling.accepts deadline (ticks + 1) due).run
        (waking world.now due ++ (polling.checked (max world.now due) false ++
          [polling.probed deadline (max world.now due) (polling.service state)])) later
        (Wait.pollFrom polling.options polling.probe polling.accepts deadline ticks
          (Wait.nextDue polling.options due (max world.now due))).run ∧
      later.now = (polling.probed deadline (max world.now due) (polling.service state)).ended ∧
      polling.settle? deadline (max world.now due) (polling.service state) = none := by
  rw [Wait.pollFrom, if_neg (Nat.not_lt.mpr onTime)]
  have woken := @passage_sleep σ records polling.surroundings world due
  have consulted := @passage_checked σ polling records { world with now := max world.now due }
  cases said : (polling.consult { world with now := max world.now due }).2 with
  | true =>
    obtain ⟨breaker, known⟩ := breaker_of_broken said
    rw [said, if_pos rfl] at consulted
    refine .inl ⟨_, _, _, woken.bind (.answered rfl consulted.bind_error), ?_, ?_⟩
    · rw [consult_now]
      exact .broken onTime known
    · have few := countP_tick polling world.now due true []
      rw [List.append_nil] at few
      exact Nat.le_trans few (Nat.le_succ 1)
  | false =>
    rw [said, if_neg Bool.false_ne_true] at consulted
    have sameTime : (polling.consult { world with now := max world.now due }).1.now = max world.now due := consult_now
    obtain ⟨later, asked, finished⟩ := @passage_probed σ polling records
      (polling.consult { world with now := max world.now due }).1 deadline (by omega)
    rw [sameTime] at asked finished
    generalize (polling.consult { world with now := max world.now due }).1.state = state at asked finished
    have judged := judged_eq polling deadline (max world.now due) (polling.service state)
      (Wait.pollFrom polling.options polling.probe polling.accepts deadline ticks
        (Wait.nextDue polling.options due (max world.now due)))
    cases settles : polling.settle? deadline (max world.now due) (polling.service state) with
    | some outcome =>
      rw [settles] at judged
      refine .inl ⟨later, _, outcome, woken.bind (.answered rfl (consulted.bind (asked.andThen_done ?_))), ?_, ?_⟩
      · exact congrArg ExceptT.run judged
      · rw [finished]
        exact .settled onTime settles
      · exact Nat.le_trans (countP_tick _ _ _ _ _) (Nat.succ_le_succ List.countP_le_length)
    | none =>
      rw [settles] at judged
      refine .inr ⟨later, state, woken.bind (.answered rfl (consulted.bind (asked.bind ?_))), finished, settles⟩
      exact (congrArg ExceptT.run judged).symm ▸ .stay later _

variable (polling) (records) in
/-- A poll with ticks enough to reach the deadline settles, and is paced. -/
theorem exists_passage (ticks : Nat) {world : World σ} {due : Nat} (inTime : world.now ≤ deadline)
    (enough : deadline < due + ticks * polling.options.period) : ∃ last stays outcome,
      Passage polling.surroundings records world
        (Wait.pollFrom polling.options polling.probe polling.accepts deadline (ticks + 1) due).run stays last
        (.done outcome) ∧
      polling.Paced deadline world.now due stays last.now outcome ∧ stays.countP Stay.isLong ≤ 2 * ticks + 1 := by
  induction ticks generalizing world due with
  | zero =>
    have late : deadline < due := by omega
    rw [Wait.pollFrom, if_pos late]
    refine ⟨_, _, _, (passage_sleep world deadline).andThen_done rfl, .gaveUp late, ?_⟩
    exact Nat.le_trans List.countP_le_length (Nat.le_refl 1)
  | succ ticks inductionHypothesis =>
    by_cases late : deadline < due
    · rw [Wait.pollFrom, if_pos late]
      refine ⟨_, _, _, (passage_sleep world deadline).andThen_done rfl, .gaveUp late, ?_⟩
      exact Nat.le_trans List.countP_le_length (Nat.le_add_left 1 _)
    · have onTime : due ≤ deadline := Nat.le_of_not_gt late
      rcases passage_tick polling records inTime onTime (ticks + 1) with
        ⟨last, stays, outcome, passage, paced, few⟩ | ⟨later, state, reached, finished, unsettled⟩
      · exact ⟨last, stays, outcome, passage, paced, by omega⟩
      · have laterInTime : later.now ≤ deadline := by
          rw [finished]
          exact Nat.min_le_right _ _
        have moved := due_add_period_le polling world.now due
        have stillEnough : deadline < Wait.nextDue polling.options due (max world.now due) +
            ticks * polling.options.period := by
          rw [Nat.succ_mul] at enough
          omega
        obtain ⟨last, stays, outcome, passage, paced, few⟩ := inductionHypothesis laterInTime stillEnough
        rw [finished] at paced
        have whole := reached.append passage
        rw [List.append_assoc, List.append_assoc] at whole
        refine ⟨last, _, outcome, whole, .goesOn onTime unsettled paced, ?_⟩
        have counted := countP_tick polling world.now due false
          (polling.probed deadline (max world.now due) (polling.service state) :: stays)
        have oneMore : (polling.probed deadline (max world.now due) (polling.service state) :: stays).countP Stay.isLong ≤
            stays.countP Stay.isLong + 1 := by
          rw [List.countP_cons]
          split <;> omega
        exact Nat.le_trans counted (by omega)

/-! ### What follows from the pace -/

variable {now due settled : Nat} {stays : List Stay} {outcome : Except Failure Json}

/-- A tick begins with nothing but what it does until its time, which is no probe. -/
theorem of_mem_tick {isBroken : Bool} {behind : List Stay} {stay : Stay}
    (member : stay ∈ waking now due ++ (polling.checked (max now due) isBroken ++ behind)) :
    (now ≤ stay.begun ∧ stay.begun ≤ stay.ended ∧ stay.ended ≤ max now due ∧ stay.isProbe = false) ∨
      stay ∈ behind := by
  rcases List.mem_append.mp member with woken | later
  · simp only [waking, List.mem_cons, List.not_mem_nil, or_false] at woken
    rcases woken with rfl | rfl
    · exact .inl ⟨Nat.le_refl _, Nat.le_max_left _ _, Nat.le_refl _, rfl⟩
    · exact .inl ⟨Nat.le_max_left _ _, Nat.le_refl _, Nat.le_refl _, rfl⟩
  · rcases List.mem_append.mp later with heard | later
    · unfold checked at heard
      cases known : polling.options.breaker with
      | none =>
        rw [known] at heard
        exact nomatch heard
      | some breaker =>
        rw [known] at heard
        cases List.mem_singleton.mp heard
        exact .inl ⟨Nat.le_max_left _ _, Nat.le_refl _, Nat.le_refl _, rfl⟩
    · exact .inr later

variable (polling) in
/-- A probe takes its time, up to the deadline. -/
theorem probed_times {begun : Nat} (inTime : begun ≤ deadline) (service : Service σ) :
    begun ≤ (polling.probed deadline begun service).ended ∧ (polling.probed deadline begun service).ended ≤ deadline :=
  ⟨Nat.le_min.mpr ⟨Nat.le_add_right _ _, inTime⟩, Nat.min_le_right _ _⟩

namespace Paced

/-- A poll settles by the deadline, and all its stays lie before that. -/
theorem during (paced : polling.Paced deadline now due stays settled outcome) (inTime : now ≤ deadline) :
    now ≤ settled ∧ settled ≤ deadline ∧
      ∀ stay ∈ stays, now ≤ stay.begun ∧ stay.begun ≤ stay.ended ∧ stay.ended ≤ settled := by
  induction paced with
  | gaveUp late =>
    refine ⟨Nat.le_max_left _ _, Nat.max_le.mpr ⟨inTime, Nat.le_refl _⟩, fun stay member => ?_⟩
    cases List.mem_singleton.mp member
    exact ⟨Nat.le_refl _, Nat.le_max_left _ _, Nat.le_refl _⟩
  | @broken now due breaker onTime known =>
    refine ⟨Nat.le_max_left _ _, Nat.max_le.mpr ⟨inTime, onTime⟩, fun stay member => ?_⟩
    rw [← List.append_nil (polling.checked _ _)] at member
    rcases of_mem_tick member with ⟨from_, lasts, until_, _⟩ | none
    · exact ⟨from_, lasts, until_⟩
    · exact nomatch none
  | @settled now due state outcome onTime settles =>
    obtain ⟨begins, ends⟩ := probed_times polling (Nat.max_le.mpr ⟨inTime, onTime⟩) (polling.service state)
    refine ⟨Nat.le_trans (Nat.le_max_left _ _) begins, ends, fun stay member => ?_⟩
    rcases of_mem_tick member with ⟨from_, lasts, until_, _⟩ | probe
    · exact ⟨from_, lasts, Nat.le_trans until_ begins⟩
    · cases List.mem_singleton.mp probe
      exact ⟨Nat.le_max_left _ _, begins, Nat.le_refl _⟩
  | @goesOn now due settled state stays outcome onTime unsettled behind inductionHypothesis =>
    obtain ⟨begins, ends⟩ := probed_times polling (Nat.max_le.mpr ⟨inTime, onTime⟩) (polling.service state)
    obtain ⟨after, byDeadline, each⟩ := inductionHypothesis ends
    have waited := Nat.le_trans (Nat.le_max_left now due) begins
    refine ⟨Nat.le_trans waited after, byDeadline, fun stay member => ?_⟩
    rcases of_mem_tick member with ⟨from_, lasts, until_, _⟩ | later
    · exact ⟨from_, lasts, Nat.le_trans until_ (Nat.le_trans begins after)⟩
    · rcases List.mem_cons.mp later with rfl | later
      · exact ⟨Nat.le_max_left _ _, begins, after⟩
      · obtain ⟨from_, lasts, until_⟩ := each stay later
        exact ⟨Nat.le_trans waited from_, lasts, until_⟩

/-- No probe begins before the first tick is due, and each takes the time that the page takes for it. -/
theorem of_probe (paced : polling.Paced deadline now due stays settled outcome) {stay : Stay} (member : stay ∈ stays)
    (probes : stay.isProbe = true) :
    due ≤ stay.begun ∧ ∃ state, stay = polling.probed deadline stay.begun (polling.service state) := by
  induction paced with
  | gaveUp late =>
    cases List.mem_singleton.mp member
    exact nomatch probes
  | broken onTime known =>
    rw [← List.append_nil (polling.checked _ _)] at member
    rcases of_mem_tick member with ⟨_, _, _, another⟩ | none
    · exact nomatch another.symm.trans probes
    · exact nomatch none
  | @settled now due state outcome onTime settles =>
    rcases of_mem_tick member with ⟨_, _, _, another⟩ | probe
    · exact nomatch another.symm.trans probes
    · cases List.mem_singleton.mp probe
      exact ⟨Nat.le_max_right _ _, state, rfl⟩
  | @goesOn now due settled state stays outcome onTime unsettled behind inductionHypothesis =>
    rcases of_mem_tick member with ⟨_, _, _, another⟩ | later
    · exact nomatch another.symm.trans probes
    · rcases List.mem_cons.mp later with rfl | later
      · exact ⟨Nat.le_max_right _ _, state, rfl⟩
      · obtain ⟨atItsTime, served⟩ := inductionHypothesis later
        exact ⟨Nat.le_trans (Nat.le_of_add_right_le (due_add_period_le _ now due)) atItsTime, served⟩

theorem filter_tick (now due : Nat) (isBroken : Bool) (behind : List Stay) :
    (waking now due ++ (polling.checked (max now due) isBroken ++ behind)).filter Stay.isProbe =
      behind.filter Stay.isProbe := by
  have unprobed : (polling.checked (max now due) isBroken).filter Stay.isProbe = [] := by
    unfold checked
    cases polling.options.breaker <;> rfl
  rw [List.filter_append, List.filter_append, unprobed]
  rfl

/-- A probe begins only when the one before is over, and no more than the tolerance too early. -/
theorem apart (paced : polling.Paced deadline now due stays settled outcome) (inTime : now ≤ deadline) :
    (stays.filter Stay.isProbe).Pairwise fun first second => first.ended ≤ second.begun ∧
      first.begun + polling.options.period ≤ second.begun + Wait.tolerance := by
  induction paced with
  | gaveUp late => exact .nil
  | @broken now due breaker onTime known =>
    rw [← List.append_nil (polling.checked _ _), filter_tick]
    exact .nil
  | settled onTime settles =>
    rw [filter_tick]
    exact List.pairwise_singleton _ _
  | @goesOn now due settled state stays outcome onTime unsettled behind inductionHypothesis =>
    have byDeadline := (probed_times polling (Nat.max_le.mpr ⟨inTime, onTime⟩) (polling.service state)).2
    rw [filter_tick]
    refine List.pairwise_cons.mpr ⟨fun second member => ?_, inductionHypothesis byDeadline⟩
    obtain ⟨member, probes⟩ := List.mem_filter.mp member
    have afterwards := ((behind.during byDeadline).2.2 second member).1
    have atItsTime := (behind.of_probe member probes).1
    refine ⟨afterwards, ?_⟩
    show max now due + polling.options.period ≤ _
    unfold Wait.nextDue at atItsTime
    split at atItsTime <;> omega

/-- A probe among the stays of a tick and those behind it is the one of the tick, or comes behind that. -/
theorem split_tick {isBroken : Bool} {first probe : Stay} {later front back : List Stay}
    (shape : waking now due ++ (polling.checked (max now due) isBroken ++ first :: later) = front ++ probe :: back)
    (probes : probe.isProbe = true) :
    (front = waking now due ++ polling.checked (max now due) isBroken ∧ probe = first) ∨
      ∃ between, front = waking now due ++ (polling.checked (max now due) isBroken ++ first :: between) ∧
        later = between ++ probe :: back := by
  rw [← List.append_assoc] at shape
  rcases List.append_eq_append_iff.mp shape with ⟨between, reached, rest⟩ | ⟨between, reached, rest⟩
  · cases between with
    | nil =>
      rw [List.append_nil] at reached
      exact .inl ⟨reached, (List.cons.inj rest).1.symm⟩
    | cons head between =>
      obtain ⟨same, rest⟩ := List.cons.inj rest
      rw [← same] at reached
      exact .inr ⟨between, by rw [reached, List.append_assoc], rest⟩
  · cases between with
    | nil =>
      rw [List.append_nil] at reached
      exact .inl ⟨reached.symm, (List.cons.inj rest).1⟩
    | cons head between =>
      obtain ⟨rfl, _⟩ := List.cons.inj rest
      have member : probe ∈ waking now due ++ (polling.checked (max now due) isBroken ++ []) := by
        rw [List.append_nil, reached]
        exact List.mem_append_right _ List.mem_cons_self
      rcases of_mem_tick member with ⟨_, _, _, another⟩ | none
      · exact nomatch another.symm.trans probes
      · exact nomatch none

/-- The breaker has been consulted directly before each probe, and has let the poll go on. -/
theorem guarded (paced : polling.Paced deadline now due stays settled outcome) {breaker : Breaker}
    (known : polling.options.breaker = some breaker) {front back : List Stay} {probe : Stay}
    (shape : stays = front ++ probe :: back) (probes : probe.isProbe = true) :
    ∃ earlier, front = earlier ++ [⟨probe.begun, probe.begun, ⟨.isBroken breaker, false⟩⟩] := by
  have heard : ∀ time isBroken, polling.checked time isBroken = [⟨time, time, ⟨.isBroken breaker, isBroken⟩⟩] :=
    fun time isBroken => by simp only [checked, known]
  induction paced generalizing front with
  | gaveUp late =>
    have member : probe ∈ front ++ probe :: back := List.mem_append_right _ List.mem_cons_self
    rw [← shape] at member
    cases List.mem_singleton.mp member
    exact nomatch probes
  | @broken now due other onTime _ =>
    have member : probe ∈ front ++ probe :: back := List.mem_append_right _ List.mem_cons_self
    rw [← shape, ← List.append_nil (polling.checked _ _)] at member
    rcases of_mem_tick member with ⟨_, _, _, another⟩ | none
    · exact nomatch another.symm.trans probes
    · exact nomatch none
  | @settled now due state outcome onTime settles =>
    rcases split_tick shape probes with ⟨rfl, rfl⟩ | ⟨between, _, none⟩
    · exact ⟨waking now due, by rw [heard]; rfl⟩
    · exact absurd none.symm (List.append_ne_nil_of_right_ne_nil _ (List.cons_ne_nil _ _))
  | @goesOn now due settled state stays outcome onTime unsettled behind inductionHypothesis =>
    rcases split_tick shape probes with ⟨rfl, rfl⟩ | ⟨between, rfl, later⟩
    · exact ⟨waking now due, by rw [heard]; rfl⟩
    · obtain ⟨earlier, rfl⟩ := inductionHypothesis later
      exact ⟨_, by rw [← List.cons_append, ← List.append_assoc, ← List.append_assoc]⟩

/-- A poll ends with an accepted value of a probe that is finished by the deadline, with the failure of such a probe,
broken, or at the deadline. -/
theorem ends (paced : polling.Paced deadline now due stays settled outcome) (inTime : now ≤ deadline) :
    (polling.EndsWithProbe deadline settled stays outcome ∧ ∀ value, outcome = .ok value → polling.accepts value = true) ∨
      (polling.EndsBroken settled stays ∧ outcome = .error (.waitBroken polling.options.what)) ∨
      settled = deadline ∧ outcome = .error (.waitTimeout polling.options.what polling.options.timeout) := by
  induction paced with
  | gaveUp late => exact .inr (.inr ⟨Nat.max_eq_right inTime, rfl⟩)
  | @broken now due breaker onTime known =>
    refine .inr (.inl ⟨⟨waking now due, breaker, ?_, known⟩, rfl⟩)
    simp only [checked, known]
  | @settled now due state outcome onTime settles =>
    rcases polling.settle?_cases settles with ⟨finished, answered, accepted⟩ | ⟨unfinished, rfl⟩
    · have inTime : (polling.probed deadline (max now due) (polling.service state)).ended ≤ deadline := Nat.min_le_right _ _
      exact .inl ⟨⟨_, _, state, (List.append_assoc _ _ _).symm, (Nat.min_eq_left finished).symm, inTime, answered⟩,
        accepted⟩
    · exact .inr (.inr ⟨Nat.min_eq_right (Nat.le_of_lt unfinished), rfl⟩)
  | @goesOn now due settled state stays outcome onTime unsettled behind inductionHypothesis =>
    have byDeadline := (probed_times polling (Nat.max_le.mpr ⟨inTime, onTime⟩) (polling.service state)).2
    -- what comes before the last stay may be any stays
    have further : ∀ {earlier : List Stay} {last : Stay}, stays = earlier ++ [last] →
        waking now due ++ (polling.checked (max now due) false ++
          polling.probed deadline (max now due) (polling.service state) :: stays) =
          (waking now due ++ (polling.checked (max now due) false ++
            polling.probed deadline (max now due) (polling.service state) :: earlier)) ++ [last] := by
      rintro earlier last rfl
      rw [List.append_assoc, List.append_assoc, List.cons_append]
    rcases inductionHypothesis byDeadline with
      ⟨⟨earlier, begun, later, shape, answered⟩, accepted⟩ | ⟨⟨earlier, breaker, shape, known⟩, broken⟩ | gaveUp
    · exact .inl ⟨⟨_, begun, later, further shape, answered⟩, accepted⟩
    · exact .inr (.inl ⟨⟨_, breaker, further shape, known⟩, broken⟩)
    · exact .inr (.inr gaveUp)

end Paced

/-! ### The poll -/

/-- The poll, begun in a world, settles once, with an outcome in another world, and this is how it spends its time. Where
times have 64 bits, a run of the poll is that. -/
structure SettlesInTime (polling : Polling σ) (records : Records) (start last : World σ) (stays : List Stay)
    (outcome : Except Failure Json) : Prop where
  passage : Passage polling.surroundings records start polling.script.run stays last (.done outcome)
  once : ∀ other others otherOutcome,
    Passage polling.surroundings records start polling.script.run others other (.done otherOutcome) →
      other = last ∧ others = stays ∧ otherOutcome = outcome
  run : polling.options.timeout < 18446744073709551616 →
    start.run polling.surroundings records polling.script = (last, outcome)
  inTime : last.now ≤ polling.deadline start
  during : ∀ stay ∈ stays, start.now ≤ stay.begun ∧ stay.begun ≤ stay.ended ∧ stay.ended ≤ last.now
  probes : ∀ stay ∈ stays, stay.isProbe = true →
    ∃ state, stay = polling.probed (polling.deadline start) stay.begun (polling.service state)
  apart : (stays.filter Stay.isProbe).Pairwise fun first second => first.ended ≤ second.begun ∧
    first.begun + polling.options.period ≤ second.begun + Wait.tolerance
  guarded : ∀ breaker, polling.options.breaker = some breaker → ∀ front probe back, stays = front ++ probe :: back →
    probe.isProbe = true → ∃ earlier, front = earlier ++ [⟨probe.begun, probe.begun, ⟨.isBroken breaker, false⟩⟩]
  succeeds : ∀ value, outcome = .ok value → polling.accepts value = true ∧
    polling.EndsWithProbe (polling.deadline start) last.now stays (.ok value)
  fails : ∀ failure, outcome = .error failure →
    polling.EndsWithProbe (polling.deadline start) last.now stays (.error failure) ∨
      (polling.EndsBroken last.now stays ∧ failure = .waitBroken polling.options.what) ∨
      last.now = polling.deadline start ∧ failure = .waitTimeout polling.options.what polling.options.timeout

/-- A poll that has asked for the time settles as it is paced from its first tick on. -/
theorem SettlesInTime.of_paced {start last : World σ} (quiet : start.IsQuiet)
    (ticks : Passage polling.surroundings records start
      (Wait.pollFrom polling.options polling.probe polling.accepts (polling.deadline start) polling.options.tickBound
        start.now).run
      stays last (.done outcome))
    (paced : polling.Paced (polling.deadline start) start.now start.now stays last.now outcome)
    (few : stays.countP Stay.isLong ≤ 2 * polling.tickCount + 1) :
    polling.SettlesInTime records start last (⟨start.now, start.now, ⟨.now, start.now⟩⟩ :: stays) outcome := by
  have inTime : start.now ≤ polling.deadline start := Nat.le_add_right start.now _
  have whole : Passage polling.surroundings records start polling.script.run
      (⟨start.now, start.now, ⟨.now, start.now⟩⟩ :: stays) last (.done outcome) := .answered rfl ticks
  obtain ⟨begins, byDeadline, each⟩ := paced.during inTime
  have further : ∀ {earlier : List Stay} {last : Stay} (first : Stay), stays = earlier ++ [last] →
      first :: stays = (first :: earlier) ++ [last] := by
    rintro earlier last first rfl
    rfl
  have lastProbe : polling.EndsWithProbe (polling.deadline start) last.now stays outcome →
      polling.EndsWithProbe (polling.deadline start) last.now (⟨start.now, start.now, ⟨.now, start.now⟩⟩ :: stays)
        outcome := by
    rintro ⟨_, begun, state, shape, answered⟩
    exact ⟨_, begun, state, further _ shape, answered⟩
  refine
    { passage := whole
      once := fun other others otherOutcome also => also.unique whole
      run := fun small => run_of_passage whole quiet ?_
      inTime := byDeadline
      during := fun stay member => ?_
      probes := fun stay member probes => ?_
      apart := paced.apart inTime
      guarded := fun breaker known front probe back shape probes => ?_
      succeeds := fun value same => ?_
      fails := fun failure same => ?_ }
  · have ticksFit : polling.tickCount ≤ polling.options.timeout + 1 := Nat.succ_le_succ (Nat.div_le_self _ _)
    rw [List.countP_cons_of_neg (by simp [Stay.isLong])]
    unfold bound
    omega
  · rcases List.mem_cons.mp member with rfl | member
    · exact ⟨Nat.le_refl _, Nat.le_refl _, begins⟩
    · exact each stay member
  · rcases List.mem_cons.mp member with rfl | member
    · cases probes
    · exact (paced.of_probe member probes).2
  · rcases List.cons_eq_append_iff.mp shape with ⟨rfl, same⟩ | ⟨front, rfl, behind⟩
    · cases same
      cases probes
    · obtain ⟨earlier, rfl⟩ := paced.guarded known behind probes
      exact ⟨_ :: earlier, rfl⟩
  · subst same
    rcases paced.ends inTime with ⟨probed, accepted⟩ | ⟨_, failed⟩ | ⟨_, failed⟩
    · exact ⟨accepted value rfl, lastProbe probed⟩
    · cases failed
    · cases failed
  · subst same
    rcases paced.ends inTime with ⟨probed, _⟩ | ⟨⟨_, breaker, shape, known⟩, failed⟩ | ⟨atDeadline, failed⟩
    · exact .inl (lastProbe probed)
    · exact .inr (.inl ⟨⟨_, breaker, further _ shape, known⟩, Except.error.inj failed⟩)
    · exact .inr (.inr ⟨atDeadline, Except.error.inj failed⟩)

/-- However long its probes take, a poll settles once and by its deadline. It probes only until then, one probe at a
time, none much earlier than a period behind the one before, and each only when the breaker has just let it. It succeeds
only with an accepted value of a probe that is finished by the deadline. -/
theorem settles_once_and_in_time (polling : Polling σ) (records : Records) {start : World σ} (quiet : start.IsQuiet) :
    ∃ last stays outcome, polling.SettlesInTime records start last stays outcome := by
  have enough : polling.deadline start < start.now + polling.tickCount * polling.options.period := by
    have beyond := mt (@lt_tickCount_iff σ polling polling.tickCount).mpr (Nat.lt_irrefl _)
    unfold deadline
    omega
  obtain ⟨last, stays, outcome, ticks, paced, few⟩ :=
    exists_passage polling records polling.tickCount (Nat.le_add_right start.now _) enough
  exact ⟨last, _, outcome, .of_paced quiet ticks paced few⟩

/-- A poll every ten milliseconds of a page whose first answer takes thirty, whose second takes two, and whose third is
the first to be accepted. -/
def late : Polling Rehearsal where
  surroundings :=
    { serve := Rehearsal.serve
      setup := { performers := Performer.standard, settings := {} }
      transforms := {} }
  options := { what := "exist", interval := 10, timeout := 100, breaker := some ⟨0, .checks 4⟩ }
  probe := .scrollHeight none
  accepts := Json.isTruthy

def unhurried : World Rehearsal where
  state := { cues := [⟨.ok (.bool false), 30⟩, ⟨.ok (.bool false), 2⟩, ⟨.ok (.bool true), 0⟩] }
  channel := Channel.ofCapacity 1

/-- The second probe is late when the first takes long, so the third comes a period behind it, and settles the poll. -/
theorem settles_late : unhurried.IsQuiet ∧
    ∃ last stays, late.SettlesInTime ⟨0, 0⟩ unhurried last stays (.ok (.bool true)) ∧ last.now = 40 := by
  have quiet : unhurried.IsQuiet := ⟨rfl, rfl⟩
  obtain ⟨last, stays, outcome, settles⟩ := settles_once_and_in_time late ⟨0, 0⟩ quiet
  have ran := settles.run (by decide)
  have settled : outcome = .ok (.bool true) := (congrArg Prod.snd ran).symm.trans rfl
  subst settled
  exact ⟨quiet, last, stays, settles, (congrArg (fun ended => ended.1.now) ran).symm.trans rfl⟩

end Polling

end Harvest
