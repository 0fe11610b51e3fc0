import Harvest.Proofs.Run.History

/-!
Contract: how often an action that is to be done once completes.

An attempt at such an action begins when the ledger does not have its identity, and completes
when the identity is recorded. No job completes more often than it has begun to. Once an attempt
has completed no other begins, so an identity completes twice exactly when an attempt that was
already under way at a completion completes as well.
-/

namespace Harvest

namespace Exchange

/-- Whether an attempt at an identity begins. -/
def begins (identity : Nat) : Exchange → Bool
  | ⟨.isDone asked, isDone⟩ => asked == identity && !isDone
  | _ => false

/-- Whether an attempt at an identity completes. -/
def completes (identity : Nat) : Exchange → Bool
  | ⟨.record recorded, _⟩ => recorded == identity
  | _ => false

/-- A trail completes an identity no more often than it begins to. -/
def AreBooked (identity : Nat) (trail : List Exchange) : Prop :=
  trail.countP (completes identity) ≤ trail.countP (begins identity)

theorem AreBooked.append {identity : Nat} {front back : List Exchange} (first : AreBooked identity front)
    (last : AreBooked identity back) : AreBooked identity (front ++ back) := by
  unfold AreBooked
  rw [List.countP_append, List.countP_append]
  exact Nat.add_le_add first last

end Exchange

/-! ### The bookkeeping of one job -/

/-- On all its ways, a job completes no identity more often than it has begun to. -/
def Job.KeepsBooks {α : Type} (job : Job α) : Prop :=
  ∀ (identity : Nat) {trail : List Exchange} {rest : Job α}, Trail job trail rest →
    trail.countP (Exchange.completes identity) ≤ trail.countP (Exchange.begins identity)

namespace Job

variable {α β : Type}

theorem keepsBooks_iff {job : Job α} : job.KeepsBooks ↔ ∀ identity, job.Leaves (Exchange.AreBooked identity) :=
  ⟨fun books identity _ _ => books identity, fun leaves identity trail rest => leaves identity trail rest⟩

theorem keepsBooks_done (value : α) : (Job.done value).KeepsBooks :=
  keepsBooks_iff.mpr fun _ => leaves_done (Nat.le_refl 0) value

theorem KeepsBooks.andThen {job : Job α} {next : α → Job β} (first : job.KeepsBooks)
    (last : ∀ value, (next value).KeepsBooks) : (job.andThen next).KeepsBooks := by
  refine keepsBooks_iff.mpr fun identity => ?_
  exact Leaves.andThen .append (keepsBooks_iff.mp first identity) fun value => keepsBooks_iff.mp (last value) identity

theorem keepsBooks_perform {request : Request} (unrecorded : ∀ identity, request ≠ .record identity) :
    (perform request).KeepsBooks := by
  refine keepsBooks_iff.mpr fun identity => leaves_perform (Nat.le_refl 0) fun answer => ?_
  cases request with
  | record recorded => exact absurd rfl (unrecorded recorded)
  | _ => exact Nat.zero_le _

/-- What is asked of the page completes no identity. -/
theorem keepsBooks_asked (work : PageWork) {next : Except Failure Json → Job α}
    (last : ∀ outcome, (next outcome).KeepsBooks) : (Job.request (.ask work) next).KeepsBooks :=
  (@keepsBooks_perform (.ask work) fun _ same => nomatch same).andThen last

/-- Laws of books are laws of whatever is put together. -/
theorem keepsBooks_composes : Job.Composes KeepsBooks where
  done := keepsBooks_done
  andThen := KeepsBooks.andThen
  plain := by
    intro request plain
    apply keepsBooks_perform
    rintro identity rfl
    exact plain
  capture := fun label => keepsBooks_asked (.snapshot label) fun _ => keepsBooks_done _
  subscribed := fun obeys => (@keepsBooks_perform .subscribe fun _ same => nomatch same).andThen fun subscription =>
    obeys subscription fun _ _ => keepsBooks_perform fun _ same => nomatch same
  timed := fun obeys => (@keepsBooks_perform .now fun _ same => nomatch same).andThen fun time =>
    obeys (fun _ => keepsBooks_perform fun _ same => nomatch same) time

theorem keepsBooks_win (value : Json) : (perform (.win value)).KeepsBooks :=
  keepsBooks_perform fun _ same => nomatch same

/-- Recording an identity after an attempt completes it once more than the attempt does. -/
theorem countP_completes_recorded {attempt : Script Json} (books : attempt.run.KeepsBooks) (identity recorded : Nat)
    {trail : List Exchange} {rest : Job (Except Failure Json)}
    (way : Trail (do
      let result ← attempt
      Script.record recorded
      return result : Script Json).run trail rest) :
    trail.countP (Exchange.completes identity) ≤
      trail.countP (Exchange.begins identity) + if recorded == identity then 1 else 0 := by
  rcases trail_andThen way with ⟨inner, inside, rfl⟩ | ⟨front, back, outcome, rfl, ahead, behind⟩
  · exact Nat.le_add_right_of_le (books identity inside)
  · have counted := books identity ahead
    rw [List.countP_append, List.countP_append]
    cases outcome with
    | error failure =>
      rw [behind.eq_of_done.1]
      exact Nat.le_add_right_of_le counted
    | ok result =>
      cases behind with
      | stay => exact Nat.le_add_right_of_le counted
      | @step _ _ answer later _ last =>
        rw [last.eq_of_done.1]
        have once : [(⟨.record recorded, answer⟩ : Exchange)].countP (Exchange.completes identity)
            = if recorded == identity then 1 else 0 := by
          simp [List.countP_cons, Exchange.completes]
        rw [once]
        omega

/-- An action that is to be done once keeps its books: it records only what it has found not done. -/
theorem keepsBooks_performOnce (head : ActionHead) (previous : Json) {attempt : Script Json}
    (books : attempt.run.KeepsBooks) : (Run.performOnce head previous attempt).run.KeepsBooks := by
  unfold Run.performOnce
  split
  · intro identity trail rest way
    cases way with
    | stay => exact Nat.le_refl 0
    | @step _ _ isDone later _ behind =>
      cases isDone with
      | true =>
        rw [Trail.eq_of_done behind |>.1]
        exact Nat.zero_le _
      | false =>
        have counted := countP_completes_recorded books identity head.identity behind
        simp only [List.countP_cons, Exchange.completes, Exchange.begins, Bool.false_eq_true, if_false,
          Bool.not_false, Bool.and_true]
        omega
  · exact books

end Job

/-- What is registered besides the built-in actions keeps its books: it records only through actions that it
performs. -/
def Setup.CustomKeepsBooks (setup : Setup) : Prop :=
  ∀ (kind name : String) (run : ActionHead → String → Json → Script Json),
    setup.performers.find? kind = some (.custom name run) →
    ∀ head selector previous, (run head selector previous).run.KeepsBooks

theorem keepsBooks_conduct {setup : Setup} (custom : setup.CustomKeepsBooks) :
    Conduct (fun job => job.KeepsBooks) setup where
  toComposes := Job.keepsBooks_composes
  once := Job.keepsBooks_performOnce
  custom := custom
  race := fun _ _ _ => Job.keepsBooks_perform fun _ same => nomatch same
  prepares := Job.keepsBooks_asked .prepare fun _ => Job.keepsBooks_done _
  tearsDown := fun _ => Job.keepsBooks_asked .tearDown fun _ => Job.keepsBooks_done _

/-! ### Ledgers -/

namespace World

variable {σ : Type} {surroundings : Surroundings σ} {world : World σ}

/-- Whether a ledger has an identity. -/
def hasDone (world : World σ) (ledger identity : Nat) : Bool :=
  (world.ledgers[ledger]?.getD {}).contains identity

theorem hasDone_congr {other : World σ} (same : other.ledgers = world.ledgers) (ledger identity : Nat) :
    other.hasDone ledger identity = world.hasDone ledger identity := by
  unfold hasDone
  rw [same]

/-- A ledger that has something is there, and further ledgers come behind it. -/
theorem hasDone_append {other : World σ} {more : Array Ledger} (longer : other.ledgers = world.ledgers ++ more)
    {ledger identity : Nat} (done : world.hasDone ledger identity) : other.hasDone ledger identity := by
  unfold hasDone at done ⊢
  by_cases below : ledger < world.ledgers.size
  · rw [longer, Array.getElem?_append_left below]
    exact done
  · rw [Array.getElem?_eq_none (by omega)] at done
    exact nomatch done

theorem contains_insert (ledger : Ledger) (recorded identity : Nat) :
    (ledger.insert recorded).contains identity = (ledger.contains identity || identity == recorded) := by
  unfold Ledger.insert
  split
  · rename_i present
    by_cases same : identity = recorded
    · subst same
      simp [present]
    · simp [same]
  · simp only [Ledger.contains, List.contains_cons]
    rw [Bool.or_comm]

/-- Recording adds one identity to one ledger. -/
theorem hasDone_record (records : Records) (known : records.ledger < world.ledgers.size) (recorded ledger identity : Nat) :
    (world.record records recorded).hasDone ledger identity =
      (world.hasDone ledger identity || (ledger == records.ledger && identity == recorded)) := by
  unfold hasDone record World.ledger
  by_cases same : ledger = records.ledger
  · subst same
    simp [known, contains_insert]
  · have distinct : records.ledger ≠ ledger := Ne.symm same
    simp [distinct, same]

section Attend

variable (records : Records) (race : Option Nat) (hold : Option Hold) (request : Request)

theorem attend_ledgers_size :
    (world.attend surroundings records race hold request).1.ledgers.size = world.ledgers.size := by
  by_cases recording : ∃ identity, request = .record identity
  · obtain ⟨identity, rfl⟩ := recording
    exact Array.size_setIfInBounds
  · rw [attend_ledgers world records race hold fun identity same => recording ⟨identity, same⟩]

/-- What a ledger has it keeps. -/
theorem attend_hasDone {ledger identity : Nat} (done : world.hasDone ledger identity) :
    (world.attend surroundings records race hold request).1.hasDone ledger identity := by
  by_cases recording : ∃ identity, request = .record identity
  · obtain ⟨recorded, rfl⟩ := recording
    show (world.record records recorded).hasDone ledger identity
    by_cases known : records.ledger < world.ledgers.size
    · rw [hasDone_record records known, done, Bool.true_or]
    · rw [hasDone_congr (Array.setIfInBounds_eq_of_size_le (Nat.le_of_not_lt known))]
      exact done
  · rw [hasDone_congr (attend_ledgers world records race hold fun identity same => recording ⟨identity, same⟩)]
    exact done

end Attend

end World

/-! ### Attempts in the trace of a crowd -/

def Event.begins (ledger identity : Nat) (event : Event) : Bool :=
  event.ledger == ledger && event.deed.exchange?.any (Exchange.begins identity)

def Event.completes (ledger identity : Nat) (event : Event) : Bool :=
  event.ledger == ledger && event.deed.exchange?.any (Exchange.completes identity)

namespace Crowd

variable {σ : Type} {surroundings : Surroundings σ} {crowd : Crowd σ} {world : World σ} {index : Nat}
  {task : Task} {standing : Standing} {new : List Deed}

/-- The ledgers of all tasks exist and have what was completed on them, and no attempt has begun behind one that
has completed. -/
structure Kept (crowd : Crowd σ) : Prop where
  known : ∀ task ∈ crowd.tasks, task.origin.records.ledger < crowd.world.ledgers.size
  recorded : ∀ event ∈ crowd.trace, ∀ ledger identity, event.completes ledger identity →
    crowd.world.hasDone ledger identity
  ordered : crowd.trace.Pairwise fun first later =>
    ∀ ledger identity, first.completes ledger identity → later.begins ledger identity = false

namespace Kept

theorem start (world : World σ) : Kept (Crowd.start world) where
  known := fun _ member => nomatch member
  recorded := fun _ member => nomatch member
  ordered := .nil

/-- A task keeps the invariant by a deed that begins only what is not done and completes only what is then done. -/
theorem act (kept : Kept crowd) (begun : crowd.tasks[index]? = some task)
    (sameSize : world.ledgers.size = crowd.world.ledgers.size)
    (grows : ∀ ledger identity, crowd.world.hasDone ledger identity → world.hasDone ledger identity)
    (started : ∀ runner ∈ world.background, runner.records = task.origin.records)
    (single : new.length ≤ 1)
    (fresh : ∀ deed ∈ new, ∀ identity, deed.exchange?.any (Exchange.begins identity) →
      crowd.world.hasDone task.origin.records.ledger identity = false)
    (completed : ∀ deed ∈ new, ∀ identity, deed.exchange?.any (Exchange.completes identity) →
      world.hasDone task.origin.records.ledger identity) :
    Kept (crowd.act world index task standing new) where
  known := by
    intro found member
    have size : (crowd.act world index task standing new).world.ledgers.size = crowd.world.ledgers.size := sameSize
    have here := kept.known task (List.mem_of_getElem? begun)
    obtain ⟨other, place⟩ := List.mem_iff_getElem?.mp member
    rw [size]
    rcases act_tasks_cases begun place with ⟨rfl, rfl⟩ | ⟨_, same⟩ | ⟨_, origin, recent, rfl⟩
    · exact here
    · exact kept.known _ (List.mem_of_getElem? same)
    · show origin.records.ledger < _
      rw [started origin recent]
      exact here
  recorded := by
    intro event member ledger identity completes
    show world.hasDone ledger identity
    rcases List.mem_append.mp member with old | recent
    · exact grows _ _ (kept.recorded event old ledger identity completes)
    · obtain ⟨deed, isNew, rfl⟩ := List.mem_map.mp recent
      simp only [Event.completes, Bool.and_eq_true, beq_iff_eq] at completes
      obtain ⟨rfl, completes⟩ := completes
      exact completed deed isNew identity completes
  ordered := by
    refine List.pairwise_append.mpr ⟨kept.ordered, ?_, ?_⟩
    · match new, single with
      | [], _ => exact .nil
      | [_], _ => exact List.pairwise_singleton _ _
    · intro first old later recent ledger identity completes
      obtain ⟨deed, isNew, rfl⟩ := List.mem_map.mp recent
      have done := kept.recorded first old ledger identity completes
      rw [Bool.eq_false_iff]
      intro begins
      simp only [Event.begins, Bool.and_eq_true, beq_iff_eq] at begins
      obtain ⟨rfl, begins⟩ := begins
      rw [fresh deed isNew identity begins] at done
      exact nomatch done

/-- An attempt begins only where the ledger does not have its identity. -/
theorem fresh_of_begins {records : Records} {race : Option Nat} {hold : Option Hold} {request : Request}
    {answer : request.Answer} {later : World σ}
    (attended : world.attend surroundings records race hold request = (later, .answer answer)) {identity : Nat}
    (begins : Exchange.begins identity ⟨request, answer⟩) : world.hasDone records.ledger identity = false := by
  cases request with
  | isDone asked =>
    simp only [Exchange.begins, Bool.and_eq_true, beq_iff_eq, Bool.not_eq_true'] at begins
    obtain ⟨rfl, undone⟩ := begins
    have answered : (world.ledger records).contains asked = answer := by
      injection (Prod.mk.inj attended).2
    rw [undone] at answered
    exact answered
  | _ => exact nomatch begins

/-- An attempt completes by recording its identity. -/
theorem done_of_completes {records : Records} {race : Option Nat} {hold : Option Hold} {request : Request}
    {answer : request.Answer} {later : World σ} (known : records.ledger < world.ledgers.size)
    (attended : world.attend surroundings records race hold request = (later, .answer answer)) {identity : Nat}
    (completes : Exchange.completes identity ⟨request, answer⟩) : later.hasDone records.ledger identity := by
  cases request with
  | record recorded =>
    have same : recorded = identity := by simpa [Exchange.completes] using completes
    subst same
    rw [← (Prod.mk.inj attended).1]
    show (world.record records recorded).hasDone records.ledger recorded
    rw [World.hasDone_record records known]
    simp
  | _ => exact nomatch completes

/-- A request changes no number of ledgers, takes nothing from a ledger, and starts only what works on the same
records. -/
theorem attended_keeps {records : Records} {race : Option Nat} {hold : Option Hold} {request : Request}
    {later : World σ} {reply : Reply request.Answer} (settled : world.background = [])
    (attended : world.attend surroundings records race hold request = (later, reply)) :
    later.ledgers.size = world.ledgers.size ∧
      (∀ ledger identity, world.hasDone ledger identity → later.hasDone ledger identity) ∧
      ∀ runner ∈ later.background, runner.records = records := by
  have same : later = (world.attend surroundings records race hold request).1 := by rw [attended]
  subst same
  refine ⟨World.attend_ledgers_size _ _ _ _, fun _ _ done => World.attend_hasDone _ _ _ _ done, ?_⟩
  intro runner member
  rcases World.mem_attend_background _ _ _ _ member with old | ⟨cases, selector, previous, _, started⟩
  · rw [settled] at old
    exact nomatch old
  · obtain ⟨steps, _, rfl⟩ := List.mem_map.mp started
    rfl

theorem step {later : Crowd σ} (traced : Traced crowd) (kept : Kept crowd) (taken : crowd.Step surroundings later) :
    Kept later := by
  cases taken with
  | outside sameRaces sameBackground moreLedgers goesOn =>
    obtain ⟨more, longer⟩ := moreLedgers
    refine ⟨fun task member => ?_, fun event member ledger identity completes => ?_, kept.ordered⟩
    · have below := kept.known task member
      rw [longer, Array.size_append]
      omega
    · exact World.hasDone_append longer (kept.recorded event member ledger identity completes)
  | accepted records errand known =>
    refine ⟨fun task member => ?_, kept.recorded, kept.ordered⟩
    rcases List.mem_append.mp member with old | new
    · exact kept.known task old
    · rw [List.mem_singleton.mp new]
      exact known
  | answered found standing attended =>
    have below := kept.known _ (List.mem_of_getElem? found)
    obtain ⟨sameSize, grows, started⟩ := attended_keeps traced.settled attended
    refine kept.act found sameSize grows started (Nat.le_refl 1) ?_ ?_
    · intro deed member identity begins
      rw [List.mem_singleton.mp member] at begins
      exact fresh_of_begins attended begins
    · intro deed member identity completes
      rw [List.mem_singleton.mp member] at completes
      exact done_of_completes below attended completes
  | waited found standing attended =>
    have below := kept.known _ (List.mem_of_getElem? found)
    obtain ⟨sameSize, grows, started⟩ := attended_keeps traced.settled attended
    exact kept.act found sameSize grows started (Nat.zero_le 1) (fun _ member => nomatch member)
      fun _ member => nomatch member
  | @left index task _ _ outcome found standing honest =>
    refine kept.act found (by rw [worldWithout_ledgers]) ?_ ?_ (Nat.le_refl 1) ?_ ?_
    · intro ledger identity done
      rw [World.hasDone_congr (worldWithout_ledgers task outcome)]
      exact done
    · intro runner member
      rw [worldWithout_background, traced.settled] at member
      exact nomatch member
    · intro deed member identity begins
      rw [List.mem_singleton.mp member] at begins
      exact nomatch begins
    · intro deed member identity completes
      rw [List.mem_singleton.mp member] at completes
      exact nomatch completes

theorem play (world : World σ) (schedule : List (Turn σ)) : Kept ((Crowd.start world).play surroundings schedule) := by
  have both := @play_preserves σ surroundings (fun crowd => Traced crowd ∧ Kept crowd) _ schedule
    ⟨Traced.start world, start world⟩ fun former taken => ⟨former.1.step taken, step former.1 former.2 taken⟩
  exact both.2

end Kept

/-! ### Overlapping attempts -/

/-- How many events of one task have a property. -/
def countOf (task : Nat) (property : Event → Bool) (trace : List Event) : Nat :=
  trace.countP fun event => event.task == task && property event

theorem countOf_append (task : Nat) (property : Event → Bool) (front back : List Event) :
    countOf task property (front ++ back) = countOf task property front + countOf task property back :=
  List.countP_append

/-- An attempt completes while one of a task is under way that completes later on. -/
def Overlapping (ledger identity : Nat) (trace : List Event) : Prop :=
  ∃ front first middle second back, trace = front ++ first :: (middle ++ second :: back) ∧
    first.completes ledger identity ∧ second.completes ledger identity ∧
    countOf second.task (Event.completes ledger identity) (front ++ [first]) <
      countOf second.task (Event.begins ledger identity) (front ++ [first])

/-- Where more than one event has a property, one that has it comes before another. -/
theorem exists_two_of_one_lt_countP {property : Event → Bool} {trace : List Event}
    (several : 1 < trace.countP property) :
    ∃ front first middle second back, trace = front ++ first :: (middle ++ second :: back) ∧
      property first ∧ property second := by
  induction trace with
  | nil => exact absurd several (Nat.not_lt_zero 1)
  | cons event trace inductionHypothesis =>
    by_cases holds : property event
    · rw [List.countP_cons_of_pos holds] at several
      obtain ⟨second, member, also⟩ := List.countP_pos_iff.mp (Nat.lt_of_succ_lt_succ several)
      obtain ⟨middle, back, rfl⟩ := List.append_of_mem member
      exact ⟨[], event, middle, second, back, rfl, holds, also⟩
    · rw [List.countP_cons_of_neg holds] at several
      obtain ⟨front, first, middle, second, back, rfl, one, other⟩ := inductionHypothesis several
      exact ⟨event :: front, first, middle, second, back, rfl, one, other⟩

/-- The events of a task count as its exchanges do. -/
theorem countOf_eq_countP_exchanges (property : Exchange → Bool) {ledger : Nat} {front : List Event}
    (own : ∀ event ∈ front, event.task = index → event.ledger = ledger) :
    countOf index (fun event => event.ledger == ledger && event.deed.exchange?.any property) front =
      (exchangesOf index front).countP property := by
  rw [exchangesOf, List.countP_filterMap, List.countP_map, List.countP_filter]
  refine List.countP_congr fun event member => ?_
  by_cases same : event.task = index
  · cases made : event.deed.exchange? <;> simp [same, own event member same, made]
  · simp [same]

/-- At any point of the trace, a task has completed no identity more often than it has begun to. -/
theorem countOf_completes_le (traced : Traced crowd) (books : Obeys (fun job => job.KeepsBooks) crowd)
    {front back : List Event} (cut : crowd.trace = front ++ back) (begun : crowd.tasks[index]? = some task)
    (identity : Nat) :
    countOf index (Event.completes task.origin.records.ledger identity) front ≤
      countOf index (Event.begins task.origin.records.ledger identity) front := by
  have own : ∀ event ∈ front, event.task = index → event.ledger = task.origin.records.ledger := by
    intro event member same
    obtain ⟨found, place, ledger⟩ := traced.known event (by rw [cut]; exact List.mem_append_left _ member)
    rw [same, begun] at place
    rw [ledger, Option.some.inj place]
  obtain ⟨rest, way⟩ := traced.prefixTrail cut begun
  have counted := books task (List.mem_of_getElem? begun) identity way
  rw [← countOf_eq_countP_exchanges _ own, ← countOf_eq_countP_exchanges _ own] at counted
  exact counted

/-- Behind a completed attempt no attempt begins. -/
theorem Kept.countOf_begins_behind (kept : Kept crowd) (index : Nat) {front back : List Event} {first : Event} {ledger identity : Nat}
    (cut : crowd.trace = front ++ first :: back) (completes : first.completes ledger identity) :
    countOf index (Event.begins ledger identity) back = 0 := by
  refine List.countP_eq_zero.mpr fun event member => ?_
  have behind := kept.ordered
  rw [cut, List.pairwise_append] at behind
  have late := (List.pairwise_cons.mp behind.2.1).1 event member ledger identity completes
  simp [late]

/-- An identity completes at most once on a ledger exactly when no attempts at it overlap. -/
theorem completes_once_iff_not_overlapping (custom : surroundings.setup.CustomKeepsBooks) (world : World σ)
    (schedule : List (Turn σ)) (ledger identity : Nat) :
    ((Crowd.start world).play surroundings schedule).trace.countP (Event.completes ledger identity) ≤ 1 ↔
      ¬ Overlapping ledger identity ((Crowd.start world).play surroundings schedule).trace := by
  have traced : Traced ((Crowd.start world).play surroundings schedule) := .play world schedule
  have kept : Kept ((Crowd.start world).play surroundings schedule) := .play world schedule
  have books := play_obeys (keepsBooks_conduct custom) (fun value => Job.keepsBooks_win value) world schedule
  generalize (Crowd.start world).play surroundings schedule = crowd at *
  constructor
  · rintro atMost ⟨front, first, middle, second, back, cut, one, other, _⟩
    rw [cut] at atMost
    simp only [List.countP_append, List.countP_cons, one, other, if_true] at atMost
    omega
  · intro apart
    refine Nat.le_of_not_lt fun several => apart ?_
    obtain ⟨front, first, middle, second, back, cut, one, other⟩ := exists_two_of_one_lt_countP several
    refine ⟨front, first, middle, second, back, cut, one, other, ?_⟩
    obtain ⟨task, begun, sameLedger⟩ := traced.known second (by rw [cut]; simp)
    have own : second.ledger = ledger := by
      simp only [Event.completes, Bool.and_eq_true, beq_iff_eq] at other
      exact other.1
    have upToSecond : crowd.trace = ((front ++ [first]) ++ (middle ++ [second])) ++ back := by
      rw [cut]
      simp
    have counted := countOf_completes_le traced books upToSecond begun identity
    rw [← sameLedger, own, countOf_append _ _ (front ++ [first]), countOf_append _ _ (front ++ [first])] at counted
    have noneBehind := kept.countOf_begins_behind second.task cut one
    rw [show middle ++ second :: back = (middle ++ [second]) ++ back by simp, countOf_append] at noneBehind
    have another : 0 < countOf second.task (Event.completes ledger identity) (middle ++ [second]) :=
      List.countP_pos_iff.mpr ⟨second, by simp, by simp [other]⟩
    omega

def onceAction : Action :=
  .mk { identity := 0, kind := "url", once := true } [] [] none [] none

/-- Two errands each race the same action; both races go on at the same time. -/
def raceTwice : List (Turn Unit) :=
  [.accept ⟨0, 0⟩ (.ofRace [[onceAction]]), .accept ⟨0, 0⟩ (.ofRace [[onceAction]]), .move 0, .move 1, .move 2, .move 3,
    .move 2, .move 3, .move 2, .move 3]

/-- An action that is to be done once is done twice when two attempts overlap. -/
theorem once_completed_twice :
    ¬ ((Crowd.start World.blank).play .echo raceTwice).trace.countP (Event.completes 0 0) ≤ 1 := by
  decide

theorem echo_keepsBooks : Surroundings.echo.setup.CustomKeepsBooks := fun kind name run registered =>
  absurd registered (Performer.find?_standard_ne_custom kind name run)

def raceAgain : List (Turn Unit) :=
  [.accept ⟨0, 0⟩ (.ofRace [[onceAction]]), .move 0, .move 1, .move 1, .move 1,
    .accept ⟨0, 0⟩ (.ofRace [[onceAction]]), .move 2, .move 3, .move 3, .move 3]

/-- The attempts overlap when the races go on at the same time, and not when one follows the other. -/
theorem overlapping_raceTwice :
    Overlapping 0 0 ((Crowd.start World.blank).play .echo raceTwice).trace ∧
      ¬ Overlapping 0 0 ((Crowd.start World.blank).play .echo raceAgain).trace := by
  constructor
  · refine Classical.byContradiction fun apart => ?_
    have atMost := (completes_once_iff_not_overlapping echo_keepsBooks World.blank raceTwice 0 0).mpr apart
    exact absurd atMost (by decide)
  · exact (completes_once_iff_not_overlapping echo_keepsBooks World.blank _ 0 0).mp (by decide)

end Crowd

end Harvest
