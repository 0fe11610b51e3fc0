import Harvest.Proofs.Run.History

/-!
Contract: a subscription belongs to the task that opened it.

Every task listens only on subscriptions that it has opened itself (`Job.Spares`), and each number
is given out once (`Crowd.Lawful`). So while the task that opened a subscription does not listen, the
channel continues for it, in any order of the steps of all tasks.
-/

namespace Harvest

/-! ### Jobs that leave a subscription alone -/

def Request.listensOn (subscription : Nat) : Request → Bool
  | .listen asked _ _ => asked == subscription
  | _ => false

def Exchange.opens (subscription : Nat) : Exchange → Bool
  | ⟨.subscribe, opened⟩ => opened == subscription
  | _ => false

/-- On all its ways on which it does not open a subscription itself, a job does not listen on it. -/
def Job.Spares {α : Type} (subscription : Nat) (job : Job α) : Prop :=
  ∀ (trail : List Exchange) (rest : Job α), Trail job trail rest →
    (∀ exchange ∈ trail, exchange.opens subscription = false) →
    ∀ exchange ∈ trail, exchange.request.listensOn subscription = false

namespace Job

variable {α β : Type} {subscription : Nat}

theorem spares_done (value : α) : (Job.done value).Spares subscription :=
  leaves_done (fun _ => List.forall_mem_nil _) value

theorem Spares.andThen {job : Job α} {next : α → Job β} (first : job.Spares subscription)
    (last : ∀ value, (next value).Spares subscription) : (job.andThen next).Spares subscription := by
  refine Leaves.andThen (fun old recent unopened => ?_) first last
  have apart := List.forall_mem_append.mp unopened
  exact List.forall_mem_append.mpr ⟨old apart.1, recent apart.2⟩

theorem spares_perform {request : Request} (elsewhere : request.listensOn subscription = false) :
    (perform request).Spares subscription :=
  leaves_perform (fun _ => List.forall_mem_nil _) fun _ _ => List.forall_mem_singleton.mpr elsewhere

/-- What is asked of the page listens on no subscription. -/
theorem spares_asked (work : PageWork) {next : Except Failure Json → Job α}
    (last : ∀ outcome, (next outcome).Spares subscription) : (Job.request (.ask work) next).Spares subscription :=
  (@spares_perform subscription (.ask work) rfl).andThen last

theorem mayHear_spares {other : Nat} (different : other ≠ subscription) : MayHear (Spares subscription) other := by
  intro limit awaited
  apply spares_perform
  exact beq_eq_false_iff_ne.mpr different

theorem spares_composes (subscription : Nat) : Job.Composes (Spares subscription) where
  done := spares_done
  andThen := Spares.andThen
  plain := by
    intro request plain
    apply spares_perform
    cases request with
    | listen asked limit awaited => exact plain.elim
    | _ => rfl
  capture := fun label => spares_asked (.snapshot label) fun _ => spares_done _
  subscribed := by
    intro α next obeys trail rest way unopened exchange member
    cases way with
    | stay => cases member
    | @step _ _ opened trail _ later =>
      obtain ⟨other, unopened⟩ := List.forall_mem_cons.mp unopened
      have different : opened ≠ subscription := beq_eq_false_iff_ne.mp other
      rcases List.mem_cons.mp member with rfl | behind
      · rfl
      · exact obeys opened (mayHear_spares different) _ _ later unopened exchange behind
  timed := fun obeys => (@spares_perform _ .now rfl).andThen fun time => obeys (fun _ => spares_perform rfl) time

end Job

/-- What is registered besides the built-in actions listens on no subscriptions but its own. -/
def Setup.CustomSpares (setup : Setup) : Prop :=
  ∀ (kind name : String) (run : ActionHead → String → Json → Script Json),
    setup.performers.find? kind = some (.custom name run) →
    ∀ head selector previous subscription, (run head selector previous).run.Spares subscription

theorem spares_conduct {setup : Setup} (custom : setup.CustomSpares) (subscription : Nat) :
    Conduct (Job.Spares subscription) setup where
  toComposes := Job.spares_composes subscription
  once := (Job.spares_composes subscription).performOnce (fun _ => Job.spares_perform rfl) fun _ =>
    Job.spares_perform rfl
  custom := fun kind name run registered head selector previous =>
    custom kind name run registered head selector previous subscription
  race := fun _ _ _ => Job.spares_perform rfl
  prepares := Job.spares_asked .prepare fun _ => Job.spares_done _
  tearsDown := fun _ => Job.spares_asked .tearDown fun _ => Job.spares_done _

/-! ### Worlds -/

namespace World

variable {σ : Type} {surroundings : Surroundings σ} {subscription : Nat}

/-- No request but to listen on it makes a difference to a subscription. -/
theorem attend_continues (world : World σ) (records : Records) (race : Option Nat) (hold : Option Hold)
    {request : Request} (opened : subscription < world.channel.places.size)
    (elsewhere : request.listensOn subscription = false) :
    world.channel.Continues subscription (world.attend surroundings records race hold request).1.channel := by
  cases request with
  | ask work => exact attendWork_continues world hold work
  | askBy deadline work =>
    simp only [attend, attendWorkBy_world]
    exact attendWork_continues world hold work
  | subscribe => exact .subscribe opened
  | listen asked limit awaited =>
    have different : asked ≠ subscription := beq_eq_false_iff_ne.mp elsewhere
    simp only [attend]
    split
    · rename_i hears
      exact .hear different hears
    · exact .refl _ _
  | race cases selector previous =>
    cases racing : Hold.race? hold with
    | none => rw [attend_race_new world records race hold cases selector previous racing]; exact .refl _ _
    | some held => rw [attend_race_held world records race hold cases selector previous racing]; exact .refl _ _
  | win value => cases race <;> exact .refl _ _
  | _ => exact .refl _ _

theorem attend_wait_continues {world later : World σ} {records : Records} {race : Option Nat} {hold next : Option Hold}
    {request : Request} (opened : subscription < world.channel.places.size)
    (attended : world.attend surroundings records race hold request = (later, .wait next)) :
    world.channel.Continues subscription later.channel := by
  by_cases listens : request.listensOn subscription = true
  · cases request with
    | listen asked limit awaited =>
      simp only [attend] at attended
      split at attended
      · cases attended
      · rw [← (Prod.mk.inj attended).1]
        exact .refl _ _
    | _ => cases listens
  · have elsewhere := @attend_continues σ surroundings subscription world records race hold request opened
      (Bool.eq_false_iff.mpr listens)
    rw [attended] at elsewhere
    exact elsewhere

theorem attend_opened (world : World σ) (records : Records) (race : Option Nat) (hold : Option Hold) (request : Request)
    (opened : subscription < world.channel.places.size) :
    subscription < (world.attend surroundings records race hold request).1.channel.places.size := by
  by_cases listens : request.listensOn subscription = true
  · cases request with
    | listen asked limit awaited =>
      simp only [attend]
      split
      · rename_i hears
        rw [Channel.hear?_size hears]
        exact opened
      · exact opened
    | _ => cases listens
  · exact (attend_continues world records race hold opened (Bool.eq_false_iff.mpr listens)).opened opened

end World

/-! ### Crowds -/

def Deed.opens (subscription : Nat) : Deed → Bool
  | .exchange made => made.opens subscription
  | .ending _ => false

/-- Whether nothing is heard on a subscription in some deeds. -/
def Unheard (subscription : Nat) (deeds : List Deed) : Prop :=
  ∀ made, Deed.exchange made ∈ deeds → made.request.listensOn subscription = false

namespace Crowd

variable {σ : Type} {surroundings : Surroundings σ} {crowd : Crowd σ} {index subscription : Nat}

def openings (crowd : Crowd σ) (subscription : Nat) : Nat :=
  crowd.trace.countP fun event => event.deed.opens subscription

/-- Each task has done what its job allows and spares the subscriptions of others, and each subscription is opened once
at most. -/
structure Lawful (crowd : Crowd σ) : Prop where
  traced : Traced crowd
  spares : ∀ subscription, Obeys (Job.Spares subscription) crowd
  once : ∀ subscription, crowd.openings subscription ≤ 1
  known : ∀ subscription, 0 < crowd.openings subscription → subscription < crowd.world.channel.places.size

theorem worldWithout_channel (crowd : Crowd σ) (task : Task) (outcome : Option (Except Failure Json)) :
    (crowd.worldWithout task outcome).channel = crowd.world.channel := by
  unfold worldWithout
  split
  · exact World.leaveRace_channel _ _ _
  · rfl

theorem openings_act (world : World σ) (task : Task) (standing : Standing) (deeds : List Deed) :
    (crowd.act world index task standing deeds).openings subscription =
      crowd.openings subscription + deeds.countP (Deed.opens subscription) := by
  unfold openings act
  rw [List.countP_append, List.countP_map]
  rfl

/-- A subscription that a request opens is the next one. -/
theorem opens_of_attend {world later : World σ} {records : Records} {race : Option Nat} {hold : Option Hold}
    {request : Request} {answer : request.Answer}
    (attended : world.attend surroundings records race hold request = (later, .answer answer))
    (opens : Exchange.opens subscription ⟨request, answer⟩ = true) :
    subscription = world.channel.places.size ∧ later.channel.places.size = world.channel.places.size + 1 := by
  cases request with
  | subscribe =>
    cases attended
    refine ⟨(beq_iff_eq.mp opens).symm, ?_⟩
    exact Array.size_push _
  | _ => cases opens

namespace Lawful

theorem start (world : World σ) : Lawful (Crowd.start world) where
  traced := .start world
  spares := fun _ _ member => by cases member
  once := fun _ => Nat.zero_le _
  known := fun _ opened => absurd opened (Nat.lt_irrefl 0)

theorem openings_of_quiet (lawful : Lawful crowd) {world : World σ} {task : Task} {standing : Standing} {deeds : List Deed}
    (quiet : ∀ subscription, deeds.countP (Deed.opens subscription) = 0)
    (stays : ∀ subscription, subscription < crowd.world.channel.places.size →
      subscription < world.channel.places.size) (subscription : Nat) :
    (crowd.act world index task standing deeds).openings subscription ≤ 1 ∧
      (0 < (crowd.act world index task standing deeds).openings subscription →
        subscription < world.channel.places.size) := by
  rw [openings_act, quiet, Nat.add_zero]
  exact ⟨lawful.once subscription, fun opened => stays subscription (lawful.known subscription opened)⟩

/-- A task has got an answer, which may be the next subscription. -/
theorem openings_of_answered (lawful : Lawful crowd) {world : World σ} {task : Task} {standing : Standing}
    {hold : Option Hold} {request : Request} {answer : request.Answer}
    (attended : crowd.world.attend surroundings task.origin.records task.origin.race hold request
      = (world, .answer answer)) (subscription : Nat) :
    (crowd.act world index task standing [.exchange ⟨request, answer⟩]).openings subscription ≤ 1 ∧
      (0 < (crowd.act world index task standing [.exchange ⟨request, answer⟩]).openings subscription →
        subscription < world.channel.places.size) := by
  have once := lawful.once subscription
  have known := lawful.known subscription
  have stays := @World.attend_opened σ surroundings subscription crowd.world task.origin.records task.origin.race hold
    request
  rw [attended] at stays
  dsimp only at stays
  rw [openings_act, List.countP_singleton]
  split
  · rename_i opens
    obtain ⟨next, grown⟩ := opens_of_attend attended opens
    omega
  · omega

theorem step {later : Crowd σ} (custom : surroundings.setup.CustomSpares) (lawful : Lawful crowd)
    (taken : crowd.Step surroundings later) : Lawful later := by
  have traced := lawful.traced.step taken
  have spares : ∀ subscription, Obeys (Job.Spares subscription) later := by
    intro subscription
    have conduct := spares_conduct custom subscription
    refine (lawful.spares subscription).step lawful.traced conduct.errand ?_ taken
    intro selector steps previous
    exact conduct.performCase (fun _ => Job.spares_perform rfl) selector false steps previous
  -- the laws of jobs are settled; what remains is counting
  suffices opened : ∀ subscription, later.openings subscription ≤ 1 ∧
      (0 < later.openings subscription → subscription < later.world.channel.places.size) from
    ⟨traced, spares, fun subscription => (opened subscription).1, fun subscription => (opened subscription).2⟩
  intro subscription
  cases taken with
  | outside sameRaces sameBackground moreLedgers goesOn =>
    refine ⟨lawful.once subscription, fun opened => ?_⟩
    exact (goesOn subscription).opened (lawful.known subscription opened)
  | accepted records errand known => exact ⟨lawful.once subscription, lawful.known subscription⟩
  | answered found standing attended => exact lawful.openings_of_answered attended subscription
  | waited found standing attended =>
    refine lawful.openings_of_quiet (fun _ => rfl) (fun other opened => ?_) subscription
    exact (World.attend_wait_continues opened attended).opened opened
  | left found standing honest =>
    refine lawful.openings_of_quiet (fun _ => rfl) (fun other opened => ?_) subscription
    rw [worldWithout_channel]
    exact opened

theorem play (custom : surroundings.setup.CustomSpares) (world : World σ) (schedule : List (Turn σ)) :
    Lawful ((Crowd.start world).play surroundings schedule) :=
  play_preserves schedule (start world) fun lawful taken => lawful.step custom taken

end Lawful

/-! ### The task that has opened a subscription -/

/-- A task has opened a subscription. -/
def Owns (crowd : Crowd σ) (index subscription : Nat) : Prop :=
  ∃ deed ∈ crowd.deeds index, deed.opens subscription = true

theorem countP_deeds_le (index : Nat) (property : Deed → Bool) :
    (crowd.deeds index).countP property ≤ crowd.trace.countP fun event => property event.deed := by
  rw [deeds, List.countP_map]
  exact List.filter_sublist.countP_le

theorem Lawful.opens_of_other (lawful : Lawful crowd) (owns : crowd.Owns index subscription) {other : Nat}
    (different : other ≠ index) : ∀ deed ∈ crowd.deeds other, deed.opens subscription = false := by
  intro deed member
  refine Bool.eq_false_iff.mpr fun opens => ?_
  obtain ⟨own, ownMember, ownOpens⟩ := owns
  obtain ⟨event, present, rfl⟩ := List.mem_map.mp member
  obtain ⟨ownEvent, ownPresent, rfl⟩ := List.mem_map.mp ownMember
  have distinct : event.task ≠ index := by
    intro same
    rw [List.mem_filter, same] at present
    exact different (beq_iff_eq.mp present.2).symm
  -- the events of the owner and those of the others are counted apart, and there would be one of each
  have counted := List.countP_eq_countP_filter_add crowd.trace (fun event => event.deed.opens subscription)
    (fun event => event.task == index)
  have mine : 0 < (crowd.trace.filter fun event => event.task == index).countP
      fun event => event.deed.opens subscription :=
    List.countP_pos_iff.mpr ⟨ownEvent, ownPresent, ownOpens⟩
  have others : 0 < (crowd.trace.filter fun event => !(event.task == index)).countP
      fun event => event.deed.opens subscription := by
    refine List.countP_pos_iff.mpr ⟨event, List.mem_filter.mpr ⟨(List.mem_filter.mp present).1, ?_⟩, opens⟩
    simp [distinct]
  have once := lawful.once subscription
  unfold openings at once
  omega

/-- No task listens on a subscription that another one owns. -/
theorem Lawful.elsewhere (lawful : Lawful crowd) (owns : crowd.Owns index subscription) {other : Nat}
    (different : other ≠ index) {task : Task} (begun : crowd.tasks[other]? = some task) {request : Request}
    {next : request.Answer → Job (Except Failure Json)} {hold : Option Hold}
    (standing : task.standing = .underway (.request request next) hold) :
    request.listensOn subscription = false := by
  have follows := lawful.traced.follows begun
  rw [standing] at follows
  obtain ⟨trail, did, so_far⟩ := follows.exchanged
  have unopened := lawful.opens_of_other owns different
  rw [did] at unopened
  cases request with
  | listen asked limit awaited =>
    -- the law is about trails, so the request needs an answer; any will do
    have spares := lawful.spares subscription task (List.mem_of_getElem? begun) _ _ (so_far.snoc Heard.nothing)
    refine spares (fun exchange member => ?_) _ (List.mem_append_right _ (List.mem_singleton_self _))
    rcases List.mem_append.mp member with old | new
    · exact unopened _ (List.mem_map_of_mem old)
    · rw [List.mem_singleton.mp new]
      rfl
  | _ => rfl

/-- While the owner of a subscription does not listen on it, the channel continues for it. -/
theorem Lawful.continues_step {later : Crowd σ} (lawful : Lawful crowd) (owns : crowd.Owns index subscription)
    (opened : subscription < crowd.world.channel.places.size) (taken : crowd.Step surroundings later) {new : List Deed}
    (did : later.deeds index = crowd.deeds index ++ new) (unheard : Unheard subscription new) :
    crowd.world.channel.Continues subscription later.world.channel := by
  cases taken with
  | outside sameRaces sameBackground moreLedgers goesOn => exact goesOn subscription
  | accepted records errand known => exact .refl _ _
  | @answered actor task hold request next answer world found standing attended =>
    -- the owner does not listen by assumption, the others since the subscription is not theirs
    have elsewhere : request.listensOn subscription = false := by
      by_cases same : actor = index
      · subst same
        rw [act_deeds_self] at did
        refine unheard ⟨request, answer⟩ ?_
        rw [← List.append_cancel_left did]
        exact List.mem_singleton_self _
      · exact lawful.elsewhere owns same found standing
    have continues := @World.attend_continues σ surroundings subscription crowd.world task.origin.records
      task.origin.race hold request opened elsewhere
    rw [attended] at continues
    exact continues
  | waited found standing attended =>
    have continues := World.attend_wait_continues opened attended
    exact continues
  | left found standing honest =>
    show crowd.world.channel.Continues subscription (crowd.worldWithout _ _).channel
    rw [worldWithout_channel]
    exact .refl _ _

theorem Lawful.continues_play (custom : surroundings.setup.CustomSpares) (schedule : List (Turn σ))
    (lawful : Lawful crowd) (owns : crowd.Owns index subscription) {new : List Deed}
    (did : (crowd.play surroundings schedule).deeds index = crowd.deeds index ++ new)
    (unheard : Unheard subscription new) :
    crowd.world.channel.Continues subscription (crowd.play surroundings schedule).world.channel := by
  induction schedule generalizing crowd new with
  | nil => exact .refl _ _
  | cons next schedule inductionHypothesis =>
    have opened : subscription < crowd.world.channel.places.size := by
      obtain ⟨deed, member, opens⟩ := owns
      refine lawful.known subscription (Nat.lt_of_lt_of_le ?_ (countP_deeds_le index (Deed.opens subscription)))
      exact List.countP_pos_iff.mpr ⟨deed, member, opens⟩
    have taken : crowd.Step surroundings (crowd.turn surroundings next) := turn_step crowd next
    -- what the owner does is split between the first turn and those behind it
    obtain ⟨early, didEarly⟩ := taken.deeds_append index
    obtain ⟨late, didLate⟩ := @play_deeds_append σ surroundings (crowd.turn surroundings next) schedule index
    have both : crowd.deeds index ++ new = crowd.deeds index ++ (early ++ late) := by
      rw [← did, ← List.append_assoc, ← didEarly, ← didLate]
      rfl
    replace both := List.append_cancel_left both
    subst both
    have first := lawful.continues_step owns opened taken didEarly fun made member =>
      unheard made (List.mem_append_left _ member)
    have ownsLater : (crowd.turn surroundings next).Owns index subscription := by
      obtain ⟨deed, member, opens⟩ := owns
      refine ⟨deed, ?_, opens⟩
      rw [didEarly]
      exact List.mem_append_left _ member
    refine first.trans (inductionHypothesis (lawful.step custom taken) ownsLater didLate fun made member => ?_)
    exact unheard made (List.mem_append_right _ member)

theorem Lawful.opened_once (lawful : Lawful crowd) {earlier : List Deed} {trail : List Exchange}
    (did : crowd.deeds index = earlier ++ List.map Deed.exchange (⟨.subscribe, subscription⟩ :: trail)) :
    ∀ exchange ∈ trail, exchange.opens subscription = false := by
  intro exchange member
  refine Bool.eq_false_iff.mpr fun opens => ?_
  have first : Deed.opens subscription (.exchange ⟨.subscribe, subscription⟩) = true := beq_self_eq_true subscription
  have again : 0 < (trail.map Deed.exchange).countP (Deed.opens subscription) :=
    List.countP_pos_iff.mpr ⟨.exchange exchange, List.mem_map_of_mem member, opens⟩
  have once := Nat.le_trans (countP_deeds_le index (Deed.opens subscription)) (lawful.once subscription)
  rw [did, List.countP_append, List.map_cons, List.countP_cons_of_pos first] at once
  omega

/-- A subscription that is opened in a turn stays behind what had been sent by then, while its owner does not listen
on it. -/
theorem place_of_unheard (custom : surroundings.setup.CustomSpares) {world : World σ} {before during : List (Turn σ)}
    {former later : Crowd σ} (reached : (Crowd.start world).play surroundings before = former)
    (played : former.play surroundings (.move index :: during) = later) {origin : Runner}
    {next : Nat → Job (Except Failure Json)} {hold : Option Hold}
    (begun : former.tasks[index]? = some ⟨origin, .underway (.request .subscribe next) hold⟩)
    (given : subscription = former.world.channel.places.size) {trail : List Exchange}
    (did : later.deeds index = former.deeds index ++ List.map Deed.exchange (⟨.subscribe, subscription⟩ :: trail))
    (unheard : ∀ exchange ∈ trail, exchange.request.listensOn subscription = false) :
    later.world.channel.places[subscription]? = some former.world.channel.sent.size := by
  have opening : former.turn surroundings (.move index) = former.act
      { former.world with channel := former.world.channel.subscribe.1 } index
      ⟨origin, .underway (.request .subscribe next) hold⟩ (.underway (next subscription) none)
      [.exchange ⟨.subscribe, subscription⟩] := by
    subst given
    exact turn_answered begun rfl rfl
  have lawful : Lawful (former.turn surroundings (.move index)) := by
    rw [← reached]
    exact (Lawful.play custom world before).step custom (turn_step _ _)
  have didFirst : (former.turn surroundings (.move index)).deeds index =
      former.deeds index ++ [.exchange ⟨.subscribe, subscription⟩] := by
    rw [opening, act_deeds_self]
  have owns : (former.turn surroundings (.move index)).Owns index subscription := by
    refine ⟨.exchange ⟨.subscribe, subscription⟩, ?_, beq_self_eq_true subscription⟩
    rw [didFirst]
    exact List.mem_append_right _ (List.mem_singleton_self _)
  have didLater : later.deeds index = (former.turn surroundings (.move index)).deeds index ++ trail.map Deed.exchange := by
    rw [did, didFirst, List.append_assoc]
    rfl
  have quiet : Unheard subscription (trail.map Deed.exchange) := by
    intro made member
    obtain ⟨exchange, member, same⟩ := List.mem_map.mp member
    cases same
    exact unheard made member
  have goesOn : (former.turn surroundings (.move index)).play surroundings during = later := played
  have continues := lawful.continues_play custom during owns (goesOn ▸ didLater) quiet
  rw [goesOn] at continues
  rw [continues.place, opening, given]
  exact Array.getElem?_push_size

end Crowd

end Harvest
