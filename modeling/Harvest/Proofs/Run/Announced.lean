import Harvest.Proofs.Run.Subscription

/-!
Contract: what an action that announces an event to await gets to hear of it.

The subscription is opened before the action's own work, and heard on only behind it. Whatever
other tasks and the page do meanwhile, the wait succeeds at once exactly when the first event that
ends it is an awaited one, among those that the channel still holds of the ones sent since. What
was sent before these is missed.
-/

namespace Harvest

/-! ### What a wait does first -/

/-- A job that goes on behind another one. -/
def Job.BeginsWith {α β : Type} (job : Job α) (first : Job β) : Prop :=
  ∃ following, job = first.andThen following

theorem Job.BeginsWith.refl {α : Type} (job : Job α) : job.BeginsWith job :=
  ⟨.done, (andThen_done job).symm⟩

theorem Job.BeginsWith.andThen {α β γ : Type} {job : Job α} {first : Job β} (begins : job.BeginsWith first)
    (next : α → Job γ) : (job.andThen next).BeginsWith first := by
  obtain ⟨following, rfl⟩ := begins
  exact ⟨fun value => (following value).andThen next, andThen_assoc _ _ _⟩

theorem Job.BeginsWith.bind {α β γ : Type} {script : Script α} {first : Job β} (begins : script.run.BeginsWith first)
    (next : α → Script γ) : (script >>= next).run.BeginsWith first :=
  begins.andThen _

theorem Wait.goesOn (options : WaitOptions) (subscription : Nat) (awaited : Awaited) (deadline ticks due : Nat)
    (outcome : Except Failure PageEvent) :
    (do checkBreaker options; listenFrom options subscription awaited deadline (ticks + 1) due : Script PageEvent).run ≠
      .done outcome := by
  unfold checkBreaker
  cases options.breaker with
  | none => exact fun same => by cases same
  | some breaker => exact fun same => by cases same

/-- A wait asks for the time and listens at once. With what it hears it succeeds exactly if that is an event, but no
error. -/
theorem Wait.awaitEvent_first (options : WaitOptions) (subscription : Nat) (awaited : Awaited) (time : Nat) :
    ∃ limit next, Job.Trail (awaitEvent options subscription awaited).run [⟨.now, time⟩]
        (.request (.listen subscription limit awaited) next) ∧
      ∀ heard event, next heard = .done (.ok event) ↔ heard = .event event ∧ ∀ text, event ≠ .error text := by
  refine ⟨min time (time + options.timeout), _, .step (.stay _), ?_⟩
  intro heard event
  cases heard with
  | event told =>
    cases told with
    | error text =>
      refine iff_of_false (fun same => by cases same) ?_
      rintro ⟨same, unfailing⟩
      exact unfailing text (Heard.event.inj same).symm
    | _ =>
      refine ⟨fun same => ?_, fun same => ?_⟩
      · cases same
        exact ⟨rfl, fun _ other => by cases other⟩
      · cases same.1
        rfl
  | closed => exact iff_of_false (fun same => by cases same) fun same => by cases same.1
  | nothing =>
    refine iff_of_false ?_ fun same => by cases same.1
    -- the first tick is due at once, so it is never behind the deadline
    have inTime : ¬ time > time + options.timeout := by omega
    show (if time > time + options.timeout then giveUp options else _ : Script PageEvent).run ≠ _
    rw [if_neg inTime]
    exact goesOn options subscription awaited _ _ _ _

/-! ### Waits of tasks -/

namespace Crowd

variable {σ : Type} {surroundings : Surroundings σ} {world : World σ} {former later : Crowd σ} {index : Nat}

/-- Behind some deeds, a task has come through a script, with success. -/
def HasPassed {α : Type} (crowd : Crowd σ) (index : Nat) (earlier : List Deed) (script : Script α) : Prop :=
  ∃ trail value, Job.Trail script.run trail (.done (.ok value)) ∧
    crowd.deeds index = earlier ++ trail.map Deed.exchange

/-- A task that listens is told the first event that ends its wait, if there is one. -/
theorem turn_listen {crowd : Crowd σ} {task : Task} {subscription limit place : Nat} {awaited : Awaited}
    {next : Heard → Job (Except Failure Json)} {hold : Option Hold} (found : crowd.tasks[index]? = some task)
    (standing : task.standing = .underway (.request (.listen subscription limit awaited) next) hold)
    (opened : crowd.world.channel.places[subscription]? = some place) :
    ∃ told : Option Heard, (crowd.turn surroundings (.move index)).deeds index =
        crowd.deeds index ++ (told.toList.map fun heard => ⟨.listen subscription limit awaited, heard⟩).map .exchange ∧
      ∀ event, told = some (.event event) ↔
        (crowd.world.channel.heldSince place).find? (Channel.endsWait awaited) = some event := by
  have answered : ∀ {world : World σ} {heard : Heard}, crowd.world.attend surroundings task.origin.records
      task.origin.race hold (.listen subscription limit awaited) = (world, .answer heard) →
      (crowd.turn surroundings (.move index)).deeds index =
        crowd.deeds index ++ [.exchange ⟨.listen subscription limit awaited, heard⟩] := by
    intro world heard attended
    rw [turn_answered found standing attended, act_deeds_self]
  cases first : (crowd.world.channel.heldSince place).find? (Channel.endsWait awaited) with
  | some event =>
    obtain ⟨channel, hears⟩ := Channel.hear?_event opened first
    refine ⟨some (.event event), answered (by simp only [World.attend, hears]; rfl), fun other => ?_⟩
    rw [Option.some.injEq, Option.some.injEq, Heard.event.injEq]
  | none =>
    have hears := Channel.hear?_none opened first
    by_cases closed : crowd.world.channel.isClosed = true
    · rw [if_pos closed] at hears
      refine ⟨some .closed, answered (by simp only [World.attend, hears]; rfl), fun other => ?_⟩
      simp
    · rw [if_neg closed] at hears
      by_cases late : limit ≤ crowd.world.now
      · refine ⟨some .nothing, answered (by simp only [World.attend, hears, if_pos late]; rfl), fun other => ?_⟩
        simp
      · refine ⟨none, ?_, fun other => ?_⟩
        · rw [turn_waited found standing (by simp only [World.attend, hears, if_neg late]; rfl), act_deeds_self]
          rfl
        · simp

/-- A task that stands where a wait listens passes the wait with its next turn exactly if the first event that ends the
wait, of those held, is no error. -/
theorem hasPassed_awaitEvent_iff {crowd : Crowd σ} {task : Task} {options : WaitOptions}
    {subscription limit time place : Nat} {awaited : Awaited} {earlier : List Deed}
    {waits : Heard → Job (Except Failure PageEvent)} {following : Except Failure PageEvent → Job (Except Failure Json)}
    {hold : Option Hold} (found : crowd.tasks[index]? = some task)
    (standing : task.standing =
      .underway (.request (.listen subscription limit awaited) fun heard => (waits heard).andThen following) hold)
    (opened : crowd.world.channel.places[subscription]? = some place)
    (listens : Job.Trail (Wait.awaitEvent options subscription awaited).run [⟨.now, time⟩]
      (.request (.listen subscription limit awaited) waits))
    (settles : ∀ heard event, waits heard = .done (.ok event) ↔ heard = .event event ∧ ∀ text, event ≠ .error text)
    (did : crowd.deeds index = earlier ++ [.exchange ⟨.now, time⟩]) :
    (crowd.turn surroundings (.move index)).HasPassed index earlier (Wait.awaitEvent options subscription awaited) ↔
      ∃ event, (crowd.world.channel.heldSince place).find? (Channel.endsWait awaited) = some event ∧
        ∀ text, event ≠ .error text := by
  obtain ⟨told, tells, which⟩ := @turn_listen σ surroundings index crowd task subscription limit place awaited _ hold
    found standing opened
  constructor
  · rintro ⟨trail, event, way, passed⟩
    refine ⟨event, ?_⟩
    -- the trail of the wait can be read off the deeds: it has asked for the time, and been told one thing at most
    have trailIs : trail = ⟨.now, time⟩ :: told.toList.map fun heard => ⟨.listen subscription limit awaited, heard⟩ := by
      have same : earlier ++ trail.map Deed.exchange = earlier ++ List.map Deed.exchange
          (⟨.now, time⟩ :: told.toList.map fun heard => ⟨.listen subscription limit awaited, heard⟩) := by
        rw [← passed, tells, did, List.append_assoc]
        rfl
      exact (List.map_inj_right fun _ _ equal => Deed.exchange.inj equal).mp (List.append_cancel_left same)
    subst trailIs
    cases told with
    | none => cases way.unique listens
    | some heard =>
      obtain ⟨rfl, unfailing⟩ := (settles heard event).mp ((listens.snoc heard).unique way)
      exact ⟨(which event).mp rfl, unfailing⟩
  · rintro ⟨event, first, unfailing⟩
    have hears := (which event).mpr first
    subst hears
    have way := listens.snoc (Heard.event event)
    rw [(settles _ event).mpr ⟨rfl, unfailing⟩] at way
    refine ⟨_, event, way, ?_⟩
    rw [tells, did, List.append_assoc]
    rfl

/-- What a wait for an event passes by, of what has been sent since its subscription was opened. Before the wait, the
task that has opened the subscription goes along a trail on which it does not listen on it. -/
theorem hasPassed_since_subscribe_iff (custom : surroundings.setup.CustomSpares) {before during : List (Turn σ)}
    (reached : (Crowd.start world).play surroundings before = former)
    (played : former.play surroundings (.move index :: during) = later) {origin : Runner}
    {next : Nat → Job (Except Failure Json)} {hold : Option Hold}
    (begun : former.tasks[index]? = some ⟨origin, .underway (.request .subscribe next) hold⟩)
    {subscription time : Nat} (given : subscription = former.world.channel.places.size) {trail : List Exchange}
    {options : WaitOptions} {awaited : Awaited}
    (begins : ∃ job, Job.Trail (next subscription) trail job ∧
      job.BeginsWith (Wait.awaitEvent options subscription awaited).run)
    (spares : (∀ exchange ∈ trail, exchange.opens subscription = false) →
      ∀ exchange ∈ trail, exchange.request.listensOn subscription = false)
    (did : later.deeds index = former.deeds index ++
      List.map Deed.exchange (⟨.subscribe, subscription⟩ :: (trail ++ [⟨.now, time⟩]))) :
    (later.turn surroundings (.move index)).HasPassed index
        (former.deeds index ++ List.map Deed.exchange (⟨.subscribe, subscription⟩ :: trail))
        (Wait.awaitEvent options subscription awaited) ↔
      ∃ event, (later.world.channel.heldSince former.world.channel.sent.size).find? (Channel.endsWait awaited) =
        some event ∧ ∀ text, event ≠ .error text := by
  obtain ⟨job, way, following, rfl⟩ := begins
  obtain ⟨limit, waits, listens, settles⟩ := Wait.awaitEvent_first options subscription awaited time
  have lawful : Lawful later := by
    rw [← played, ← reached, ← play_append]
    exact .play custom world (before ++ .move index :: during)
  -- the number is not given out again, so on its way to the wait the task does not listen on it
  have unheard : ∀ exchange ∈ trail ++ [⟨.now, time⟩], exchange.request.listensOn subscription = false := by
    have unopened := List.forall_mem_append.mp (lawful.opened_once did)
    exact List.forall_mem_append.mpr ⟨spares unopened.1, List.forall_mem_singleton.mpr rfl⟩
  have opened := place_of_unheard custom reached played begun given did unheard
  obtain ⟨later, stands⟩ := play_stands reached played begun did (.step (way.append (listens.inside following)))
  refine hasPassed_awaitEvent_iff stands rfl opened listens settles ?_
  rw [did, List.append_assoc, ← List.cons_append, List.map_append]
  rfl

end Crowd

/-! ### Attempts that announce what they await -/

namespace Run

variable {setup : Setup} {action : Action} {parent : String} {previous : Json} {subscription : Nat}
  {script : Script Json} {trail : List Exchange} {awaited : Awaited}

/-- What an attempt does behind its subscription to navigations: it may subscribe to requests, does its own work, and
awaits what is announced. -/
def attemptBehind (setup : Setup) (head : ActionHead) (work : Script Json) (pages : Option Nat) : Script Json := do
  let requests ← subscribeIf head.awaitsRequest.isSome
  let result ← work
  awaitAnnounced setup head pages requests
  return result

theorem attempt_eq {head : ActionHead} {performer : Performer}
    (registered : setup.performers.find? head.kind = some performer) (parent : String)
    (work : Performer → String → Script Json) :
    attempt setup head parent work =
      subscribeIf head.awaitsPage >>= attemptBehind setup head (work performer (head.selector parent)) := by
  unfold attempt
  rw [registered]
  rfl

/-- A script of an attempt at an action opens a subscription and comes along a trail, on which the action's own work
succeeds, to the wait for an event that the action announces: a navigation, or a request for an address. -/
inductive Announces (setup : Setup) (action : Action) (parent : String) (previous : Json) (subscription : Nat) :
    Script Json → List Exchange → Awaited → Prop where
  | page {performer : Performer} {opened performed : List Exchange} {requests : Option Nat} {result : Json}
      (registered : setup.performers.find? action.head.kind = some performer) (awaits : action.head.awaitsPage = true)
      (opens : Job.Trail (subscribeIf action.head.awaitsRequest.isSome).run opened (.done (.ok requests)))
      (performs : Job.Trail (ownWork setup action previous performer (action.head.selector parent)).run performed
        (.done (.ok result))) :
      Announces setup action parent previous subscription (attempt setup action.head parent (ownWork setup action previous))
        (opened ++ performed) .navigation
  | request {performer : Performer} {pages : Option Nat} {source : String} {pattern : Pattern}
      {performed waited : List Exchange} {result : Json}
      (registered : setup.performers.find? action.head.kind = some performer)
      (awaits : action.head.awaitsRequest = some source) (valid : Pattern.ofText source "" = .ok pattern)
      (distinct : pages ≠ some subscription)
      (performs : Job.Trail (ownWork setup action previous performer (action.head.selector parent)).run performed
        (.done (.ok result)))
      (waits : Job.Trail (awaitPage setup action.head pages).run waited (.done (.ok ()))) :
      Announces setup action parent previous subscription
        (attemptBehind setup action.head (ownWork setup action previous performer (action.head.selector parent)) pages)
        (performed ++ waited) (.requestFor pattern)

namespace Announces

theorem begins (announces : Announces setup action parent previous subscription script trail awaited) :
    ∃ next, script.run = .request .subscribe next ∧ ∃ job, Job.Trail (next subscription) trail job ∧
      job.BeginsWith (Wait.awaitEvent (.ofAction action.head setup.settings.wait) subscription awaited).run := by
  cases announces with
  | @page performer opened performed requests result registered awaits opens performs =>
    refine ⟨fun opened => (attemptBehind setup action.head
      (ownWork setup action previous performer (action.head.selector parent)) (some opened)).run, ?_, ?_⟩
    · rw [attempt_eq registered, awaits]
      rfl
    · refine ⟨(awaitAnnounced setup action.head (some subscription) requests >>= fun _ => pure result).run,
        opens.bind (performs.inside _), ?_⟩
      exact ((((Job.BeginsWith.refl _).bind _).bind _).bind _).bind _
  | @request performer pages source pattern performed waited result registered awaits valid distinct performs waits =>
    refine ⟨fun opened => (ownWork setup action previous performer (action.head.selector parent) >>= fun result =>
      awaitAnnounced setup action.head pages (some opened) >>= fun _ => pure result).run, ?_, ?_⟩
    · unfold attemptBehind
      rw [awaits]
      rfl
    · refine ⟨(awaitAddress setup action.head action.head.awaitsRequest (some subscription) >>= fun _ =>
        pure result).run, performs.bind ((waits.inside _).inside _), ?_⟩
      rw [awaits]
      refine Job.BeginsWith.bind (Job.BeginsWith.bind ?_ _) _
      unfold awaitRequest
      rw [valid]
      exact (Job.BeginsWith.refl _).bind _

theorem spares (announces : Announces setup action parent previous subscription script trail awaited)
    (custom : setup.CustomSpares) (unopened : ∀ exchange ∈ trail, exchange.opens subscription = false) :
    ∀ exchange ∈ trail, exchange.request.listensOn subscription = false := by
  have conduct := spares_conduct custom subscription
  cases announces with
  | @page performer opened performed requests result registered awaits opens performs =>
    have apart := List.forall_mem_append.mp unopened
    have opening : (subscribeIf action.head.awaitsRequest.isSome).run.Spares subscription := by
      cases action.head.awaitsRequest.isSome with
      | false => exact conduct.pure _
      | true => exact conduct.subscribed fun _ _ => conduct.done _
    have working := conduct.ownWork action previous performer (action.head.selector parent) registered
    exact List.forall_mem_append.mpr ⟨opening _ _ opens apart.1, working _ _ performs apart.2⟩
  | @request performer pages source pattern performed waited result registered awaits valid distinct performs waits =>
    have apart := List.forall_mem_append.mp unopened
    have working := conduct.ownWork action previous performer (action.head.selector parent) registered
    have waiting : (awaitPage setup action.head pages).run.Spares subscription := by
      refine conduct.awaitPage setup action.head fun other member => Job.mayHear_spares ?_
      rintro rfl
      exact distinct member
    exact List.forall_mem_append.mpr ⟨working _ _ performs apart.1, waiting _ _ waits apart.2⟩

theorem calm (announces : Announces setup action parent previous subscription script trail awaited) (text : String) :
    awaited (.error text) = false := by
  cases announces with
  | page _ _ _ _ => rfl
  | request _ _ _ _ _ _ => rfl

end Announces

end Run

/-- The first event that ends a wait for events that are no errors is awaited exactly if it is no error. -/
theorem Channel.endsWait_unfailing_iff {awaited : Awaited} (calm : ∀ text, awaited (.error text) = false)
    {first : Option PageEvent} (ends : ∀ event ∈ first, endsWait awaited event = true) :
    (∃ event, first = some event ∧ ∀ text, event ≠ .error text) ↔ first.any awaited = true := by
  cases first with
  | none => simp
  | some event =>
    have ends := ends event rfl
    cases event with
    | error text => simp [calm]
    | _ =>
      have awaits : awaited _ = true := ends
      simp [awaits]

namespace Crowd

variable {σ : Type} {surroundings : Surroundings σ}

/-- The wait for an event that an action announces succeeds at once exactly when the first event that ends it, of those
that the channel still holds of the ones sent since the action's subscription, is an awaited one. -/
theorem announced_event_passes_iff_held (custom : surroundings.setup.CustomSpares) {world : World σ}
    {before during : List (Turn σ)} {former later : Crowd σ} {index : Nat}
    (reached : (Crowd.start world).play surroundings before = former)
    (played : former.play surroundings (.move index :: during) = later) {origin : Runner} {script : Script Json}
    {following : Except Failure Json → Job (Except Failure Json)} {hold : Option Hold}
    (begun : former.tasks[index]? = some ⟨origin, .underway (script.run.andThen following) hold⟩)
    {action : Action} {parent : String} {previous : Json} {subscription time : Nat}
    (given : subscription = former.world.channel.places.size) {trail : List Exchange} {awaited : Awaited}
    (announces : Run.Announces surroundings.setup action parent previous subscription script trail awaited)
    (did : later.deeds index = former.deeds index ++
      List.map Deed.exchange (⟨.subscribe, subscription⟩ :: (trail ++ [⟨.now, time⟩]))) :
    (later.turn surroundings (.move index)).HasPassed index
        (former.deeds index ++ List.map Deed.exchange (⟨.subscribe, subscription⟩ :: trail))
        (Wait.awaitEvent (.ofAction action.head surroundings.setup.settings.wait) subscription awaited) ↔
      ((later.world.channel.heldSince former.world.channel.sent.size).find? (Channel.endsWait awaited)).any awaited =
        true := by
  obtain ⟨next, starts, job, way, begins⟩ := announces.begins
  rw [starts] at begun
  rw [hasPassed_since_subscribe_iff custom reached played begun given ⟨_, way.inside following, begins.andThen _⟩
    (announces.spares custom) did]
  exact Channel.endsWait_unfailing_iff announces.calm fun event first => List.find?_some first

/-- An action that asks for the address and awaits a navigation. -/
def addressThenPage : Action :=
  .mk { kind := "url", awaitsPage := true } [] [] none [] none

def roomy : World Unit :=
  { World.blank with channel := Channel.ofCapacity 64 }

def navigationThen (others : Nat) : Incident Unit where
  time := 0
  change := fun _ => ((), .navigated "http://next/" :: List.replicate others (.request "http://other/"))

/-- The crowd of one task that is to perform the action. -/
def asking : Crowd Unit :=
  (start roomy).play .echo [.accept ⟨0, 0⟩ (.perform [addressThenPage] "" .null)]

/-- The crowd when a navigation has come while the action asked for the address. -/
def asked (others : Nat) : Crowd Unit :=
  asking.play .echo [.move 0, .undergo (navigationThen others), .move 0, .move 0]

def askedFor : List Exchange :=
  [⟨.subscribe, (0 : Nat)⟩, ⟨.ask (.call .url), .ok (.string "url")⟩]

/-- The wait for the navigation succeeds at once with 63 requests behind the navigation, and not with 64. -/
theorem navigation_passes_unless_crowded :
    ((asked 63).turn .echo (.move 0)).HasPassed 0 (askedFor.map Deed.exchange)
        (Wait.awaitEvent (.ofAction addressThenPage.head Surroundings.echo.setup.settings.wait) 0 .navigation) ∧
      ¬ ((asked 64).turn .echo (.move 0)).HasPassed 0 (askedFor.map Deed.exchange)
        (Wait.awaitEvent (.ofAction addressThenPage.head Surroundings.echo.setup.settings.wait) 0 .navigation) := by
  have custom : Surroundings.echo.setup.CustomSpares := fun kind name run registered =>
    absurd registered (Performer.find?_standard_ne_custom kind name run)
  have registered : Surroundings.echo.setup.performers.find? "url" = some (.builtIn .url) := rfl
  have announces : Run.Announces Surroundings.echo.setup addressThenPage "" .null 0
      (Run.attempt Surroundings.echo.setup addressThenPage.head ""
        (Run.ownWork Surroundings.echo.setup addressThenPage .null))
      ([] ++ [⟨.ask (.call .url), .ok (.string "url")⟩]) .navigation :=
    .page registered rfl (.stay _) (.step (.stay _))
  have passes : ∀ others, ((asked others).turn .echo (.move 0)).HasPassed 0 (askedFor.map Deed.exchange)
      (Wait.awaitEvent (.ofAction addressThenPage.head Surroundings.echo.setup.settings.wait) 0 .navigation) ↔ _ :=
    fun others => announced_event_passes_iff_held custom rfl (rfl : asking.play .echo _ = asked others)
      rfl rfl announces rfl
  exact ⟨(passes 63).mpr (by decide +kernel), fun passed => absurd ((passes 64).mp passed) (by decide +kernel)⟩

end Crowd

namespace World

/-- A world in which a navigation comes, and a number of requests behind it. -/
def navigated (others : Nat) : World Unit :=
  { World.blank with
    channel := Channel.ofCapacity 64
    incidents := [
      { time := 10, change := fun _ => ((), [.navigated "http://next/"]) },
      { time := 11, change := fun _ => ((), List.replicate others (.request "http://other/")) }] }

/-- An action that pauses for 20 milliseconds and awaits a navigation, as long as that. -/
def pauseThenPage : Action :=
  .mk { kind := "wait", timeout := some 20, awaitsPage := true } [] [] none [] none

def isTimeout : Except Failure Json → Bool
  | .error (.waitTimeout _ _) => true
  | _ => false

/-- A navigation that comes while an action is performed is missed where 64 requests come behind it. -/
theorem navigation_missed_among_requests :
    ((navigated 63).run .echo ⟨0, 0⟩ (Run.performAll Surroundings.echo.setup [pauseThenPage] "" .null)).2.isOk ∧
      isTimeout
        ((navigated 64).run .echo ⟨0, 0⟩ (Run.performAll Surroundings.echo.setup [pauseThenPage] "" .null)).2 := by
  decide +kernel

end World

end Harvest
