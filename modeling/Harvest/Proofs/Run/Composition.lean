import Harvest.Proofs.Rule.Performing
import Harvest.Run.Parse

/-!
Contract: laws of jobs that hold of whatever is put together from parts that obey them.

`Job.Composes` says that a law holds of a job that ends at once, of each request that is none of
an action's own bookkeeping and starts no race, of a capture, of a sequence of jobs that obey it, and of
listening on subscriptions of one's own. `Routine` adds what the performing of one action needs, and
`Practice` that the law allows races; `Conduct` adds how a parse prepares its page and tears it down.
`Routine.evaluateRule` and `Routine.performAll` carry the law through the nesting of rules and actions,
by induction on the description, as far as races are allowed where one is started.
-/

namespace Harvest

/-- A request that is no bookkeeping of actions: it neither asks for what is done nor records it,
reports no win and does not end the job. Nor has it to do with subscriptions, waits for a moment or starts a race, and
all it asks of the page are calls. -/
def Request.IsPlain : Request → Prop
  | .ask (.call _) => True
  | .ask _ => False
  | .askBy _ (.call _) => True
  | .askBy _ _ => False
  | .subscribe => False
  | .listen _ _ _ => False
  | .isDone _ => False
  | .record _ => False
  | .sleepUntil _ => False
  | .race _ _ _ => False
  | .win _ => False
  | .perish => False
  | _ => True

/-- A law allows to listen on a subscription. -/
def Job.MayHear (law : {α : Type} → Job α → Prop) (subscription : Nat) : Prop :=
  ∀ (limit : Nat) (awaited : Awaited), law (Job.perform (.listen subscription limit awaited))

/-- A law allows to sleep. -/
def Job.MaySleep (law : {α : Type} → Job α → Prop) : Prop :=
  ∀ time : Nat, law (Job.perform (.sleepUntil time))

/-- A law allows to start races. -/
def Job.MayRace (law : {α : Type} → Job α → Prop) : Prop :=
  ∀ (cases : List (List Action)) (selector : String) (previous : Json),
    law (Job.perform (.race cases selector previous))

/-- A law that holds of what is put together from jobs that obey it. What has subscribed may listen, and what has asked
for the time may sleep. -/
structure Job.Composes (law : {α : Type} → Job α → Prop) : Prop where
  done : ∀ {α : Type} (value : α), law (Job.done value)
  andThen : ∀ {α β : Type} {job : Job α} {next : α → Job β},
    law job → (∀ value, law (next value)) → law (job.andThen next)
  plain : ∀ request : Request, request.IsPlain → law (Job.perform request)
  capture : ∀ label : String, law (Script.capture label).run
  subscribed : ∀ {α : Type} {next : Nat → Job α},
    (∀ subscription, MayHear law subscription → law (next subscription)) → law (.request .subscribe next)
  timed : ∀ {α : Type} {next : Nat → Job α},
    (MaySleep law → ∀ time, law (next time)) → law (.request .now next)

namespace Job.Composes

variable {law : {α : Type} → Job α → Prop} {α β : Type}

/-! ### Scripts -/

theorem pure (composes : Composes law) (value : α) : law (Pure.pure value : Script α).run :=
  composes.done _

theorem fail (composes : Composes law) (failure : Failure) : law (throw failure : Script α).run :=
  composes.done _

theorem settled (composes : Composes law) (outcome : Except Failure α) : law (Script.settled outcome).run :=
  composes.done _

theorem bind (composes : Composes law) {script : Script α} {next : α → Script β} (first : law script.run)
    (last : ∀ value, law (next value).run) : law (script >>= next).run := by
  refine composes.andThen first fun outcome => ?_
  cases outcome with
  | ok value => exact last value
  | error failure => exact composes.done _

theorem map (composes : Composes law) {script : Script α} (change : α → β) (first : law script.run) :
    law (change <$> script).run := by
  refine composes.andThen first fun outcome => ?_
  cases outcome with
  | ok value => exact composes.done _
  | error failure => exact composes.done _

theorem always (composes : Composes law) {job : Job α} (obeys : law job) : law (Script.always job).run :=
  composes.andThen obeys fun _ => composes.done _

theorem outcome (composes : Composes law) {script : Script α} (obeys : law script.run) :
    law (Script.outcome script).run :=
  composes.always obeys

/-! ### Requests -/

theorem call (composes : Composes law) (call : PageCall) : law (Script.call call).run :=
  composes.plain (.ask (.call call)) trivial

theorem convert (composes : Composes law) (steps : List Transform.Step) (value : Json) :
    law (Script.convert steps value).run :=
  composes.plain (.convert steps value) trivial

theorem keep (composes : Composes law) (name : String) (value : Json) : law (Script.keep name value).run :=
  composes.always (composes.plain (.keep name value) trivial)

theorem subscribe (composes : Composes law) {next : Nat → Script α}
    (last : ∀ subscription, MayHear law subscription → law (next subscription).run) :
    law (Script.subscribe >>= next).run :=
  composes.subscribed last

theorem now (composes : Composes law) : law Script.now.run :=
  composes.always (composes.plain .now trivial)

theorem isBroken (composes : Composes law) (breaker : Breaker) : law (Script.isBroken breaker).run :=
  composes.always (composes.plain (.isBroken breaker) trivial)

theorem callBy (composes : Composes law) (deadline : Nat) (call : PageCall) :
    law (Script.callBy deadline call).run :=
  composes.always (composes.plain (.askBy deadline (.call call)) trivial)

theorem listen (composes : Composes law) {subscription : Nat} (mayHear : MayHear law subscription) (limit : Nat)
    (awaited : Awaited) : law (Script.listen subscription limit awaited).run :=
  composes.always (mayHear limit awaited)

theorem clock (composes : Composes law) {next : Nat → Script α}
    (last : MaySleep law → ∀ time, law (next time).run) : law (Script.now >>= next).run :=
  composes.timed last

theorem sleepUntil (composes : Composes law) (maySleep : MaySleep law) (time : Nat) :
    law (Script.sleepUntil time).run :=
  composes.always (maySleep time)

theorem sleep (composes : Composes law) (duration : Nat) : law (Script.sleep duration).run :=
  composes.clock fun maySleep _ => composes.sleepUntil maySleep _

/-! ### Waits -/

theorem checkBreaker (composes : Composes law) (options : WaitOptions) : law (Wait.checkBreaker options).run := by
  unfold Wait.checkBreaker
  split
  · exact composes.pure _
  · refine composes.bind (composes.isBroken _) fun isBroken => ?_
    split
    · exact composes.fail _
    · exact composes.pure _

theorem pollFrom (composes : Composes law) (maySleep : MaySleep law) (options : WaitOptions) (probe : PageCall)
    (accepts : Json → Bool) (deadline ticks due : Nat) : law (Wait.pollFrom options probe accepts deadline ticks due).run := by
  induction ticks generalizing due with
  | zero => exact composes.fail _
  | succ ticks inductionHypothesis =>
    unfold Wait.pollFrom
    split
    · exact composes.bind (composes.sleepUntil maySleep _) fun _ => composes.fail _
    · refine composes.bind (composes.sleepUntil maySleep _) fun _ => composes.bind composes.now fun time =>
        composes.bind (composes.checkBreaker _) fun _ => composes.bind (composes.callBy _ _) fun answer => ?_
      split
      · exact composes.fail _
      · exact composes.fail _
      · split
        · exact composes.pure _
        · exact inductionHypothesis _

theorem poll (composes : Composes law) (options : WaitOptions) (probe : PageCall) (accepts : Json → Bool) :
    law (Wait.poll options probe accepts).run :=
  composes.clock fun maySleep _ => composes.pollFrom maySleep _ _ _ _ _ _

theorem listenFrom (composes : Composes law) (options : WaitOptions) {subscription : Nat}
    (mayHear : MayHear law subscription) (awaited : Awaited) (deadline ticks due : Nat) :
    law (Wait.listenFrom options subscription awaited deadline ticks due).run := by
  induction ticks generalizing due with
  | zero => exact composes.fail _
  | succ ticks inductionHypothesis =>
    unfold Wait.listenFrom
    refine composes.bind (composes.listen mayHear _ _) fun heard => ?_
    split
    · exact composes.fail _
    · exact composes.pure _
    · exact composes.fail _
    · split
      · exact composes.fail _
      · exact composes.bind (composes.checkBreaker _) fun _ => inductionHypothesis _

theorem awaitEvent (composes : Composes law) (options : WaitOptions) {subscription : Nat}
    (mayHear : MayHear law subscription) (awaited : Awaited) :
    law (Wait.awaitEvent options subscription awaited).run :=
  composes.bind composes.now fun _ => composes.listenFrom _ mayHear _ _ _ _

/-! ### Actions that perform no others -/

theorem target (composes : Composes law) (head : ActionHead) (selector : String) :
    law (Run.target head selector).run := by
  unfold Run.target
  split
  · exact composes.fail _
  · exact composes.pure _

theorem mappingParam (composes : Composes law) (head : ActionHead) (name : String) :
    law (Run.mappingParam head name).run := by
  unfold Run.mappingParam
  split
  · exact composes.pure _
  · exact composes.pure _
  · exact composes.fail _

theorem callOnTarget (composes : Composes law) (head : ActionHead) (selector : String) (next : String → PageCall) :
    law (Run.target head selector >>= fun selector => Script.call (next selector)).run :=
  composes.bind (composes.target _ _) fun _ => composes.call _

theorem type (composes : Composes law) (head : ActionHead) (selector : String) (previous : Json) :
    law (Run.type head selector previous).run := by
  refine composes.bind (composes.target _ _) fun _ => ?_
  dsimp only
  split
  · exact composes.bind (composes.pure _) fun _ => composes.call _
  · exact composes.bind (composes.settled _) fun _ => composes.call _

theorem changeElement (composes : Composes law) (head : ActionHead) (selector : String) :
    law (Run.changeElement head selector).run :=
  composes.bind (composes.target _ _) fun _ => composes.bind (composes.mappingParam _ _) fun _ =>
    composes.bind (composes.mappingParam _ _) fun _ => composes.call _

theorem pause (composes : Composes law) (head : ActionHead) (previous : Json) : law (Run.sleep head previous).run := by
  unfold Run.sleep
  split
  · exact composes.fail _
  · exact composes.bind (composes.sleep _) fun _ => composes.pure _

theorem waitFor (composes : Composes law) (setup : Setup) (condition : PageCondition) (head : ActionHead)
    (selector : String) : law (Run.waitFor setup condition head selector).run := by
  refine composes.bind ?_ fun _ => composes.bind (composes.poll _ _ _) fun _ => composes.pure _
  cases condition with
  | ready => exact composes.pure _
  | present => exact composes.bind (composes.target _ _) fun _ => composes.pure _
  | visible => exact composes.bind (composes.target _ _) fun _ => composes.pure _
  | invisible => exact composes.bind (composes.target _ _) fun _ => composes.pure _

theorem patternParam (composes : Composes law) (head : ActionHead) : law (Run.patternParam head).run := by
  unfold Run.patternParam
  split
  · exact composes.fail _
  · split
    · exact composes.pure _
    · exact composes.fail _

theorem waitForPattern (composes : Composes law) (setup : Setup) (head : ActionHead) (selector : String) :
    law (Run.waitForPattern setup head selector).run :=
  composes.bind (composes.patternParam _) fun _ => composes.bind (composes.target _ _) fun _ =>
    composes.bind (composes.poll _ _ _) fun _ => composes.pure _

theorem awaitNavigation (composes : Composes law) (setup : Setup) (head : ActionHead) {subscription : Nat}
    (mayHear : MayHear law subscription) : law (Run.awaitNavigation setup head subscription).run := by
  refine composes.bind (composes.awaitEvent _ mayHear _) fun event => composes.bind (composes.call _) fun _ => ?_
  split
  · exact composes.pure _
  · exact composes.pure _

theorem awaitRequest (composes : Composes law) (setup : Setup) (head : ActionHead) (source : String)
    {subscription : Nat} (mayHear : MayHear law subscription) :
    law (Run.awaitRequest setup head source subscription).run := by
  unfold Run.awaitRequest
  split
  · exact composes.fail _
  · refine composes.bind (composes.awaitEvent _ mayHear _) fun event => ?_
    split
    · exact composes.pure _
    · exact composes.pure _

theorem visit (composes : Composes law) (head : ActionHead) : law (Run.visit head).run := by
  refine composes.bind (composes.settled _) fun _ => composes.bind (composes.call _) fun _ => ?_
  split
  · exact composes.fail _
  · exact composes.bind (composes.call _) fun _ => composes.bind (composes.call _) fun _ => composes.pure _

theorem performAlone (composes : Composes law) (setup : Setup) (kind : BuiltInAction) (head : ActionHead)
    (selector : String) (previous : Json) : law (Run.performAlone setup kind head selector previous).run := by
  cases kind with
  | gesture motion => exact composes.callOnTarget _ _ _
  | type => exact composes.type _ _ _
  | changeElement => exact composes.changeElement _ _
  | scroll => exact composes.call _
  | sleep => exact composes.pause _ _
  | waitFor condition => exact composes.waitFor _ _ _ _
  | waitForPattern => exact composes.waitForPattern _ _ _
  | waitForPage => exact composes.subscribe fun _ mayHear => composes.awaitNavigation _ _ mayHear
  | waitForRequest =>
    exact composes.bind (composes.settled _) fun _ => composes.subscribe fun _ mayHear =>
      composes.awaitRequest _ _ _ mayHear
  | exist =>
    exact composes.bind (composes.target _ _) fun _ => composes.bind (composes.call _) fun _ => composes.pure _
  | url => exact composes.call _
  | visit => exact composes.visit _
  | back => exact composes.bind (composes.call _) fun _ => composes.bind (composes.call _) fun _ => composes.pure _
  | snapshot => exact composes.bind (composes.capture _) fun _ => composes.pure _
  | parse => exact composes.fail _
  | condition => exact composes.pure _
  | cases => exact composes.fail _

/-- A law of attempts holds of an action that keeps books, if it holds of consulting them and of an entry. -/
theorem performOnce (composes : Composes law) (asks : ∀ identity, law (Job.perform (.isDone identity)))
    (records : ∀ identity, law (Job.perform (.record identity))) (head : ActionHead) (previous : Json)
    {attempt : Script Json} (obeys : law attempt.run) : law (Run.performOnce head previous attempt).run := by
  unfold Run.performOnce
  split
  · refine composes.bind (composes.always (asks _)) fun isDone => ?_
    split
    · exact composes.pure _
    · exact composes.bind obeys fun _ => composes.bind (composes.always (records _)) fun _ => composes.pure _
  · exact obeys

theorem awaitPage (composes : Composes law) (setup : Setup) (head : ActionHead) {pages : Option Nat}
    (mayHear : ∀ subscription ∈ pages, MayHear law subscription) : law (Run.awaitPage setup head pages).run := by
  unfold Run.awaitPage
  split
  · exact composes.pure _
  · exact composes.bind (composes.awaitNavigation _ _ (mayHear _ rfl)) fun _ => composes.pure _

theorem awaitAnnounced (composes : Composes law) (setup : Setup) (head : ActionHead) {pages requests : Option Nat}
    (mayHearPages : ∀ subscription ∈ pages, MayHear law subscription)
    (mayHearRequests : ∀ subscription ∈ requests, MayHear law subscription) :
    law (Run.awaitAnnounced setup head pages requests).run := by
  refine composes.bind (composes.awaitPage _ _ mayHearPages) fun _ => ?_
  unfold Run.awaitAddress
  split
  · exact composes.bind (composes.awaitRequest _ _ _ (mayHearRequests _ rfl)) fun _ => composes.pure _
  · exact composes.pure _

theorem subscribeIf (composes : Composes law) (wanted : Bool) {next : Option Nat → Script α}
    (last : ∀ opened, (∀ subscription ∈ opened, MayHear law subscription) → law (next opened).run) :
    law (Run.subscribeIf wanted >>= next).run := by
  cases wanted with
  | false => exact last none fun _ member => nomatch member
  | true =>
    refine composes.subscribed fun subscription mayHear => last (some subscription) ?_
    intro other same
    cases same
    exact mayHear

theorem attempt (composes : Composes law) (setup : Setup) (head : ActionHead) (parent : String)
    {work : Performer → String → Script Json}
    (obeys : ∀ performer selector, setup.performers.find? head.kind = some performer →
      law (work performer selector).run) :
    law (Run.attempt setup head parent work).run := by
  unfold Run.attempt
  split
  · exact composes.fail _
  · rename_i performer registered
    exact composes.subscribeIf _ fun _ mayHearPages => composes.subscribeIf _ fun _ mayHearRequests =>
      composes.bind (obeys performer _ registered) fun _ =>
        composes.bind (composes.awaitAnnounced _ _ mayHearPages mayHearRequests) fun _ => composes.pure _

end Job.Composes

/-! ### Scripts on a stack of scopes -/

/-- A law holds of a script on a stack of scopes when it does on every stack. -/
def Scoped.Obeys {α : Type} (law : {α : Type} → Job α → Prop) (nested : Scoped α) : Prop :=
  ∀ stack, law (nested.run.run stack)

namespace Job.Composes

variable {law : {α : Type} → Job α → Prop} {α β : Type}

theorem scopedPure (composes : Composes law) (value : α) : (Pure.pure value : Scoped α).Obeys law :=
  fun _ => composes.done _

theorem scopedFail (composes : Composes law) (failure : Failure) : (throw failure : Scoped α).Obeys law :=
  fun _ => composes.done _

theorem scopedSettled (composes : Composes law) (outcome : Except Failure α) : (Scoped.settled outcome).Obeys law :=
  fun _ => composes.done _

theorem scopedBind (composes : Composes law) {nested : Scoped α} {next : α → Scoped β} (first : nested.Obeys law)
    (last : ∀ value, (next value).Obeys law) : (nested >>= next).Obeys law := by
  intro stack
  refine composes.andThen (first stack) fun ending => ?_
  obtain ⟨outcome, stack⟩ := ending
  cases outcome with
  | ok value => exact last value stack
  | error failure => exact composes.done _

theorem scopedOutcome (composes : Composes law) {nested : Scoped α} (obeys : nested.Obeys law) :
    (Scoped.outcome nested).Obeys law :=
  fun stack => composes.andThen (obeys stack) fun _ => composes.done _

theorem ofScript (composes : Composes law) {script : Script α} (obeys : law script.run) :
    (Scoped.ofScript script).Obeys law :=
  fun _ => composes.andThen obeys fun _ => composes.done _

theorem push (composes : Composes law) (frame : ScopeFrame) : (Scoped.push frame).Obeys law :=
  fun _ => composes.done _

theorem pop (composes : Composes law) : Scoped.pop.Obeys law :=
  fun _ => composes.done _

theorem selector (composes : Composes law) : Scoped.selector.Obeys law :=
  fun _ => composes.done _

theorem within (composes : Composes law) {nested : Scoped α} (obeys : nested.Obeys law) (stack : ScopeStack) :
    law (nested.within stack).run :=
  composes.andThen (obeys stack) fun _ => composes.done _

/-! ### Rules -/

theorem enter (composes : Composes law) (head : RuleHead) : (Run.enter head).Obeys law := by
  unfold Run.enter
  split
  · exact composes.scopedPure _
  · exact composes.scopedBind (composes.push _) fun _ => composes.scopedPure _

theorem leave (composes : Composes law) (pushed : Bool) : (Run.leave pushed).Obeys law := by
  unfold Run.leave
  split
  · exact composes.pop
  · exact composes.scopedPure _

theorem convertEach (composes : Composes law) (steps : List Transform.Step) (texts : List String) :
    law (Run.convertEach steps texts).run := by
  induction texts with
  | nil => exact composes.pure _
  | cons text texts inductionHypothesis =>
    exact composes.bind (composes.convert _ _) fun _ => composes.bind inductionHypothesis fun _ => composes.pure _

theorem readSimple (composes : Composes law) (head : RuleHead) (selector : String) :
    law (Run.readSimple head selector).run := by
  refine composes.bind (composes.call _) fun _ => composes.bind (composes.settled _) fun _ => ?_
  split
  · exact composes.bind (composes.convertEach _ _) fun _ => composes.pure _
  · exact composes.convert _ _

theorem evaluateSimple (composes : Composes law) (head : RuleHead) : (Run.evaluateSimple head).Obeys law :=
  composes.scopedBind (composes.enter _) fun _ => composes.scopedBind composes.selector fun _ =>
    composes.scopedBind (composes.leave _) fun _ => composes.ofScript (composes.readSimple _ _)

theorem convertWhole (composes : Composes law) (head : RuleHead) (value : Json) :
    law (Run.convertWhole head value).run := by
  unfold Run.convertWhole
  split
  · exact composes.pure _
  · exact composes.convert _ _

theorem collectRows (composes : Composes law) (frame : Nat → ScopeFrame) {row : Scoped Json} (obeys : row.Obeys law)
    (index remaining : Nat) : (Run.collectRows frame row index remaining).Obeys law := by
  induction remaining generalizing index with
  | zero => exact composes.scopedPure _
  | succ remaining inductionHypothesis =>
    refine composes.scopedBind (composes.push _) fun _ => composes.scopedBind (composes.scopedOutcome obeys) fun _ =>
      composes.scopedBind composes.pop fun _ => ?_
    split
    · exact composes.scopedBind (inductionHypothesis _) fun _ => composes.scopedPure _
    · split
      · exact composes.scopedFail _
      · exact composes.scopedPure _

theorem evaluateGrid (composes : Composes law) (head : RuleHead) (offset : Nat) {row : Scoped Json}
    (obeys : row.Obeys law) : (Run.evaluateGrid head offset row).Obeys law := by
  unfold Run.evaluateGrid
  split
  · exact composes.scopedFail _
  · exact composes.scopedBind (composes.push _) fun _ => composes.scopedBind composes.selector fun _ =>
      composes.scopedBind composes.pop fun _ => composes.scopedBind (composes.ofScript (composes.call _)) fun _ =>
        composes.scopedBind (composes.collectRows _ obeys _ _) fun _ => composes.scopedPure _

theorem collectField (composes : Composes law) (head : RuleHead) {value : Scoped Json} (obeys : value.Obeys law)
    (fields : Fields) : (Run.collectField head value fields).Obeys law := by
  unfold Run.collectField
  split
  · exact composes.scopedFail _
  · exact composes.scopedBind obeys fun _ => composes.scopedBind (composes.ofScript (composes.keep _ _)) fun _ =>
      composes.scopedPure _

theorem performFirst (composes : Composes law) (actions : List Action) {performed : String → Script Json}
    (obeys : ∀ parent, law (performed parent).run) : (Run.performFirst actions performed).Obeys law := by
  unfold Run.performFirst
  split
  · exact composes.scopedPure _
  · exact composes.scopedBind composes.selector fun _ => composes.scopedBind (composes.ofScript (obeys _)) fun _ =>
      composes.scopedPure _

theorem inside (composes : Composes law) (head : RuleHead) {members : Scoped Json} (obeys : members.Obeys law) :
    (Run.inside head members).Obeys law :=
  composes.scopedBind (composes.enter _) fun _ => composes.scopedBind (composes.scopedOutcome obeys) fun _ =>
    composes.scopedBind (composes.leave _) fun _ => composes.scopedSettled _

end Job.Composes

/-! ### Registered actions -/

theorem Registry.mem_insertSorted {α : Type} {name : String} {entry : α} {entries : List (String × α)}
    {found : String × α} (member : found ∈ Registry.insertSorted name entry entries) :
    found = (name, entry) ∨ found ∈ entries := by
  induction entries with
  | nil => exact .inl (List.mem_singleton.mp member)
  | cons first entries inductionHypothesis =>
    obtain ⟨key, former⟩ := first
    unfold Registry.insertSorted at member
    split at member
    · rcases List.mem_cons.mp member with same | old
      · exact .inl same
      · exact .inr (List.mem_cons_of_mem _ old)
    · split at member
      · rcases List.mem_cons.mp member with same | old
        · exact .inl same
        · exact .inr old
      · rcases List.mem_cons.mp member with same | old
        · exact .inr (by rw [same]; exact List.mem_cons_self)
        · rcases inductionHypothesis old with same | older
          · exact .inl same
          · exact .inr (List.mem_cons_of_mem _ older)

/-- A registry of a list holds nothing but what is in the list. -/
theorem Registry.mem_ofList {α : Type} {entries : List (String × α)} {found : String × α}
    (member : found ∈ (Registry.ofList entries).entries) : found ∈ entries := by
  have behind : ∀ (entries : List (String × α)) (registry : Registry α),
      found ∈ (entries.foldl (fun registry entry => registry.insert entry.1 entry.2) registry).entries →
        found ∈ entries ∨ found ∈ registry.entries := by
    intro entries
    induction entries with
    | nil => exact fun _ member => .inr member
    | cons first entries inductionHypothesis =>
      intro registry member
      rcases inductionHypothesis _ member with later | now
      · exact .inl (List.mem_cons_of_mem _ later)
      · rcases Registry.mem_insertSorted now with same | old
        · exact .inl (by rw [same]; exact List.mem_cons_self)
        · exact .inr old
  rcases behind entries {} member with listed | none
  · exact listed
  · exact nomatch none

/-- Nothing but built-in actions is registered from the start. -/
theorem Performer.find?_standard_ne_custom (kind name : String) (run : ActionHead → String → Json → Script Json) :
    Performer.standard.find? kind ≠ some (.custom name run) := by
  intro registered
  have listed : (kind, Performer.custom name run) ∈ Performer.standard.entries := Registry.mem_entries_of_find? registered
  obtain ⟨entry, _, same⟩ := List.mem_map.mp (Registry.mem_ofList listed)
  exact nomatch (Prod.mk.inj same).2

/-! ### Nested rules and actions -/

/-- What an attempt at an action does between subscribing and awaiting. -/
def Run.ownWork (setup : Setup) :
    Action → (previous : Json) → (performer : Performer) → (selector : String) → Script Json
  | .mk head _ _ _ _ _, previous, .custom _ run, selector => run head selector previous
  | .mk head actions conditions otherwise cases rules, previous, .builtIn kind, selector =>
    match kind with
    | .parse =>
      match rules with
      | none => Run.refuse head (.missing "rules")
      | some rule => (Run.evaluateRule setup rule 0).within (.rootedAt selector)
    | .condition => do
      let verdict ← Run.performAll setup conditions selector previous
      if verdict.isTruthy then Run.performAll setup actions selector verdict
      else
        match otherwise with
        | none => return .bool false
        | some actions => Run.performAll setup actions selector verdict
    | .cases => if cases.isEmpty then throw (.invalidAction "cases" .noChains)
      else Script.race cases selector previous
    | kind => Run.performAlone setup kind head selector previous

/-- An action is performed by an attempt at its own work. -/
theorem Run.perform_eq (setup : Setup) (action : Action) (parent : String) (previous : Json) :
    Run.perform setup action parent previous = Run.performOnce action.head previous
      (Run.attempt setup action.head parent (Run.ownWork setup action previous)) := by
  obtain ⟨head, actions, conditions, otherwise, cases, rules⟩ := action
  unfold Run.perform
  congr 2
  funext performer selector
  cases performer with
  | custom name run => rfl
  | builtIn kind => cases kind <;> rfl

/-- A law that also holds of an action by an attempt that obeys it, and of the scripts that are registered besides
the built-in actions. -/
structure Routine (law : {α : Type} → Job α → Prop) (setup : Setup) : Prop extends Job.Composes law where
  once : ∀ (head : ActionHead) (previous : Json) {attempt : Script Json}, law attempt.run →
    law (Run.performOnce head previous attempt).run
  custom : ∀ (kind name : String) (run : ActionHead → String → Json → Script Json),
    setup.performers.find? kind = some (.custom name run) →
    ∀ head selector previous, law (run head selector previous).run

namespace Routine

variable {law : {α : Type} → Job α → Prop} {setup : Setup}

/-- An action obeys the law where its own work does. -/
theorem perform_of_work (routine : Routine law setup) (action : Action) (parent : String) (previous : Json)
    (obeys : ∀ performer selector, setup.performers.find? action.head.kind = some performer →
      law (Run.ownWork setup action previous performer selector).run) :
    law (Run.perform setup action parent previous).run := by
  rw [Run.perform_eq]
  exact routine.once _ _ (routine.attempt _ _ _ obeys)

mutual

/-- The law holds of evaluating a rule, if it allows the races that are started inside. -/
theorem evaluateRule (routine : Routine law setup) : ∀ (rule : Rule) (offset : Nat),
    (∀ inner : Action, Rule.Performs inner rule → inner.StartsRace setup → Job.MayRace law) →
    (Run.evaluateRule setup rule offset).Obeys law
  | .mk head members actions, offset, races => by
    unfold Run.evaluateRule
    refine routine.scopedBind (routine.scopedSettled _) fun _ =>
      routine.scopedBind (routine.performFirst _ fun _ => routine.performAll actions _ _ fun _ among inner inside =>
        races inner (.own among inside)) fun _ => ?_
    match members with
    | none => exact routine.evaluateSimple head
    | some [] =>
      exact routine.scopedBind (routine.inside _ (routine.evaluateMembers [] [] fun _ among => nomatch among)) fun _ =>
        routine.ofScript (routine.convertWhole _ _)
    | some (.row rules :: _) =>
      have rows := routine.evaluateRules rules [] fun _ within inner performs =>
        races inner (.row List.mem_cons_self within performs)
      exact routine.scopedBind (routine.evaluateGrid _ _ rows) fun _ => routine.ofScript (routine.convertWhole _ _)
    | some (.rule rule :: members) =>
      have fields := routine.evaluateMembers (.rule rule :: members) [] fun _ among inner performs =>
        races inner (.member among performs)
      exact routine.scopedBind (routine.inside _ fields) fun _ => routine.ofScript (routine.convertWhole _ _)

/-- The law holds of evaluating the members of a collection. -/
theorem evaluateMembers (routine : Routine law setup) : ∀ (members : List Member) (fields : Fields),
    (∀ rule, Member.rule rule ∈ members →
      ∀ inner : Action, Rule.Performs inner rule → inner.StartsRace setup → Job.MayRace law) →
    (Run.evaluateMembers setup members fields).Obeys law
  | [], fields, _ => by
    unfold Run.evaluateMembers
    exact routine.scopedPure _
  | .rule rule :: members, fields, races => by
    unfold Run.evaluateMembers
    exact routine.scopedBind (routine.collectField _ (routine.evaluateRule rule 0 (races rule List.mem_cons_self)) _)
      fun _ => routine.evaluateMembers members _ fun rule among => races rule (List.mem_cons_of_mem _ among)
  | .row _ :: members, fields, races => by
    unfold Run.evaluateMembers
    exact routine.evaluateMembers members fields fun rule among => races rule (List.mem_cons_of_mem _ among)

/-- The law holds of evaluating the rules of a row. -/
theorem evaluateRules (routine : Routine law setup) : ∀ (rules : List Rule) (fields : Fields),
    (∀ rule ∈ rules, ∀ inner : Action, Rule.Performs inner rule → inner.StartsRace setup → Job.MayRace law) →
    (Run.evaluateRules setup rules fields).Obeys law
  | [], fields, _ => by
    unfold Run.evaluateRules
    exact routine.scopedPure _
  | rule :: rules, fields, races => by
    unfold Run.evaluateRules
    exact routine.scopedBind (routine.collectField _ (routine.evaluateRule rule 0 (races rule List.mem_cons_self)) _)
      fun _ => routine.evaluateRules rules _ fun rule within => races rule (List.mem_cons_of_mem _ within)

/-- The law holds of the work of an action. -/
theorem ownWork (routine : Routine law setup) : ∀ (action : Action) (previous : Json) (performer : Performer)
    (selector : String), (∀ inner : Action, inner.Inside action → inner.StartsRace setup → Job.MayRace law) →
    setup.performers.find? action.head.kind = some performer →
    law (Run.ownWork setup action previous performer selector).run
  | .mk head actions conditions otherwise cases rules, previous, performer, selector, races, registered => by
    match performer with
    | .custom name run => exact routine.custom head.kind name run registered head selector previous
    | .builtIn kind =>
      cases kind with
      | parse =>
        match rules with
        | none => exact routine.fail _
        | some rule =>
          exact routine.within (routine.evaluateRule rule 0 fun inner performs => races inner (.rules performs)) _
      | condition =>
        have verdicts := routine.performAll conditions selector previous fun _ among inner inside =>
          races inner (.condition among inside)
        refine routine.bind verdicts fun verdict => ?_
        split
        · exact routine.performAll actions _ _ fun _ among inner inside => races inner (.action among inside)
        · match otherwise with
          | none => exact routine.pure _
          | some others =>
            exact routine.performAll others _ _ fun _ among inner inside => races inner (.alternative among inside)
      | cases =>
        unfold Run.ownWork
        dsimp only
        split
        case isTrue => exact routine.fail _
        case isFalse some =>
          have starts : Action.StartsRace setup (.mk head actions conditions otherwise cases rules) :=
            ⟨registered, fun none => some (List.isEmpty_iff.mpr none)⟩
          exact races _ .self starts cases selector previous
      | _ =>
        unfold Run.ownWork
        exact routine.performAlone _ _ _ _ _

/-- The law holds of performing actions in order. -/
theorem performAll (routine : Routine law setup) : ∀ (actions : List Action) (parent : String) (previous : Json),
    (∀ action ∈ actions, ∀ inner : Action, inner.Inside action → inner.StartsRace setup → Job.MayRace law) →
    law (Run.performAll setup actions parent previous).run
  | [], _, previous, _ => by
    unfold Run.performAll
    exact routine.pure _
  | action :: actions, parent, previous, races => by
    unfold Run.performAll
    have first := routine.perform_of_work action parent previous fun performer selector =>
      routine.ownWork action previous performer selector (races action List.mem_cons_self)
    exact routine.bind first fun _ =>
      routine.performAll actions parent _ fun action among => races action (List.mem_cons_of_mem _ among)

end

/-! ### Pages -/

theorem probe (routine : Routine law setup) (options : WaitOptions) (call : PageCall) (accepts : Json → Bool) :
    law (Run.probe options call accepts).run := by
  refine routine.bind (routine.outcome (routine.poll _ _ _)) fun outcome => ?_
  cases outcome with
  | ok _ => exact routine.pure _
  | error failure => exact routine.fail _

theorem turnPage (routine : Routine law setup) (pagination : Pagination) :
    law (Run.turnPage setup pagination).run := by
  unfold Run.turnPage
  dsimp only
  split
  · exact routine.bind (routine.call _) fun _ => routine.bind (routine.call _) fun _ =>
      routine.bind (routine.probe _ _ _) fun _ => routine.pure _
  · refine routine.bind (routine.call _) fun _ => ?_
    split
    · exact routine.pure _
    · exact routine.bind (routine.call _) fun _ => routine.bind (routine.call _) fun _ =>
        routine.bind (routine.probe _ _ _) fun _ => routine.pure _

theorem nextPage (routine : Routine law setup) (pagination : Pagination) (seen : Nat) :
    law (Run.nextPage setup pagination seen).run := by
  unfold Run.nextPage
  extract_lets isLast
  cases isLast with
  | true => exact routine.pure _
  | false =>
    refine routine.bind (routine.outcome (routine.turnPage _)) fun outcome => ?_
    split
    · exact routine.pure _
    · exact routine.pure _

section

variable {rule : Rule}
  (races : ∀ inner : Action, Rule.Performs inner rule → inner.StartsRace setup → Job.MayRace law)

include races

theorem evaluateWithin (routine : Routine law setup) (stack : ScopeStack) (offset : Nat) :
    law (Run.evaluateWithin setup rule stack offset).run :=
  routine.within (routine.evaluateRule rule offset races) stack

theorem evaluatePages (routine : Routine law setup) (pagination : Pagination) (limit seen : Nat) (collected : Json) :
    law (Run.evaluatePages setup pagination rule limit seen collected).run := by
  induction limit generalizing seen collected with
  | zero => exact routine.pure _
  | succ limit inductionHypothesis =>
    refine routine.bind (routine.nextPage _ _) fun page => ?_
    split
    · exact routine.pure _
    · exact routine.bind (evaluateWithin races routine _ _) fun _ => inductionHypothesis _ _

end

/-- The law holds of what a parse does between preparing the page and closing. -/
theorem evaluateAll (routine : Routine law setup) (config : ParseConfig)
    (performed : ∀ action ∈ config.actions, ∀ inner : Action, inner.Inside action → inner.StartsRace setup →
      Job.MayRace law)
    (evaluated : ∀ inner : Action, Rule.Performs inner config.rules → inner.StartsRace setup → Job.MayRace law) :
    law (Run.evaluateAll setup config).run := by
  have collects : law (Run.collectPages setup config).run := by
    refine routine.bind (evaluateWithin evaluated routine _ _) fun result => ?_
    split
    · exact routine.pure _
    · exact evaluatePages evaluated routine _ _ _ _
  unfold Run.evaluateAll
  split
  · exact collects
  · exact routine.bind (routine.performAll _ _ _ performed) fun _ => collects

end Routine

/-- A law that also allows races. -/
structure Practice (law : {α : Type} → Job α → Prop) (setup : Setup) : Prop extends Routine law setup where
  race : Job.MayRace law

namespace Practice

variable {law : {α : Type} → Job α → Prop} {setup : Setup}

/-- The law holds of performing any actions in order. -/
theorem performAll (practice : Practice law setup) (actions : List Action) (parent : String) (previous : Json) :
    law (Run.performAll setup actions parent previous).run :=
  practice.toRoutine.performAll actions parent previous fun _ _ _ _ _ => practice.race

/-- The law holds of the work of any action. -/
theorem ownWork (practice : Practice law setup) (action : Action) (previous : Json) (performer : Performer)
    (selector : String) (registered : setup.performers.find? action.head.kind = some performer) :
    law (Run.ownWork setup action previous performer selector).run :=
  practice.toRoutine.ownWork action previous performer selector (fun _ _ _ => practice.race) registered

/-- The law holds of performing any action. -/
theorem perform (practice : Practice law setup) (action : Action) (parent : String) (previous : Json) :
    law (Run.perform setup action parent previous).run :=
  practice.perform_of_work action parent previous (practice.ownWork action previous)

/-- A law that holds of reporting a win holds of performing any case. -/
theorem performCase (practice : Practice law setup) (wins : ∀ value, law (Job.perform (.win value)))
    (selector : String) (hasWon : Bool) (steps : List Action) (previous : Json) :
    law (Run.performCase setup selector hasWon steps previous).run := by
  induction steps generalizing hasWon previous with
  | nil => exact practice.pure _
  | cons action steps inductionHypothesis =>
    refine practice.bind (practice.perform action selector previous) fun result => ?_
    split
    · exact practice.bind (practice.always (wins result)) fun _ => inductionHypothesis _ _
    · exact inductionHypothesis _ _

theorem evaluateWithin (practice : Practice law setup) (rule : Rule) (stack : ScopeStack) (offset : Nat) :
    law (Run.evaluateWithin setup rule stack offset).run :=
  Routine.evaluateWithin (fun _ _ _ => practice.race) practice.toRoutine stack offset

theorem evaluateAll (practice : Practice law setup) (config : ParseConfig) : law (Run.evaluateAll setup config).run :=
  practice.toRoutine.evaluateAll config (fun _ _ _ _ _ => practice.race) fun _ _ _ => practice.race

end Practice

/-- A law that also holds of preparing the page, and of ending with a result once the page is torn down, whatever comes
of that. -/
structure Conduct (law : {α : Type} → Job α → Prop) (setup : Setup) : Prop extends Practice law setup where
  prepares : law (Script.work .prepare).run
  tearsDown : ∀ result : Except Failure Json, law (do
    let _ ← Script.outcome (Script.work .tearDown)
    Script.settled result : Script Json).run

namespace Conduct

variable {law : {α : Type} → Job α → Prop} {setup : Setup}

/-- The law holds of any parse. -/
theorem parse (conduct : Conduct law setup) (config : ParseConfig) : law (Run.parse setup config).run := by
  refine conduct.bind (conduct.outcome (conduct.bind conduct.prepares fun _ => conduct.evaluateAll _)) fun result => ?_
  cases result with
  | ok value => exact conduct.tearsDown _
  | error failure =>
    dsimp only
    split
    · exact conduct.bind (conduct.capture _) fun _ => conduct.tearsDown _
    · exact conduct.tearsDown _

end Conduct

end Harvest
