import Harvest.Proofs.Run.Alone
import Harvest.Proofs.Run.Composition
import Harvest.Proofs.Run.GridRows
import Harvest.Proofs.Run.Idle

/-!
Contract: what is left of an action that fails because of its description.

A built-in action checks its parameters before it does anything, so where they are at fault the page is as it was. The
pattern of a request that an action announces is the exception: it is read only when the action has been performed. In
no case is the action recorded as done.
-/

namespace Harvest

namespace Script

variable {α β : Type} {page later : Page} {trail : List Exchange}

theorem Ends.bare {script : Script α} {outcome : Except Failure α} (ends : script.Ends page trail outcome later)
    (asks : script.AsksOnly Request.IsIdle) : later.bare = page.bare := by
  have idle := (Job.AsksOnly.trail asks ends.way).1
  refine ends.along.preserves Page.bare_of_idle fun exchange member work asked => ?_
  have here := idle exchange member
  obtain ⟨request, answer⟩ := exchange
  cases request with
  | ask asked' => cases asked; exact here
  | askBy deadline asked' => cases asked; exact here
  | _ => cases asked

/-- Whatever a script fails with, the description is not at fault. -/
def Faultless (script : Script α) : Prop :=
  ∀ (page later : Page) (trail : List Exchange) (failure : Failure),
    script.Ends page trail (.error failure) later → failure.isConfiguration = false

theorem faultless_pure (value : α) : (pure value : Script α).Faultless := by
  intro page later trail failure ends
  cases (ends_pure ends).2.1

theorem faultless_fail {failure : Failure} (other : failure.isConfiguration = false) :
    (throw failure : Script α).Faultless := by
  intro page later trail failure' ends
  cases (ends_fail ends).2.1
  exact other

theorem faultless_always (job : Job α) : (always job).Faultless := by
  intro page later trail failure ends
  obtain ⟨value, same⟩ := ends_always ends
  cases same

theorem faultless_call (call : PageCall) : (Script.call call).Faultless := by
  intro page later trail failure ends
  exact Page.isConfiguration_of_dispatch (ends_call ends).1.symm

theorem Faultless.bind {script : Script α} {next : α → Script β} (first : script.Faultless)
    (last : ∀ value, (next value).Faultless) : (script >>= next).Faultless := by
  intro page later trail failure ends
  rcases ends_bind ends with ⟨failed, same, ahead⟩ | ⟨front, back, value, middle, _, _, behind⟩
  · cases same
    exact first _ _ _ _ ahead
  · exact last value _ _ _ _ behind

end Script

namespace Run

open Script

variable {setup : Setup} {head : ActionHead} {page later : Page} {trail : List Exchange}

/-! ### What is awaited -/

/-- A failure is that an action announces a request by a text that is no pattern. -/
def BlamesPattern (head : ActionHead) (failure : Failure) : Prop :=
  ∃ source fault, head.awaitsRequest = some source ∧ Pattern.ofText source "" = .error fault ∧
    failure = .invalidAction head.kind (.badAddressPattern source)

theorem faultless_listenFrom (options : WaitOptions) (subscription : Nat) (awaited : Awaited)
    (deadline ticks due : Nat) : (Wait.listenFrom options subscription awaited deadline ticks due).Faultless := by
  have breaker : (Wait.checkBreaker options).Faultless := by
    unfold Wait.checkBreaker
    split
    · exact faultless_pure ()
    · refine (faultless_always _).bind fun isBroken => ?_
      split
      · exact faultless_fail rfl
      · exact faultless_pure ()
  induction ticks generalizing due with
  | zero => exact faultless_fail rfl
  | succ ticks inductionHypothesis =>
    unfold Wait.listenFrom
    refine (faultless_always _).bind fun heard => ?_
    split
    · exact faultless_fail rfl
    · exact faultless_pure _
    · exact faultless_fail rfl
    · split
      · exact faultless_fail rfl
      · exact breaker.bind fun _ => inductionHypothesis _

theorem faultless_awaitEvent (options : WaitOptions) (subscription : Nat) (awaited : Awaited) :
    (Wait.awaitEvent options subscription awaited).Faultless :=
  (faultless_always _).bind fun _ => faultless_listenFrom _ _ _ _ _ _

theorem faultless_awaitPage (pages : Option Nat) : (awaitPage setup head pages).Faultless := by
  cases pages with
  | none => exact faultless_pure ()
  | some subscription =>
    refine Faultless.bind ?_ fun _ => faultless_pure ()
    refine (faultless_awaitEvent _ _ _).bind fun event => (faultless_call _).bind fun _ => ?_
    split <;> exact faultless_pure _

/-- A request is awaited in vain because of the description only if its pattern is at fault. -/
theorem awaitRequest_fault {source : String} {subscription : Nat} {failure : Failure}
    (ends : (awaitRequest setup head source subscription).Ends page trail (.error failure) later)
    (fault : failure.isConfiguration = true) : (∃ fault, Pattern.ofText source "" = .error fault) ∧
      failure = .invalidAction head.kind (.badAddressPattern source) := by
  unfold awaitRequest at ends
  split at ends
  next unread => exact ⟨⟨_, unread⟩, Except.error.inj (ends_fail ends).2.1⟩
  · refine absurd fault (Bool.eq_false_iff.mp ((faultless_awaitEvent _ _ _).bind (fun event => ?_) _ _ _ _ ends))
    split <;> exact faultless_pure _

/-- What an action announces is awaited in vain because of the description only if the pattern of the request is at
fault. -/
theorem awaitAnnounced_fault {pages requests : Option Nat} {failure : Failure}
    (ends : (awaitAnnounced setup head pages requests).Ends page trail (.error failure) later)
    (fault : failure.isConfiguration = true) : BlamesPattern head failure := by
  rcases ends_bind ends with ⟨failed, same, ahead⟩ | ⟨front, back, value, middle, _, _, behind⟩
  · cases same
    exact absurd fault (Bool.eq_false_iff.mp (faultless_awaitPage _ _ _ _ _ ahead))
  · unfold awaitAddress at behind
    split at behind
    next source subscription announced =>
      rcases ends_bind behind with ⟨failed, same, ahead⟩ | ⟨_, _, _, _, _, _, last⟩
      · cases same
        obtain ⟨⟨unread, reading⟩, why⟩ := awaitRequest_fault ahead fault
        exact ⟨source, unread, announced, reading, why⟩
      · cases (ends_pure last).2.1
    next => cases (ends_pure behind).2.1

/-! ### What an action does -/

theorem innocent_of_resolve {current wanted : String} {fault : ActionFault}
    (unresolved : resolve current wanted = .error fault) (source : String) : fault ≠ .badAddressPattern source := by
  unfold resolve at unresolved
  split at unresolved
  · cases unresolved
  · split at unresolved
    · cases unresolved
      exact nofun
    · split at unresolved
      · cases unresolved
      · cases unresolved
        exact nofun

/-- The page behind a call that is noted is another one. -/
theorem bare_ne_of_noted {note : String} (noted : later.interactions = page.interactions ++ [note]) :
    later.bare ≠ page.bare := by
  intro same
  have shorter : later.bare.interactions = page.bare.interactions := congrArg Page.interactions same
  change later.interactions = page.interactions at shorter
  rw [noted] at shorter
  exact absurd (List.append_right_eq_self.mp shorter) (List.cons_ne_nil _ _)

/-- What comes of an action that does something: one of its parameters is at fault, which is no pattern of a request,
and the page is as it was; or it fails for another reason; or it succeeds and has done what it does, if that is
anything. -/
inductive Aftermath (head : ActionHead) (acts : Prop) (page later : Page) : Except Failure Json → Prop where
  | refused {fault : ActionFault} (innocent : ∀ source, fault ≠ .badAddressPattern source) (stays : later = page) :
      Aftermath head acts page later (.error (.invalidAction head.kind fault))
  | failed {failure : Failure} (other : failure.isConfiguration = false) :
      Aftermath head acts page later (.error failure)
  | done {value : Json} (does : later.bare = page.bare ↔ ¬ acts) : Aftermath head acts page later (.ok value)

variable {outcome : Except Failure Json}

theorem aftermath_of_makesCall {script : Script Json} (makes : MakesCall head script)
    (ends : script.Ends page trail outcome later) : Aftermath head True page later outcome := by
  cases makes with
  | refused fault innocent =>
    obtain ⟨_, rfl, stays⟩ := ends_fail ends
    exact .refused innocent stays
  | @call call noted =>
    obtain ⟨rfl, rfl⟩ := ends_call ends
    cases answered : (page.dispatch call).answer with
    | error failure => exact .failed (Page.isConfiguration_of_dispatch answered)
    | ok value =>
      obtain ⟨note, grown⟩ := Page.interactions_of_noted noted (by rw [answered]; rfl)
      exact .done (iff_of_false (bare_ne_of_noted grown) (fun still => still trivial))

/-- Having the helpers injected cannot fail, and leaves the page as it is. -/
theorem ends_injectHelpers {result : Json} (ends : (do
    let _ ← Script.call .injectHelpers
    return result : Script Json).Ends page trail outcome later) : outcome = .ok result ∧ later.bare = page.bare := by
  rcases ends_bind ends with ⟨failure, rfl, ahead⟩ | ⟨_, _, _, middle, _, ahead, behind⟩
  · cases (ends_call ahead).1
  · obtain ⟨_, rfl, rfl⟩ := ends_pure behind
    obtain ⟨_, rfl⟩ := ends_call ahead
    exact ⟨rfl, rfl⟩

theorem aftermath_of_visit (ends : (visit head).Ends page trail outcome later) :
    Aftermath head True page later outcome := by
  rcases ends_bind ends with ⟨failure, rfl, checked⟩ | ⟨_, _, wanted, _, _, checked, asks⟩
  · obtain ⟨_, same, stays⟩ := ends_settled checked
    unfold ActionHead.requireText at same
    split at same
    · cases same
    · cases same
      exact .refused nofun stays
  obtain ⟨_, _, rfl⟩ := ends_settled checked
  rcases ends_bind asks with ⟨failure, rfl, asked⟩ | ⟨_, _, current, _, _, asked, goes⟩
  · exact .failed (faultless_call .url _ _ _ _ asked)
  obtain ⟨_, rfl⟩ := ends_call asked
  split at goes
  next fault unresolved =>
    obtain ⟨_, rfl, stays⟩ := ends_fail goes
    exact .refused (innocent_of_resolve unresolved) stays
  next address _ =>
    rcases ends_bind goes with ⟨failure, rfl, gone⟩ | ⟨_, _, _, _, _, gone, injects⟩
    · exact .failed (faultless_call (.visit address) _ _ _ _ gone)
    obtain ⟨answered, rfl⟩ := ends_call gone
    obtain ⟨rfl, same⟩ := ends_injectHelpers injects
    have arrived : ∃ note, (Page.dispatch _ (.visit address)).page.interactions = _ :=
      Page.interactions_of_noted trivial (by rw [← answered]; rfl)
    obtain ⟨note, grown⟩ := arrived
    refine .done (iff_of_false (fun still => ?_) (fun still => still trivial))
    exact bare_ne_of_noted grown (same.symm.trans still)

theorem aftermath_of_back (ends : back.Ends page trail outcome later) :
    Aftermath head (page.history ≠ []) page later outcome := by
  rcases ends_bind ends with ⟨failure, rfl, gone⟩ | ⟨_, _, result, _, _, gone, injects⟩
  · exact .failed (faultless_call .back _ _ _ _ gone)
  obtain ⟨answered, rfl⟩ := ends_call gone
  obtain ⟨rfl, same⟩ := ends_injectHelpers injects
  refine .done ?_
  rw [same, Classical.not_not]
  show page.back.page.bare = page.bare ↔ page.history = []
  unfold Page.back
  cases visited : page.history with
  | nil => exact iff_of_true rfl rfl
  | cons former history =>
    refine iff_of_false (fun still => ?_) nofun
    have shorter : history = page.history := congrArg Page.history still
    exact List.cons_ne_self former history (visited.symm.trans shorter.symm)

theorem aftermath_of_performAlone {kind : BuiltInAction} (acting : ¬ kind.IsIdle) {selector : String} {previous : Json}
    (ends : (performAlone setup kind head selector previous).Ends page trail outcome later) :
    Aftermath head (kind.ActsOn page) page later outcome := by
  have once : kind.MakesOneCall → Aftermath head True page later outcome := fun once =>
    aftermath_of_makesCall (makesCall_performAlone setup once selector previous) ends
  cases kind with
  | visit => exact aftermath_of_visit ends
  | back => exact aftermath_of_back ends
  | gesture motion => exact once trivial
  | type => exact once trivial
  | changeElement => exact once trivial
  | scroll => exact once trivial
  | _ => exact absurd trivial acting

/-- Where a built-in action that performs no others fails because of its description, the page is as it was; and if the
action does something, it is not the pattern of a request that is at fault. -/
theorem bare_of_refused {kind : BuiltInAction} {selector : String} {previous : Json} {failure : Failure}
    (ends : (performAlone setup kind head selector previous).Ends page trail (.error failure) later)
    (fault : failure.isConfiguration = true) :
    later.bare = page.bare ∧ ¬ (kind.ActsOn page ∧ BlamesPattern head failure) := by
  by_cases idle : kind.IsIdle
  · -- an idle action may well blame a pattern, the one it waits for itself
    exact ⟨ends.bare (asksOnly_performAlone setup head idle selector previous),
      fun ⟨acts, _⟩ => idle.not_actsOn page acts⟩
  · cases aftermath_of_performAlone idle ends with
    | refused innocent stays =>
      refine ⟨congrArg Page.bare stays, ?_⟩
      rintro ⟨_, source, _, _, _, same⟩
      cases same
      exact innocent source rfl
    | failed other => exact absurd fault (Bool.eq_false_iff.mp other)

/-- Where it succeeds, the page is as it was exactly if the action does nothing. -/
theorem bare_of_performed_iff {kind : BuiltInAction} {selector : String} {previous value : Json}
    (ends : (performAlone setup kind head selector previous).Ends page trail (.ok value) later) :
    later.bare = page.bare ↔ ¬ kind.ActsOn page := by
  by_cases idle : kind.IsIdle
  · exact iff_of_true (ends.bare (asksOnly_performAlone setup head idle selector previous)) (idle.not_actsOn page)
  · cases aftermath_of_performAlone idle ends with
    | done does => exact does

/-! ### Attempts -/

/-- Where an attempt fails, its work fails, or its work succeeds and what is announced is awaited in vain. -/
theorem ends_attempt {parent : String} {work : Performer → String → Script Json} {performer : Performer}
    {failure : Failure} (registered : setup.performers.find? head.kind = some performer)
    (ends : (attempt setup head parent work).Ends page trail (.error failure) later) :
    (∃ inner, (work performer (head.selector parent)).Ends page inner (.error failure) later) ∨
      ∃ inner outer result middle pages requests,
        (work performer (head.selector parent)).Ends page inner (.ok result) middle ∧
        (awaitAnnounced setup head pages requests).Ends middle outer (.error failure) later := by
  have opens : ∀ wanted {page later : Page} {trail : List Exchange} {outcome : Except Failure (Option Nat)},
      (subscribeIf wanted).Ends page trail outcome later → later = page ∧ ∃ opened, outcome = .ok opened := by
    intro wanted page later trail outcome opened
    cases wanted with
    | false =>
      obtain ⟨_, same, stays⟩ := ends_pure opened
      exact ⟨stays, _, same⟩
    | true =>
      have asks : (subscribeIf true).AsksOnly fun request => request.work? = none ∧ request.IsLocal :=
        ⟨⟨rfl, trivial⟩, fun _ => trivial⟩
      refine ⟨(opened.still asks).1, ?_⟩
      cases opened.way with
      | step behind => exact ⟨_, Job.done.inj behind.eq_of_done.2⟩
  unfold attempt at ends
  rw [registered] at ends
  rcases ends_bind ends with ⟨_, _, opened⟩ | ⟨_, _, pages, _, _, opened, subscribes⟩
  · exact nomatch (opens _ opened).2
  obtain ⟨rfl, _⟩ := opens _ opened
  rcases ends_bind subscribes with ⟨_, _, opened⟩ | ⟨_, _, requests, _, _, opened, works⟩
  · exact nomatch (opens _ opened).2
  obtain ⟨rfl, _⟩ := opens _ opened
  rcases ends_bind works with ⟨_, same, failed⟩ | ⟨inner, _, result, middle, _, worked, awaits⟩
  · cases same
    exact .inl ⟨_, failed⟩
  rcases ends_bind awaits with ⟨_, same, failed⟩ | ⟨_, _, _, _, _, _, returns⟩
  · cases same
    exact .inr ⟨inner, _, result, middle, pages, requests, worked, failed⟩
  · exact nomatch (ends_pure returns).2.1

/-- Where performing an action fails, an attempt at it fails, and nothing is recorded besides. -/
theorem ends_performOnce {previous : Json} {attempt : Script Json} {failure : Failure}
    (ends : (performOnce head previous attempt).Ends page trail (.error failure) later) :
    ∃ front back, trail = front ++ back ∧ (∀ exchange ∈ front, exchange.request.IsLocal) ∧
      attempt.Ends page back (.error failure) later := by
  unfold performOnce at ends
  split at ends
  next =>
    rcases ends_bind ends with ⟨_, _, asked⟩ | ⟨front, back, isDone, _, rfl, asked, goes⟩
    · obtain ⟨_, impossible⟩ := ends_always asked
      cases impossible
    obtain ⟨rfl, unrecorded⟩ := asked.still (asksOnly_always ⟨rfl, trivial⟩)
    split at goes
    · exact nomatch (ends_pure goes).2.1
    · rcases ends_bind goes with ⟨_, same, failed⟩ | ⟨_, _, _, _, _, _, records⟩
      · cases same
        exact ⟨front, back, rfl, unrecorded, failed⟩
      · rcases ends_bind records with ⟨_, _, recorded⟩ | ⟨_, _, _, _, _, _, returns⟩
        · obtain ⟨_, impossible⟩ := ends_always recorded
          cases impossible
        · exact nomatch (ends_pure returns).2.1
  next => exact ⟨[], trail, rfl, List.forall_mem_nil _, ends⟩

theorem isRaceless_perform {action : Action} {kind : BuiltInAction}
    (registered : setup.performers.find? action.head.kind = some (.builtIn kind)) (alone : kind.PerformsAlone)
    (parent : String) (previous : Json) :
    (perform setup action parent previous).AsksOnly Request.IsRaceless := by
  have attempts := Job.AsksOnly.imp (isLocal_attempt setup registered alone parent previous)
    fun request plain => show request.IsRaceless by cases request <;> first | exact plain | trivial
  rw [perform_eq]
  unfold performOnce
  split
  · refine (asksOnly_always trivial).bind fun isDone => ?_
    split
    · exact asksOnly_pure previous
    · exact AsksOnly.bind attempts fun result => (asksOnly_always trivial).bind fun _ => asksOnly_pure result
  · exact attempts

/-- Where performing an action fails because of its description, nothing is recorded, and the page is as it was, unless
the action has done something and the pattern of the request that it announces is at fault. -/
theorem bare_of_perform_iff {action : Action} {parent : String} {previous : Json} {kind : BuiltInAction}
    {failure : Failure} (registered : setup.performers.find? action.head.kind = some (.builtIn kind))
    (alone : kind.PerformsAlone) (ends : (perform setup action parent previous).Ends page trail (.error failure) later)
    (fault : failure.isConfiguration = true) :
    (∀ exchange ∈ trail, exchange.request.IsLocal) ∧
      (later.bare = page.bare ↔ ¬ (kind.ActsOn page ∧ BlamesPattern action.head failure)) := by
  rw [perform_eq] at ends
  obtain ⟨front, back, rfl, unrecorded, attempted⟩ := ends_performOnce ends
  have work : ownWork setup action previous (.builtIn kind) (action.head.selector parent) = _ :=
    ownWork_of_performsAlone setup alone previous _
  constructor
  · have asks := isLocal_attempt setup registered alone parent previous
    exact List.forall_mem_append.mpr ⟨unrecorded, (Job.AsksOnly.trail asks attempted.way).1⟩
  rcases ends_attempt registered attempted with
    ⟨_, failed⟩ | ⟨_, _, result, middle, pages, requests, worked, awaited⟩
  · rw [work] at failed
    obtain ⟨stays, innocent⟩ := bare_of_refused failed fault
    exact iff_of_true stays innocent
  · -- the action itself has succeeded, so the page is what it has made of it
    rw [work] at worked
    have looked : later.bare = middle.bare := awaited.bare (asksOnly_awaitAnnounced setup action.head pages requests)
    rw [looked, bare_of_performed_iff worked]
    exact not_congr (and_iff_left (awaitAnnounced_fault awaited fault)).symm

end Run

namespace World

variable {surroundings : Surroundings Stage} {world : World Stage}

/-- Where a run of a built-in action that performs no others fails because of the description, the action is not
recorded as done. And the page is as it was, but for captures and helpers, exactly unless the action has done something
and the pattern of the request that it announces is at fault. -/
theorem configuration_failure_leaves_page_iff (serves : surroundings.serve = Stage.serve)
    (consults : ∀ stage breaker time checks, (surroundings.consult stage breaker time checks).1 = stage)
    (left : world.IsLeft) (records : Records) {action : Action} {kind : BuiltInAction}
    (registered : surroundings.setup.performers.find? action.head.kind = some (.builtIn kind))
    (alone : kind.PerformsAlone) (parent : String) (previous : Json) {failure : Failure}
    (fails : (world.run surroundings records (Run.perform surroundings.setup action parent previous)).2 =
      .error failure) (fault : failure.isConfiguration = true) :
    let later := (world.run surroundings records (Run.perform surroundings.setup action parent previous)).1
    later.ledgers = world.ledgers ∧ (later.state.page.bare = world.state.page.bare ↔
      ¬ (kind.ActsOn world.state.page ∧ Run.BlamesPattern action.head failure)) := by
  intro later
  have raceless := Run.isRaceless_perform registered alone parent previous
  have ran : world.run surroundings records (Run.perform surroundings.setup action parent previous) =
      (later, .error failure) := Prod.ext rfl fails
  rcases ends_of_run serves consults records left raceless ran with stalled | ⟨trail, ends, unrecorded⟩
  · cases stalled
    cases fault
  · obtain ⟨plain, untouched⟩ := Run.bare_of_perform_iff registered alone ends fault
    exact ⟨unrecorded plain, untouched⟩

def buttonWorld : World Stage where
  state := { page := { source := .ofText "<button class='go'>go</button>" } }
  channel := Channel.ofCapacity 64
  storages := #[{}]
  ledgers := #[{}]

/-- A click to be made once, which announces a request by a pattern that is none. -/
def clickThenRequest (scope : Option String) : Action :=
  .mk { kind := "click", scope := scope, once := true, awaitsRequest := some "(" } [] [] none [] none

def clicked (scope : Option String) : World Stage × Except Failure Json :=
  buttonWorld.run Run.plainSurroundings ⟨0, 0⟩
    (Run.perform Run.plainSurroundings.setup (clickThenRequest scope) "" .null)

/-- Without a scope the click is refused, and the page is as it was. -/
theorem click_refused_without_scope : buttonWorld.IsLeft ∧
    (clicked none).2 = .error (.invalidAction "click" .noScope) ∧ (clicked none).1.ledgers = buttonWorld.ledgers ∧
    (clicked none).1.state.page.bare = buttonWorld.state.page.bare := by
  have left : buttonWorld.IsLeft := ⟨rfl, rfl, List.forall_mem_nil _⟩
  have registered : Run.plainSurroundings.setup.performers.find? (clickThenRequest none).head.kind =
      some (.builtIn (.gesture .click)) := rfl
  have fails : (clicked none).2 = .error (.invalidAction "click" .noScope) := rfl
  obtain ⟨ledgers, untouched⟩ := configuration_failure_leaves_page_iff rfl (fun _ _ _ _ => rfl) left ⟨0, 0⟩ registered
    trivial "" .null fails rfl
  refine ⟨left, fails, ledgers, untouched.mpr ?_⟩
  rintro ⟨_, source, _, _, _, same⟩
  cases same

/-- With a scope the click is made, and then the pattern is found to be none. -/
theorem click_made_before_pattern_is_read :
    (Race.failure? (clicked (some ".go")).2).any Failure.isConfiguration = true ∧
      buttonWorld.state.page.interactions = [] ∧
      (clicked (some ".go")).1.state.page.interactions = ["click:.go"] := by
  decide +kernel

end World

end Harvest
