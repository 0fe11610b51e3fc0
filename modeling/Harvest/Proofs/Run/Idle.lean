import Harvest.Proofs.Page.InVain
import Harvest.Proofs.Run.Composition
import Harvest.Proofs.Run.Frame
import Harvest.Proofs.Run.Requests
import Harvest.Run.Stage

/-!
Contract: what the built-in actions ask of a page.

Most actions only look at the page, however they wait, and so does the wait for what an action announces. An action
that does something checks its parameters and then makes one call; going to an address and going back are the two that
make more.
-/

namespace Harvest

/-! ### Calls -/

namespace PageCall

/-- A call looks at the page only, or has the helpers injected. -/
def IsIdle : PageCall → Prop
  | .query _ _ _ => True
  | .count _ => True
  | .visible _ => True
  | .scrollHeight _ => True
  | .url => True
  | .readyState => True
  | .injectHelpers => True
  | _ => False

/-- A call that is answered is noted. -/
def IsNoted : PageCall → Prop
  | .click _ => True
  | .mouseDown _ => True
  | .mouseUp _ => True
  | .focus _ => True
  | .blur _ => True
  | .type _ _ => True
  | .changeElement _ _ _ => True
  | .scroll _ => True
  | .visit _ => True
  | _ => False

end PageCall

/-- Work that calls for nothing but a look at the page, or captures it. -/
def PageWork.IsIdle : PageWork → Prop
  | .call pageCall => pageCall.IsIdle
  | .snapshot _ => True
  | _ => False

namespace Page

/-- The page without what captures and helpers leave behind. -/
def bare (page : Page) : Page :=
  { page with snapshots := [], helperCount := 0 }

theorem bare_of_idle (page : Page) (work : PageWork) (idle : work.IsIdle) : (page.work work).page.bare = page.bare := by
  cases work with
  | call call => cases call <;> first | rfl | exact idle.elim
  | snapshot label => rfl
  | _ => exact idle.elim

theorem interactions_navigate (page : Page) (address : String) :
    (page.navigate address).page.interactions = page.interactions := by
  unfold navigate
  split <;> rfl

theorem interactions_of_noted {page : Page} {call : PageCall} (noted : call.IsNoted)
    (answered : (page.dispatch call).answer.isOk = true) :
    ∃ note, (page.dispatch call).page.interactions = page.interactions ++ [note] := by
  cases call with
  | click selector =>
    refine ⟨"click" ++ ":" ++ selector, ?_⟩
    show (page.click selector).page.interactions = _
    unfold click
    dsimp only
    split
    · rfl
    · rfl
    · split
      · rfl
      · exact interactions_navigate _ _
  | visit address => exact ⟨_, interactions_navigate (page.note "open" address) address⟩
  | mouseDown selector => exact ⟨_, rfl⟩
  | mouseUp selector => exact ⟨_, rfl⟩
  | focus selector =>
    cases selects : page.select selector with
    | error failure =>
      simp only [dispatch, focus, selects, reply, Except.isOk, Except.toBool] at answered
      cases answered
    | ok nodes => exact ⟨"focus" ++ ":" ++ selector, by simp only [dispatch, focus, selects, reply, note]⟩
  | blur selector =>
    cases selects : page.select selector with
    | error failure => exact ⟨_, by rw [show page.dispatch (.blur selector) = _ from blur_of_no_selector selects]; rfl⟩
    | ok nodes => exact ⟨_, by rw [show page.dispatch (.blur selector) = _ from blur_of_select selects]; rfl⟩
  | type selector text =>
    refine ⟨"type" ++ ":" ++ selector, ?_⟩
    show (page.change "type" selector _).page.interactions = _
    unfold Page.change
    dsimp only
    split <;> rfl
  | changeElement selector style attributes =>
    refine ⟨"changeElement" ++ ":" ++ selector, ?_⟩
    show (page.change "changeElement" selector _).page.interactions = _
    unfold Page.change
    dsimp only
    split <;> rfl
  | scroll selector =>
    rw [scroll_of_feed]
    cases page.feed <;> exact ⟨_, rfl⟩
  | _ => exact noted.elim

/-- Whatever a call fails with, the description is not at fault. -/
theorem isConfiguration_of_dispatch {page : Page} {call : PageCall} {failure : Failure}
    (fails : (page.dispatch call).answer = .error failure) : failure.isConfiguration = false := by
  rcases (refuses_of_failure fails).cause with ⟨selector, _, rfl⟩ | ⟨address, _, rfl⟩
  · rfl
  · rfl

end Page

/-! ### Requests -/

/-- A request leaves the page as it is, but for captures and helpers, and has nothing to do with what is done once or
with races. -/
def Request.IsIdle : Request → Prop
  | .ask work => work.IsIdle
  | .askBy _ work => work.IsIdle
  | .isDone _ => False
  | .record _ => False
  | .race _ _ _ => False
  | .win _ => False
  | .perish => False
  | _ => True

namespace Wait

open Script

theorem asksOnly_checkBreaker (options : WaitOptions) : (checkBreaker options).AsksOnly Request.IsIdle := by
  unfold checkBreaker
  split
  · exact asksOnly_pure ()
  · refine (asksOnly_always trivial).bind fun isBroken => ?_
    split
    · exact asksOnly_fail _
    · exact asksOnly_pure ()

theorem asksOnly_pollFrom {probe : PageCall} (idle : probe.IsIdle) (options : WaitOptions) (accepts : Json → Bool)
    (deadline ticks due : Nat) : (pollFrom options probe accepts deadline ticks due).AsksOnly Request.IsIdle := by
  induction ticks generalizing due with
  | zero => exact asksOnly_fail _
  | succ ticks inductionHypothesis =>
    unfold pollFrom
    split
    · exact (asksOnly_always trivial).bind fun _ => asksOnly_fail _
    · refine (asksOnly_always trivial).bind fun _ => (asksOnly_always trivial).bind fun time =>
        (asksOnly_checkBreaker options).bind fun _ =>
          (@asksOnly_always _ (.askBy deadline (.call probe)) idle).bind fun answer => ?_
      split
      · exact asksOnly_fail _
      · exact asksOnly_fail _
      · split
        · exact asksOnly_pure _
        · exact inductionHypothesis _

theorem asksOnly_poll {probe : PageCall} (idle : probe.IsIdle) (options : WaitOptions) (accepts : Json → Bool) :
    (poll options probe accepts).AsksOnly Request.IsIdle :=
  (asksOnly_always trivial).bind fun _ => asksOnly_pollFrom idle _ _ _ _ _

theorem asksOnly_listenFrom (options : WaitOptions) (subscription : Nat) (awaited : Awaited)
    (deadline ticks due : Nat) : (listenFrom options subscription awaited deadline ticks due).AsksOnly Request.IsIdle := by
  induction ticks generalizing due with
  | zero => exact asksOnly_fail _
  | succ ticks inductionHypothesis =>
    unfold listenFrom
    refine (asksOnly_always trivial).bind fun heard => ?_
    split
    · exact asksOnly_fail _
    · exact asksOnly_pure _
    · exact asksOnly_fail _
    · split
      · exact asksOnly_fail _
      · exact (asksOnly_checkBreaker options).bind fun _ => inductionHypothesis _

theorem asksOnly_awaitEvent (options : WaitOptions) (subscription : Nat) (awaited : Awaited) :
    (awaitEvent options subscription awaited).AsksOnly Request.IsIdle :=
  (asksOnly_always trivial).bind fun _ => asksOnly_listenFrom _ _ _ _ _ _

end Wait

/-! ### Actions -/

namespace BuiltInAction

/-- An action that only looks at the page, waits, or captures it. -/
def IsIdle : BuiltInAction → Prop
  | .gesture _ => False
  | .type => False
  | .changeElement => False
  | .scroll => False
  | .visit => False
  | .back => False
  | _ => True

/-- An action does something to a page. To go back does nothing where there is no history. -/
def ActsOn (page : Page) : BuiltInAction → Prop
  | .gesture _ => True
  | .type => True
  | .changeElement => True
  | .scroll => True
  | .visit => True
  | .back => page.history ≠ []
  | _ => False

theorem IsIdle.not_actsOn {kind : BuiltInAction} (idle : kind.IsIdle) (page : Page) : ¬ kind.ActsOn page := by
  cases kind <;> first | exact idle.elim | exact id

/-- An action that performs no other actions and evaluates no rule. -/
def PerformsAlone : BuiltInAction → Prop
  | .parse => False
  | .condition => False
  | .cases => False
  | _ => True

def MakesOneCall : BuiltInAction → Prop
  | .gesture _ => True
  | .type => True
  | .changeElement => True
  | .scroll => True
  | _ => False

end BuiltInAction

namespace Run

open Script

variable (setup : Setup) (head : ActionHead)

theorem asksOnly_target (selector : String) : (target head selector).AsksOnly Request.IsIdle := by
  unfold target
  split
  · exact asksOnly_fail _
  · exact asksOnly_pure _

theorem asksOnly_awaitNavigation (subscription : Nat) :
    (awaitNavigation setup head subscription).AsksOnly Request.IsIdle := by
  refine (Wait.asksOnly_awaitEvent _ _ _).bind fun event => (asksOnly_call trivial).bind fun _ => ?_
  split <;> exact asksOnly_pure _

theorem asksOnly_awaitRequest (source : String) (subscription : Nat) :
    (awaitRequest setup head source subscription).AsksOnly Request.IsIdle := by
  unfold awaitRequest
  split
  · exact asksOnly_fail _
  · refine (Wait.asksOnly_awaitEvent _ _ _).bind fun event => ?_
    split <;> exact asksOnly_pure _

theorem asksOnly_subscribeIf (wanted : Bool) : (subscribeIf wanted).AsksOnly Request.IsIdle := by
  cases wanted with
  | false => exact asksOnly_pure _
  | true => exact ⟨trivial, fun _ => trivial⟩

/-- To await what an action announces leaves the page as it is. -/
theorem asksOnly_awaitAnnounced (pages requests : Option Nat) :
    (awaitAnnounced setup head pages requests).AsksOnly Request.IsIdle := by
  refine AsksOnly.bind ?_ fun _ => ?_
  · cases pages with
    | none => exact asksOnly_pure ()
    | some subscription => exact (asksOnly_awaitNavigation _ _ _).bind fun _ => asksOnly_pure ()
  · unfold awaitAddress
    split
    · exact (asksOnly_awaitRequest _ _ _ _).bind fun _ => asksOnly_pure ()
    · exact asksOnly_pure ()

theorem asksOnly_waitFor (condition : PageCondition) (selector : String) :
    (waitFor setup condition head selector).AsksOnly Request.IsIdle := by
  have polls : ∀ call : PageCall, call.IsIdle → (do
      let _ ← Wait.poll (.ofAction head setup.settings.wait) call (conditionHolds condition head)
      return Json.bool true : Script Json).AsksOnly Request.IsIdle :=
    fun _ idle => (Wait.asksOnly_poll idle _ _).bind fun _ => asksOnly_pure _
  unfold waitFor
  by_cases blank : selector = ""
  · cases condition with
    | ready => exact polls .readyState trivial
    | _ =>
      unfold conditionCall target
      rw [if_pos blank]
      exact asksOnly_fail _
  · cases condition with
    | ready => exact polls .readyState trivial
    | present =>
      unfold conditionCall target
      rw [if_neg blank]
      exact polls (.count selector) trivial
    | _ =>
      unfold conditionCall target
      rw [if_neg blank]
      exact polls (.visible selector) trivial

theorem asksOnly_waitForPattern (selector : String) : (waitForPattern setup head selector).AsksOnly Request.IsIdle := by
  refine AsksOnly.bind ?_ fun pattern => (asksOnly_target head selector).bind fun selector =>
    (@Wait.asksOnly_poll (.query _ _ _) trivial _ _).bind fun _ => asksOnly_pure _
  unfold patternParam
  split
  · exact asksOnly_fail _
  · split
    · exact asksOnly_pure _
    · exact asksOnly_fail _

theorem asksOnly_performAlone {kind : BuiltInAction} (idle : kind.IsIdle) (selector : String) (previous : Json) :
    (performAlone setup kind head selector previous).AsksOnly Request.IsIdle := by
  cases kind with
  | sleep =>
    unfold performAlone sleep
    cases head.timeout with
    | none => exact asksOnly_fail _
    | some duration =>
      refine AsksOnly.bind ?_ fun _ => asksOnly_pure _
      exact (asksOnly_always trivial).bind fun _ => asksOnly_always trivial
  | waitFor condition => exact asksOnly_waitFor _ _ _ _
  | waitForPattern => exact asksOnly_waitForPattern _ _ _
  | waitForPage => exact (asksOnly_always trivial).bind fun _ => asksOnly_awaitNavigation _ _ _
  | waitForRequest =>
    exact (asksOnly_settled _).bind fun _ => (asksOnly_always trivial).bind fun _ => asksOnly_awaitRequest _ _ _ _
  | exist =>
    exact (asksOnly_target _ _).bind fun _ => (@asksOnly_call _ (.count _) trivial).bind fun _ => asksOnly_pure _
  | url => exact @asksOnly_call _ .url trivial
  | snapshot => exact AsksOnly.bind ⟨trivial, fun _ => trivial⟩ fun _ => asksOnly_pure _
  | parse => exact asksOnly_fail _
  | condition => exact asksOnly_pure _
  | cases => exact asksOnly_fail _
  | _ => exact idle.elim

/-! ### Actions that do something -/

/-- What an action that makes one call comes to, its parameters checked: it is refused because of one of them that is
no pattern of an address, or it is a call that is noted. -/
inductive MakesCall : Script Json → Prop where
  | refused (fault : ActionFault) (innocent : ∀ source, fault ≠ .badAddressPattern source) :
      MakesCall (refuse head fault)
  | call {call : PageCall} (noted : call.IsNoted) : MakesCall (Script.call call)

variable {head}

theorem makesCall_gesture (motion : Gesture) (selector : String) : MakesCall head (gesture motion head selector) := by
  unfold gesture target
  split
  · exact .refused .noScope nofun
  · refine .call ?_
    cases motion <;> trivial

theorem makesCall_type (selector : String) (previous : Json) : MakesCall head (type head selector previous) := by
  unfold type target
  split
  · exact .refused .noScope nofun
  · dsimp only [pure_bind]
    split
    · exact @MakesCall.call head (.type _ _) trivial
    · unfold ActionHead.requireText
      cases head.textParam? "text" with
      | none => exact .refused (.missing "text") nofun
      | some text => exact @MakesCall.call head (.type _ _) trivial

theorem makesCall_changeElement (selector : String) : MakesCall head (changeElement head selector) := by
  have mapping : ∀ name, (∃ fields, mappingParam head name = pure fields) ∨
      mappingParam head name = refuse head (.notMapping name) := by
    intro name
    unfold mappingParam
    split
    · exact .inl ⟨_, rfl⟩
    · exact .inl ⟨_, rfl⟩
    · exact .inr rfl
  unfold changeElement target
  split
  · exact .refused .noScope nofun
  · rcases mapping "style" with ⟨style, read⟩ | refused
    · rcases mapping "attr" with ⟨attributes, alsoRead⟩ | refused
      · rw [read, alsoRead]
        exact @MakesCall.call head (.changeElement _ _ _) trivial
      · rw [read, refused]
        exact .refused (.notMapping "attr") nofun
    · rw [refused]
      exact .refused (.notMapping "style") nofun

theorem makesCall_performAlone {kind : BuiltInAction} (once : kind.MakesOneCall) (selector : String) (previous : Json) :
    MakesCall head (performAlone setup kind head selector previous) := by
  cases kind with
  | gesture motion => exact makesCall_gesture motion selector
  | type => exact makesCall_type selector previous
  | changeElement => exact makesCall_changeElement selector
  | scroll => exact @MakesCall.call head (.scroll _) trivial
  | _ => exact once.elim

/-! ### What is recorded -/

theorem isLocal_of_isIdle (request : Request) (idle : request.IsIdle) : request.IsLocal := by
  cases request <;> first | exact idle.elim | trivial

theorem MakesCall.isLocal {head : ActionHead} {script : Script Json} (makes : MakesCall head script) :
    script.AsksOnly Request.IsLocal := by
  cases makes with
  | refused fault innocent => exact asksOnly_fail _
  | call noted => exact asksOnly_call trivial

/-- An action that performs no others records nothing and begins no race. -/
theorem isLocal_performAlone (kind : BuiltInAction) (selector : String) (previous : Json) :
    (performAlone setup kind head selector previous).AsksOnly Request.IsLocal := by
  by_cases idle : kind.IsIdle
  · exact Job.AsksOnly.imp (asksOnly_performAlone setup head idle selector previous) isLocal_of_isIdle
  by_cases once : kind.MakesOneCall
  · exact (makesCall_performAlone setup once selector previous).isLocal
  cases kind with
  | visit =>
    refine (asksOnly_settled _).bind fun wanted => (asksOnly_call trivial).bind fun current => ?_
    split
    · exact asksOnly_fail _
    · exact (asksOnly_call trivial).bind fun _ => (asksOnly_call trivial).bind fun _ => asksOnly_pure _
  | back => exact (asksOnly_call trivial).bind fun _ => (asksOnly_call trivial).bind fun _ => asksOnly_pure _
  | _ => first | exact absurd trivial idle | exact absurd trivial once

theorem ownWork_of_performsAlone {action : Action} {kind : BuiltInAction} (alone : kind.PerformsAlone) (previous : Json)
    (selector : String) :
    ownWork setup action previous (.builtIn kind) selector = performAlone setup kind action.head selector previous := by
  obtain ⟨head, actions, conditions, otherwise, cases, rules⟩ := action
  cases kind <;> first | rfl | exact alone.elim

theorem isLocal_attempt {action : Action} {kind : BuiltInAction}
    (registered : setup.performers.find? action.head.kind = some (.builtIn kind)) (alone : kind.PerformsAlone)
    (parent : String) (previous : Json) :
    (attempt setup action.head parent (ownWork setup action previous)).AsksOnly Request.IsLocal := by
  have idle : ∀ {α : Type} {script : Script α}, script.AsksOnly Request.IsIdle → script.AsksOnly Request.IsLocal :=
    fun asks => Job.AsksOnly.imp asks isLocal_of_isIdle
  unfold attempt
  rw [registered]
  refine (idle (asksOnly_subscribeIf _)).bind fun pages => (idle (asksOnly_subscribeIf _)).bind fun requests => ?_
  refine AsksOnly.bind ?_ fun result =>
    (idle (asksOnly_awaitAnnounced setup action.head pages requests)).bind fun _ => asksOnly_pure result
  rw [ownWork_of_performsAlone setup alone]
  exact isLocal_performAlone setup kind _ previous

end Run

end Harvest
