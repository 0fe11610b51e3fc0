import Harvest.Proofs.Page.Freshness

/-!
Contract: what calls leave behind that were in vain.

A call fails where its selector is none, and where its address is not known. The page is then what it was,
with the interaction noted at most. An interaction whose selector matches nothing is answered no, and does
nothing but being noted, with two exceptions: to focus on nothing takes the focus away, and to scroll what is
not there scrolls the window.
-/

namespace Harvest

namespace PageCall

/-- The selector without which a call fails. A query of no selector reads nothing, and a scroll does not look at it. -/
def target? : PageCall → Option String
  | .count selector => some selector
  | .visible selector => some selector
  | .click selector => some selector
  | .mouseDown selector => some selector
  | .mouseUp selector => some selector
  | .focus selector => some selector
  | .blur selector => some selector
  | .type selector _ => some selector
  | .changeElement selector _ _ => some selector
  | .scrollHeight selector => selector
  | _ => none

/-- A call interacts with the elements that a selector matches. -/
def InteractsWith (selector : String) : PageCall → Prop
  | .click target => target = selector
  | .mouseDown target => target = selector
  | .mouseUp target => target = selector
  | .focus target => target = selector
  | .blur target => target = selector
  | .type target _ => target = selector
  | .changeElement target _ _ => target = selector
  | .scroll target => target = some selector
  | _ => False

/-- A call puts the focus somewhere. -/
def IsFocus : PageCall → Prop
  | .focus _ => True
  | _ => False

def IsScroll : PageCall → Prop
  | .scroll _ => True
  | _ => False

end PageCall

namespace Page

/-- Why a call fails: its selector is none, or its address is not known. -/
inductive Refuses (page : Page) : PageCall → Failure → Prop where
  | selector {call : PageCall} {selector : String} {failure : Failure} (needs : call.target? = some selector)
      (invalid : page.select selector = .error failure) : Refuses page call failure
  | address {address : String} (unknown : page.known.lookup address = none) :
      Refuses page (.visit address) (.noDocument address)

def noteAll (page : Page) (notes : List String) : Page :=
  { page with interactions := page.interactions ++ notes }

/-! ### Calls that fail -/

theorem Refuses.cause {page : Page} {call : PageCall} {failure : Failure} (refuses : page.Refuses call failure) :
    (∃ selector, call.target? = some selector ∧ failure = .page (.badSelector selector)) ∨
      ∃ address, call = .visit address ∧ failure = .noDocument address := by
  cases refuses with
  | @selector call selector failure needs invalid =>
    refine .inl ⟨selector, needs, ?_⟩
    unfold select at invalid
    split at invalid
    · cases invalid
    · exact (Except.error.inj invalid).symm
  | address unknown => exact .inr ⟨_, rfl, rfl⟩

/-- Without its selector a call is noted at most. -/
theorem dispatch_of_no_selector {page : Page} {call : PageCall} {selector : String} {failure : Failure}
    (needs : call.target? = some selector) (invalid : page.select selector = .error failure) :
    ∃ notes : List String, notes.length ≤ 1 ∧ page.dispatch call = (page.noteAll notes).reply (.error failure) := by
  have unnoted : page.noteAll [] = page := by simp only [noteAll, List.append_nil]
  have noted : ∀ kind, (page.note kind selector).select selector = .error failure := fun _ => invalid
  cases call with
  | count target | visible target =>
    cases needs
    exact ⟨[], Nat.zero_le 1, by simp only [dispatch, invalid, Except.map, unnoted]⟩
  | scrollHeight target =>
    cases needs
    exact ⟨[], Nat.zero_le 1, by simp only [dispatch, scrollHeight, invalid, Except.map, unnoted]⟩
  | focus target =>
    cases needs
    exact ⟨[], Nat.zero_le 1, by simp only [dispatch, focus, invalid, unnoted]⟩
  | click target =>
    cases needs
    exact ⟨[_], Nat.le_refl 1, by simp only [dispatch, click, noted]; rfl⟩
  | mouseDown target | mouseUp target =>
    cases needs
    exact ⟨[_], Nat.le_refl 1, by simp only [dispatch, touch, noted]; rfl⟩
  | blur target =>
    cases needs
    exact ⟨[_], Nat.le_refl 1, by simp only [dispatch, blur, noted]; rfl⟩
  | type target | changeElement target =>
    cases needs
    exact ⟨[_], Nat.le_refl 1, by simp only [dispatch, Page.change, noted]; rfl⟩
  | _ => cases needs

theorem dispatch_of_selector {page : Page} {call : PageCall} {selector : String} {nodes : List Nat}
    (needs : call.target? = some selector) (valid : page.select selector = .ok nodes) :
    (page.dispatch call).answer.isOk = true := by
  have noted : ∀ kind, (page.note kind selector).select selector = .ok nodes := fun _ => valid
  cases call with
  | count target | visible target =>
    cases needs
    simp only [dispatch, valid, Except.map, reply, Except.isOk, Except.toBool]
  | scrollHeight target =>
    cases needs
    simp only [dispatch, scrollHeight, valid, Except.map, reply, Except.isOk, Except.toBool]
  | focus target =>
    cases needs
    simp only [dispatch, focus, valid, reply, Except.isOk, Except.toBool]
  | mouseDown target | mouseUp target =>
    cases needs
    simp only [dispatch, touch, noted, Except.map, reply, Except.isOk, Except.toBool]
  | type target | changeElement target =>
    cases needs
    simp only [dispatch, Page.change, noted, reply, Except.isOk, Except.toBool]
  | blur target =>
    cases needs
    show (page.blur selector).answer.isOk = true
    rw [blur_of_select valid]
    rfl
  | click target =>
    cases needs
    show (page.click selector).answer.isOk = true
    cases nodes with
    | nil => simp only [click, noted, reply, Except.isOk, Except.toBool]
    | cons node others =>
      cases link : page.linkOf? node with
      | none =>
        have link' : (page.note "click" selector).linkOf? node = none := link
        simp only [click, noted, link', Except.isOk, Except.toBool]
      | some address =>
        -- a link is followed only where it leads to an address that the page knows
        obtain ⟨source, known⟩ := known_of_linkOf? link
        have known' : (page.note "click" selector).known.lookup address = some source := known
        rw [(click_of_link valid link).2, navigate, known']
        rfl
  | _ => cases needs

theorem refuses_of_failure {page : Page} {call : PageCall} {failure : Failure}
    (fails : (page.dispatch call).answer = .error failure) : page.Refuses call failure := by
  cases needs : call.target? with
  | some selector =>
    cases selects : page.select selector with
    | error other =>
      obtain ⟨notes, _, failed⟩ := dispatch_of_no_selector needs selects
      rw [failed] at fails
      cases fails
      exact .selector needs selects
    | ok nodes =>
      have answered := dispatch_of_selector needs selects
      rw [fails] at answered
      cases answered
  | none =>
    cases call with
    | visit address =>
      change ((page.note "open" address).navigate address).answer = _ at fails
      unfold navigate at fails
      split at fails
      next unknown =>
        cases fails
        exact .address unknown
      next => cases fails
    | scroll selector =>
      change (page.scroll selector).answer = _ at fails
      unfold scroll at fails
      dsimp only at fails
      split at fails <;> cases fails
    | back =>
      change page.back.answer = _ at fails
      unfold back at fails
      split at fails <;> cases fails
    | scrollHeight selector =>
      cases needs
      cases fails
    | query | url | readyState | injectHelpers => cases fails
    | _ => cases needs

/-- Whatever the reason, the page is as it was, the interaction noted at most, and reports nothing. -/
theorem Refuses.dispatch {page : Page} {call : PageCall} {failure : Failure} (refuses : page.Refuses call failure) :
    ∃ notes : List String, notes.length ≤ 1 ∧ page.dispatch call = (page.noteAll notes).reply (.error failure) := by
  cases refuses with
  | selector needs invalid => exact dispatch_of_no_selector needs invalid
  | @address address unknown =>
    refine ⟨["open:" ++ address], Nat.le_refl 1, ?_⟩
    show (page.note "open" address).navigate address = _
    unfold navigate
    split
    next => rfl
    next known => exact nomatch unknown.symm.trans known

/-- A call that fails leaves the page as it was, with the interaction noted at most, and the page reports nothing. It
fails exactly where its selector is none or its address is not known. -/
theorem failed_call_leaves_page {page : Page} {call : PageCall} {failure : Failure}
    (fails : (page.dispatch call).answer = .error failure) :
    page.Refuses call failure ∧
      ∃ notes : List String, notes.length ≤ 1 ∧ page.dispatch call = (page.noteAll notes).reply (.error failure) :=
  have refuses := refuses_of_failure fails
  ⟨refuses, refuses.dispatch⟩

/-- A page with a field that was typed into and has the focus, in the middle of its history and of its feed. -/
def busyPage : Page where
  url := "http://second/"
  source := .ofText "<input id='a'>"
  known := [("http://second/", .ofText "<input id='a'>")]
  history := [("http://first/", .ofText "<p>first</p>")]
  feed := [.ofText "<p>next</p>"]
  changes := [(4, { value := some "typed" })]
  focused := some 4

/-- Typing into what is no selector is noted, and nothing is typed. -/
theorem no_selector_leaves_busyPage :
    (busyPage.dispatch (.type "[" "more")).answer = .error (.page (.badSelector "[")) ∧
      ∃ notes : List String, notes.length ≤ 1 ∧
        busyPage.dispatch (.type "[" "more") = (busyPage.noteAll notes).reply (.error (.page (.badSelector "["))) := by
  have unread : Selector.select? busyPage.source.document "[" = none := by decide +kernel
  have invalid : busyPage.select "[" = .error (.page (.badSelector "[")) := by
    unfold select
    rw [unread]
  have noted : (busyPage.note "type" "[").select "[" = .error (.page (.badSelector "[")) := invalid
  have fails : (busyPage.dispatch (.type "[" "more")).answer = .error (.page (.badSelector "[")) := by
    simp only [dispatch, Page.change, noted, reply]
  exact ⟨fails, (failed_call_leaves_page fails).2⟩

/-! ### Interactions with nothing -/

/-- An interaction with nothing that neither puts the focus nor scrolls is noted and answered no. -/
theorem dispatch_of_unmatched {page : Page} {call : PageCall} {selector : String}
    (interacts : call.InteractsWith selector) (unmatched : page.select selector = .ok []) (elsewhere : ¬ call.IsFocus)
    (still : ¬ call.IsScroll) : ∃ note : String, page.dispatch call = (page.noteAll [note]).reply (.ok (.bool false)) := by
  have noted : ∀ kind, (page.note kind selector).select selector = .ok [] := fun _ => unmatched
  cases call with
  | click target =>
    cases interacts
    exact ⟨_, by simp only [dispatch, click, noted]; rfl⟩
  | mouseDown target | mouseUp target =>
    cases interacts
    exact ⟨_, by simp only [dispatch, touch, noted]; rfl⟩
  | type target | changeElement target =>
    cases interacts
    exact ⟨_, by simp only [dispatch, Page.change, noted]; rfl⟩
  | blur target =>
    cases interacts
    refine ⟨"blur" ++ ":" ++ selector, ?_⟩
    show page.blur selector = _
    -- the focus is among no nodes, so it is kept
    rw [blur_of_select unmatched]
    cases focused : page.focused <;> simp [noteAll, note, focused, Option.filter]
  | focus target => exact absurd trivial elsewhere
  | scroll target => exact absurd trivial still
  | _ => exact interacts.elim

/-- To focus on nothing is noted and answered no, and nothing has the focus then. -/
theorem focus_of_unmatched {page : Page} {selector : String} (unmatched : page.select selector = .ok []) :
    page.dispatch (.focus selector) =
      { page.noteAll ["focus" ++ ":" ++ selector] with focused := none }.reply (.ok (.bool false)) := by
  simp only [dispatch, focus, unmatched]
  rfl

/-- A scroll does not look for what it scrolls. -/
theorem scroll_of_feed (page : Page) (selector : Option String) :
    page.dispatch (.scroll selector) = (match page.feed with
      | [] => page.noteAll ["scroll" ++ ":" ++ selector.getD "window"]
      | next :: feed => ({ page.noteAll ["scroll" ++ ":" ++ selector.getD "window"] with feed := feed }).present next).reply
        (.ok (.bool true)) := by
  simp only [dispatch, scroll]
  have same : (page.note "scroll" (selector.getD "window")).feed = page.feed := rfl
  rw [same]
  cases page.feed <;> rfl

theorem focus_is_in_vain_iff {page : Page} {selector : String} (unmatched : page.select selector = .ok []) :
    (∃ note, (page.dispatch (.focus selector)).page = page.noteAll [note]) ↔ page.focused = none := by
  rw [focus_of_unmatched unmatched]
  constructor
  · rintro ⟨note, same⟩
    have unfocused : none = page.focused := congrArg Page.focused same
    exact unfocused.symm
  · intro unfocused
    exact ⟨"focus" ++ ":" ++ selector, by simp only [Page.reply, noteAll, unfocused]⟩

theorem scroll_is_in_vain_iff (page : Page) (selector : Option String) :
    (∃ note, (page.dispatch (.scroll selector)).page = page.noteAll [note]) ↔ page.feed = [] := by
  rw [scroll_of_feed]
  cases feed : page.feed with
  | nil => exact iff_of_true ⟨_, rfl⟩ rfl
  | cons next rest =>
    refine iff_of_false ?_ (List.cons_ne_nil next rest)
    rintro ⟨note, same⟩
    have kept : rest = page.feed := congrArg Page.feed same
    exact List.cons_ne_self next rest (feed.symm.trans kept.symm)

theorem scroll_stays (page : Page) (selector : Option String) :
    let reply := page.dispatch (.scroll selector)
    reply.answer = .ok (.bool true) ∧ reply.events = [] ∧ reply.page.url = page.url ∧
      reply.page.history = page.history := by
  intro reply
  have effect : reply = _ := scroll_of_feed page selector
  rw [effect]
  cases page.feed <;> exact ⟨rfl, rfl, rfl, rfl⟩

/-- An interaction with nothing reports nothing, and stays where it is, with the same history. It is answered no unless
it is a scroll. And it leaves the page as it was, with the interaction noted, exactly unless it takes the focus from an
element by focusing on nothing, or shows the next document of the feed by scrolling. -/
theorem unmatched_interaction_is_in_vain_iff {page : Page} {call : PageCall} {selector : String}
    (interacts : call.InteractsWith selector) (unmatched : page.select selector = .ok []) :
    let reply := page.dispatch call
    (reply.events = [] ∧ reply.page.url = page.url ∧ reply.page.history = page.history) ∧
    (reply.answer = .ok (.bool false) ↔ ¬ call.IsScroll) ∧
    ((∃ note, reply.page = page.noteAll [note]) ↔
      (call.IsFocus → page.focused = none) ∧ (call.IsScroll → page.feed = [])) := by
  intro answered
  by_cases focuses : call.IsFocus
  · cases call with
    | focus target =>
      cases interacts
      have effect : answered = _ := focus_of_unmatched unmatched
      have vain : (∃ note, answered.page = page.noteAll [note]) ↔ page.focused = none := focus_is_in_vain_iff unmatched
      refine ⟨?_, ?_, vain.trans ⟨fun unfocused => ⟨fun _ => unfocused, False.elim⟩, fun both => both.1 focuses⟩⟩
      · rw [effect]
        exact ⟨rfl, rfl, rfl⟩
      · rw [effect]
        exact iff_of_true rfl id
    | _ => exact focuses.elim
  by_cases scrolls : call.IsScroll
  · cases call with
    | scroll target =>
      obtain ⟨yes, stays⟩ : answered.answer = .ok (.bool true) ∧ _ := scroll_stays page target
      have vain : (∃ note, answered.page = page.noteAll [note]) ↔ page.feed = [] := scroll_is_in_vain_iff page target
      refine ⟨stays, ?_, vain.trans ⟨fun ended => ⟨False.elim, fun _ => ended⟩, fun both => both.2 scrolls⟩⟩
      rw [yes]
      exact iff_of_false (by simp) (not_not_intro scrolls)
    | _ => exact scrolls.elim
  obtain ⟨note, effect⟩ : ∃ note, answered = _ := dispatch_of_unmatched interacts unmatched focuses scrolls
  rw [effect]
  exact ⟨⟨rfl, rfl, rfl⟩, iff_of_true rfl scrolls,
    iff_of_true ⟨note, rfl⟩ ⟨fun focus => absurd focus focuses, fun scroll => absurd scroll scrolls⟩⟩

theorem select_none_busyPage : busyPage.select ".none" = .ok [] := by
  have matched : Selector.select? busyPage.source.document ".none" = some [] := by decide +kernel
  unfold select
  rw [matched]

/-- A click on nothing is in vain. -/
theorem click_none_busyPage : PageCall.InteractsWith ".none" (.click ".none") ∧ busyPage.select ".none" = .ok [] ∧
    ∃ note, (busyPage.dispatch (.click ".none")).page = busyPage.noteAll [note] := by
  have interacts : PageCall.InteractsWith ".none" (.click ".none") := rfl
  have effect := unmatched_interaction_is_in_vain_iff interacts select_none_busyPage
  exact ⟨interacts, select_none_busyPage, effect.2.2.mpr ⟨False.elim, False.elim⟩⟩

/-- To focus on nothing takes the focus from the field, and to scroll nothing is answered yes and shows the next
document. -/
theorem focus_and_scroll_none_busyPage : busyPage.select ".none" = .ok [] ∧
    busyPage.focused = some 4 ∧ (busyPage.dispatch (.focus ".none")).page.focused = none ∧
    (busyPage.dispatch (.scroll (some ".none"))).answer = .ok (.bool true) ∧
    (busyPage.dispatch (.scroll (some ".none"))).page.source.text = "<p>next</p>" := by
  refine ⟨select_none_busyPage, rfl, ?_, ?_, ?_⟩
  · rw [focus_of_unmatched select_none_busyPage]
    rfl
  · exact (scroll_stays busyPage _).1
  · rw [scroll_of_feed]
    rfl

end Page

end Harvest
