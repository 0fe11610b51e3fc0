import Harvest.Proofs.Page.Freshness

/-!
Contract: where a way back leads.

Each way back undoes a navigation, the latest of those that have not been undone yet. What is pending at a time
is told by the steps of the run alone. The history of the page keeps what the page showed before each pending
navigation, the latest first: `exists_pendings` is that invariant, and a way back leads to the first entry.
-/

namespace Harvest

namespace Page

variable {start : Page} {steps : List PageStep}

/-- The page when the first steps of a run are done, as many as the time says. -/
def afterFirst (start : Page) (steps : List PageStep) (time : Nat) : Page :=
  start.afterAll (steps.take time)

/-- A run goes to an address at a time. -/
def NavigatesAt (start : Page) (steps : List PageStep) (time : Nat) : Prop :=
  ∃ step, steps[time]? = some step ∧ (start.afterFirst steps time).Navigates step

/-- A navigation has not been undone at a time: it has just been made, or it was pending before and the step since
is no way back that undoes it, as the latest of those that were pending. -/
def IsPending (start : Page) (steps : List PageStep) : (time navigation : Nat) → Prop
  | 0, _ => False
  | time + 1, navigation =>
    (navigation = time ∧ NavigatesAt start steps time) ∨ (IsPending start steps time navigation ∧
      ¬ (steps[time]? = some (.call .back) ∧ ∀ other, IsPending start steps time other → other ≤ navigation))

/-- A navigation is the latest of those that have not been undone at a time. -/
def IsLatestPending (start : Page) (steps : List PageStep) (time navigation : Nat) : Prop :=
  IsPending start steps time navigation ∧ ∀ other, IsPending start steps time other → other ≤ navigation

def shown (page : Page) : String × PageSource :=
  (page.url, page.source)

/-! ### What one step does to the history -/

theorem history_of_navigates {page : Page} {step : PageStep} (navigates : page.Navigates step) :
    (page.after step).history = page.shown :: page.history := by
  have arrived : ∀ (noted : Page) {address : String} {source : PageSource},
      noted.known.lookup address = some source → (noted.navigate address).page.history = noted.shown :: noted.history := by
    intro noted address source known
    unfold navigate
    rw [known]
    rfl
  match step with
  | .call (.visit address) =>
    obtain ⟨source, known⟩ := Option.isSome_iff_exists.mp navigates
    exact arrived (page.note "open" address) known
  | .call (.click selector) =>
    obtain ⟨node, others, address, selects, link⟩ := navigates
    obtain ⟨source, known⟩ := known_of_linkOf? link
    show (page.click selector).page.history = _
    rw [(click_of_link selects link).1]
    exact arrived (page.note "click" selector) known

theorem history_of_back (page : Page) : (page.after (.call .back)).history = page.history.tail := by
  show page.back.page.history = page.history.tail
  unfold back
  split
  next none => rw [none]; exact none
  next entry => rw [entry]; rfl

theorem history_of_stays {page : Page} {step : PageStep} (stays : ¬ page.Navigates step)
    (onward : step ≠ .call .back) : (page.after step).history = page.history := by
  match step with
  | .content text => rfl
  | .call call =>
    cases call with
    | back => exact absurd rfl onward
    | click selector =>
      show (page.click selector).page.history = page.history
      rw [click_of_not_navigates stays]
      rfl
    | visit address =>
      show ((page.note "open" address).navigate address).page.history = page.history
      rw [visit_of_not_navigates stays]
      rfl
    | focus selector =>
      show (page.focus selector).page.history = page.history
      unfold focus
      split <;> rfl
    | blur selector =>
      show (page.blur selector).page.history = page.history
      cases selects : page.select selector with
      | error failure => rw [blur_of_no_selector selects]; rfl
      | ok nodes => rw [blur_of_select selects]; rfl
    | type selector | changeElement selector =>
      show (page.change _ selector _).page.history = page.history
      unfold Page.change
      dsimp only
      split <;> rfl
    | scroll selector =>
      show (page.scroll selector).page.history = page.history
      unfold scroll
      dsimp only
      split <;> rfl
    | _ => rfl

/-! ### Runs -/

theorem afterFirst_succ {time : Nat} {step : PageStep} (next : steps[time]? = some step) :
    start.afterFirst steps (time + 1) = (start.afterFirst steps time).after step := by
  rw [afterFirst, List.take_add_one, next, afterAll, List.foldl_append]
  rfl

theorem afterFirst_over {time : Nat} (ended : steps[time]? = none) :
    start.afterFirst steps (time + 1) = start.afterFirst steps time := by
  rw [afterFirst, List.take_add_one, ended, Option.toList_none, List.append_nil]
  rfl

theorem IsPending.lt {time navigation : Nat} (pending : IsPending start steps time navigation) : navigation < time := by
  induction time with
  | zero => exact pending.elim
  | succ time inductionHypothesis =>
    rcases pending with ⟨rfl, _⟩ | ⟨before, _⟩
    · exact Nat.lt_succ_self _
    · exact Nat.lt_succ_of_lt (inductionHypothesis before)

/-- The navigations that are pending at a time are these, the latest first, and the history keeps what the page showed
before each of them. -/
structure Pendings (start : Page) (steps : List PageStep) (time : Nat) (navigations : List Nat) : Prop where
  latestFirst : navigations.Pairwise (· > ·)
  isPending_iff : ∀ navigation, IsPending start steps time navigation ↔ navigation ∈ navigations
  history : (start.afterFirst steps time).history =
    navigations.map fun navigation => (start.afterFirst steps navigation).shown

namespace Pendings

variable {time : Nat} {navigations : List Nat}

theorem isLatestPending {latest : Nat} {earlier : List Nat} (pendings : Pendings start steps time (latest :: earlier)) :
    IsLatestPending start steps time latest := by
  refine ⟨(pendings.isPending_iff latest).mpr List.mem_cons_self, fun other pending => ?_⟩
  rcases List.mem_cons.mp ((pendings.isPending_iff other).mp pending) with rfl | among
  · exact Nat.le_refl _
  · exact Nat.le_of_lt (List.rel_of_pairwise_cons pendings.latestFirst among)

/-- A navigation is pending from then on. -/
theorem navigate (pendings : Pendings start steps time navigations) {step : PageStep} (next : steps[time]? = some step)
    (navigates : (start.afterFirst steps time).Navigates step) : Pendings start steps (time + 1) (time :: navigations) where
  latestFirst := List.pairwise_cons.mpr
    ⟨fun other among => ((pendings.isPending_iff other).mpr among).lt, pendings.latestFirst⟩
  isPending_iff navigation := by
    have onward : ¬ steps[time]? = some (.call .back) := by
      rw [next]
      rintro ⟨⟩
      exact navigates
    rw [IsPending, pendings.isPending_iff, List.mem_cons]
    simp only [onward, false_and, not_false_eq_true, and_true]
    exact or_congr_left ⟨And.left, fun same => ⟨same, step, next, navigates⟩⟩
  history := by
    rw [afterFirst_succ next, history_of_navigates navigates, pendings.history, List.map_cons]

/-- A way back undoes the latest pending navigation, if there is one. -/
theorem back (pendings : Pendings start steps time navigations) (next : steps[time]? = some (.call .back)) :
    Pendings start steps (time + 1) navigations.tail where
  latestFirst := pendings.latestFirst.tail
  isPending_iff navigation := by
    have stays : ¬ NavigatesAt start steps time := by
      rintro ⟨step, same, navigates⟩
      rw [next] at same
      cases same
      exact navigates
    rw [IsPending]
    simp only [stays, and_false, false_or, next, true_and]
    rw [pendings.isPending_iff]
    cases navigations with
    | nil => exact iff_of_false (fun ⟨among, _⟩ => nomatch among) (fun among => nomatch among)
    | cons latest earlier =>
      have below : ∀ {other}, other ∈ earlier → other < latest := List.rel_of_pairwise_cons pendings.latestFirst
      constructor
      · rintro ⟨among, others⟩
        rcases List.mem_cons.mp among with rfl | among
        · exact absurd pendings.isLatestPending.2 others
        · exact among
      · intro among
        refine ⟨List.mem_cons_of_mem _ among, fun atMost => ?_⟩
        exact absurd (atMost latest pendings.isLatestPending.1) (Nat.not_le.mpr (below among))
  history := by
    rw [afterFirst_succ next, history_of_back, pendings.history, List.map_tail]

/-- Any other step leaves what is pending. -/
theorem stay (pendings : Pendings start steps time navigations) (stays : ¬ NavigatesAt start steps time)
    (onward : steps[time]? ≠ some (.call .back)) : Pendings start steps (time + 1) navigations where
  latestFirst := pendings.latestFirst
  isPending_iff navigation := by
    rw [IsPending, pendings.isPending_iff]
    simp only [stays, onward, and_false, false_and, false_or, not_false_eq_true, and_true]
  history := by
    cases next : steps[time]? with
    | none => rw [afterFirst_over next, pendings.history]
    | some step =>
      have remains : ¬ (start.afterFirst steps time).Navigates step := fun navigates => stays ⟨step, next, navigates⟩
      have ahead : step ≠ .call .back := fun same => onward (same ▸ next)
      rw [afterFirst_succ next, history_of_stays remains ahead, pendings.history]

end Pendings

theorem exists_pendings (unvisited : start.history = []) (time : Nat) :
    ∃ navigations, Pendings start steps time navigations := by
  induction time with
  | zero => exact ⟨[], .nil, fun _ => iff_of_false id (fun among => nomatch among), unvisited⟩
  | succ time inductionHypothesis =>
    obtain ⟨navigations, pendings⟩ := inductionHypothesis
    by_cases navigates : NavigatesAt start steps time
    · obtain ⟨step, next, goes⟩ := navigates
      exact ⟨_, pendings.navigate next goes⟩
    · by_cases next : steps[time]? = some (.call .back)
      · exact ⟨_, pendings.back next⟩
      · exact ⟨_, pendings.stay navigates next⟩

/-- At any time of any run from a page without a history, a way back undoes the latest navigation that has not been
undone: the page shows what it showed immediately before that, without any changes on elements, and reports the address.
All else stays. Where nothing is left to be undone, the answer is no, and nothing changes. -/
theorem back_undoes_latest_navigation (unvisited : start.history = []) (steps : List PageStep) (time : Nat) :
    let page := start.afterFirst steps time
    (∃ navigation, IsLatestPending start steps time navigation ∧
      let former := start.afterFirst steps navigation
      page.dispatch .back = {
        page := { page with url := former.url, source := former.source, changes := [], history := page.history.tail }
        answer := .ok (.string former.url)
        events := [.navigated former.url] }) ∨
    ((∀ navigation, ¬ IsPending start steps time navigation) ∧ page.dispatch .back = page.reply (.ok (.bool false))) := by
  intro page
  obtain ⟨navigations, pendings⟩ := @exists_pendings start steps unvisited time
  cases navigations with
  | nil =>
    have nowhere : page.history = [] := pendings.history
    refine .inr ⟨fun navigation pending => List.not_mem_nil ((pendings.isPending_iff navigation).mp pending), ?_⟩
    show page.back = _
    unfold back
    rw [nowhere]
  | cons latest earlier =>
    have somewhere : page.history = _ :: _ := pendings.history
    refine .inl ⟨latest, pendings.isLatestPending, ?_⟩
    show page.back = _
    unfold back
    rw [somewhere]
    rfl

/-- A page with a link to a second one, which also knows a third one. -/
def linkedPage : Page where
  url := "http://first/"
  source := .ofText "<a href='http://second/'>on</a>"
  known := [("http://second/", .ofText "<p>second</p>"), ("http://third/", .ofText "<p>third</p>")]

/-- The link is followed, the content is set, an address is not known, and the third page is opened. -/
def outing : List PageStep := [
  .call (.click "a"),
  .content "<p>edited</p>",
  .call (.visit "http://nowhere/"),
  .call (.visit "http://third/")]

/-- The way back from the third page leads to the second one, with the content that had been set. -/
theorem back_to_edited : linkedPage.history = [] ∧
    IsLatestPending linkedPage outing 4 3 ∧
    ((linkedPage.afterFirst outing 4).dispatch .back).page.shown.1 = "http://second/" ∧
    ((linkedPage.afterFirst outing 4).dispatch .back).page.shown.2.text = "<p>edited</p>" := by
  have unvisited : linkedPage.history = [] := rfl
  have known : ((linkedPage.afterFirst outing 3).known.lookup "http://third/").isSome = true := by decide +kernel
  have opened : IsPending linkedPage outing 4 3 := .inl ⟨rfl, _, rfl, known⟩
  rcases back_undoes_latest_navigation unvisited outing 4 with ⟨navigation, latest, undone⟩ | ⟨nothing, _⟩
  · have last : navigation = 3 := Nat.le_antisymm (Nat.le_of_lt_succ latest.1.lt) (latest.2 3 opened)
    subst last
    refine ⟨unvisited, latest, ?_, ?_⟩
    · rw [undone]
      decide +kernel
    · rw [undone]
      decide +kernel
  · exact absurd opened (nothing 3)

end Page

end Harvest
