import Harvest.Page.State

/-!
Contract: which calls the state of the elements comes from.

A page keeps what was typed, which attributes and styles were given, and where the focus is, by the
numbers of elements. These numbers mean something else when another document is put in place. All that was
changed is then forgotten. The focus is forgotten only where an address is gone to; when the content is set,
on the way back and on scrolling it is held over, and belongs to whatever element has the number there.
-/

namespace Harvest

/-- What is done to a page from outside: it is called, or its content is set. -/
inductive PageStep where
  | call (call : PageCall)
  | content (text : String)

/-- A part of what can be changed on an element. That it was changed at all is one, too. -/
inductive Mark where
  | touched
  | value (text : String)
  | attribute (name : String) (value : Option String)
  | style (name value : String)

/-- Whether what has been changed on an element leaves a mark. -/
def ElementChange.Has (change : ElementChange) : Mark → Prop
  | .touched => True
  | .value text => change.value = some text
  | .attribute name value => (name, value) ∈ change.attributes
  | .style name value => (name, value) ∈ change.style

namespace Changes

/-- Whether changes leave a mark on an element. -/
def Has (changes : Changes) (node : Nat) (mark : Mark) : Prop :=
  node ∈ List.map Prod.fst changes ∧ (changes.of node).Has mark

theorem not_has_nil (node : Nat) (mark : Mark) : ¬ Has [] node mark := by
  simp [Has]

theorem lookup_filter (changes : Changes) {node other : Nat} (different : other ≠ node) :
    List.lookup other (List.filter (fun entry => entry.1 != node) changes) = List.lookup other changes := by
  induction changes with
  | nil => rfl
  | cons entry changes inductionHypothesis =>
    obtain ⟨place, change⟩ := entry
    by_cases same : place = node
    · subst same
      rw [List.filter_cons_of_neg (by simp), List.lookup_cons, inductionHypothesis, beq_false_of_ne different]
    · rw [List.filter_cons_of_pos (by simpa using same), List.lookup_cons, List.lookup_cons, inductionHypothesis]

theorem of_update (changes : Changes) (node : Nat) (change : ElementChange → ElementChange) (other : Nat) :
    (changes.update node change).of other = if other = node then change (changes.of node) else changes.of other := by
  unfold update
  split
  next same =>
    rw [same, of, List.lookup_cons, beq_self_eq_true]
    rfl
  next different =>
    rw [of, List.lookup_cons, beq_false_of_ne different]
    dsimp only
    rw [lookup_filter changes different, of]

theorem of_untouched {changes : Changes} {node : Nat} (untouched : node ∉ List.map Prod.fst changes) :
    changes.of node = {} := by
  have absent : List.lookup node changes = none := by
    rw [List.lookup_eq_none_iff]
    intro entry member
    apply bne_iff_ne.mpr
    rintro rfl
    exact untouched (List.mem_map_of_mem member)
  rw [of, absent]
  rfl

/-- A mark on an element that has been changed more was there before, or it has just been left. -/
theorem has_of_update {changes : Changes} {place node : Nat} {change : ElementChange → ElementChange} {mark : Mark}
    {given : Prop} (touches : mark = .touched → given)
    (adds : ∀ former : ElementChange, (change former).Has mark → given ∨ former.Has mark)
    (has : (changes.update place change).Has node mark) : (node = place ∧ given) ∨ changes.Has node mark := by
  obtain ⟨touched, marked⟩ := has
  rw [of_update] at marked
  split at marked
  next same =>
    subst same
    rcases adds _ marked with done | former
    · exact .inl ⟨rfl, done⟩
    · by_cases before : node ∈ List.map Prod.fst changes
      · exact .inr ⟨before, former⟩
      · rw [of_untouched before] at former
        have only : mark = .touched := by cases mark <;> simp_all [ElementChange.Has]
        exact .inl ⟨rfl, touches only⟩
  next different =>
    have before : node ∈ List.map Prod.fst changes := by
      simp only [update, List.map_cons, List.mem_cons, different, false_or, List.mem_map, List.mem_filter] at touched
      obtain ⟨entry, ⟨member, _⟩, same⟩ := touched
      exact same ▸ List.mem_map_of_mem member
    exact .inr ⟨before, marked⟩

theorem has_of_updateAll {changes : Changes} {nodes : List Nat} {node : Nat} {change : ElementChange → ElementChange}
    {mark : Mark} {given : Prop} (touches : mark = .touched → given)
    (adds : ∀ former : ElementChange, (change former).Has mark → given ∨ former.Has mark)
    (has : (changes.updateAll nodes change).Has node mark) : (node ∈ nodes ∧ given) ∨ changes.Has node mark := by
  induction nodes generalizing changes with
  | nil => exact .inr has
  | cons place nodes inductionHypothesis =>
    rcases inductionHypothesis has with ⟨among, done⟩ | before
    · exact .inl ⟨List.mem_cons_of_mem _ among, done⟩
    · rcases has_of_update touches adds before with ⟨rfl, done⟩ | former
      · exact .inl ⟨List.mem_cons_self, done⟩
      · exact .inr former

end Changes

namespace Page

def after (page : Page) : PageStep → Page
  | .call call => (page.dispatch call).page
  | .content text => page.setContent text

def afterAll (page : Page) (steps : List PageStep) : Page :=
  steps.foldl after page

/-- A page on which nothing has been changed, without a focus. -/
structure IsFresh (page : Page) : Prop where
  unchanged : page.changes = []
  unfocused : page.focused = none

/-! ### What steps do -/

/-- A step goes to an address: one that the page knows is opened, or a link to one is followed. -/
def Navigates (page : Page) : PageStep → Prop
  | .call (.visit address) => (page.known.lookup address).isSome
  | .call (.click selector) =>
    ∃ node others address, page.select selector = .ok (node :: others) ∧ page.linkOf? node = some address
  | _ => False

/-- A step puts a document in place: it goes to an address, or back to where the page has been, or scrolls on to a
document of the feed, or sets the content. -/
def Places (page : Page) : PageStep → Prop
  | .content _ => True
  | .call .back => page.history ≠ []
  | .call (.scroll _) => page.feed ≠ []
  | step => page.Navigates step

/-- A step leaves a mark on an element: it types into it, or gives it styles and attributes. -/
def Marks (node : Nat) (mark : Mark) (page : Page) : PageStep → Prop
  | .call (.type selector text) =>
    (∃ nodes, page.select selector = .ok nodes ∧ node ∈ nodes) ∧ (mark = .touched ∨ mark = .value text)
  | .call (.changeElement selector style attributes) =>
    (∃ nodes, page.select selector = .ok nodes ∧ node ∈ nodes) ∧ (mark = .touched ∨
      (∃ field ∈ style, mark = .style (Text.toLower field.1) (ElementChange.styleValue field.2)) ∨
      ∃ field ∈ attributes, mark = .attribute field.1 (ElementChange.attributeValue field.2))
  | _ => False

/-- A step puts the focus on an element. -/
def Focuses (node : Nat) (page : Page) : PageStep → Prop
  | .call (.focus selector) => ∃ others, page.select selector = .ok (node :: others)
  | _ => False

/-- A step takes the focus from an element: it goes to an address, puts the focus anew, or blurs the element. -/
def Releases (node : Nat) (page : Page) : PageStep → Prop
  | .call (.focus selector) => ∃ nodes, page.select selector = .ok nodes
  | .call (.blur selector) => ∃ nodes, page.select selector = .ok nodes ∧ node ∈ nodes
  | step => page.Navigates step

def AsksFocus (_ : Page) : PageStep → Prop
  | .call (.focus _) => True
  | _ => False

/-! ### Runs -/

/-- Nothing of a kind is done on the way from a page on. -/
def Never (does : Page → PageStep → Prop) : Page → List PageStep → Prop
  | _, [] => True
  | page, step :: steps => ¬ does page step ∧ Never does (page.after step) steps

/-- Something is done at one of the steps, and what comes behind that is as told, from the page there on. -/
def DoneThen (does : Page → PageStep → Prop) (behind : Page → List PageStep → Prop) : Page → List PageStep → Prop
  | _, [] => False
  | page, step :: steps =>
    (does page step ∧ behind (page.after step) steps) ∨ DoneThen does behind (page.after step) steps

/-- Something is done, and no document has been put in place since. -/
def DoneSincePlaced (does : Page → PageStep → Prop) : Page → List PageStep → Prop :=
  DoneThen does (Never Places)

/-- An element was given the focus, nothing has taken it away since, and a document has been put in place since. -/
def HeldOver (node : Nat) : Page → List PageStep → Prop :=
  DoneThen (Focuses node) fun page steps => Never (Releases node) page steps ∧ ¬ Never Places page steps

variable {does undoes : Page → PageStep → Prop} {behind other : Page → List PageStep → Prop}

theorem DoneThen.imp {page : Page} {steps : List PageStep} (done : DoneThen does behind page steps)
    (more : ∀ page step, does page step → undoes page step)
    (weaker : ∀ page steps, behind page steps → other page steps) : DoneThen undoes other page steps := by
  induction steps generalizing page with
  | nil => exact done
  | cons step steps inductionHypothesis =>
    rcases done with ⟨here, then_⟩ | later
    · exact .inl ⟨more _ _ here, weaker _ _ then_⟩
    · exact .inr (inductionHypothesis later)

theorem DoneThen.or {page : Page} {steps : List PageStep}
    (done : DoneThen does (fun page steps => behind page steps ∨ other page steps) page steps) :
    DoneThen does behind page steps ∨ DoneThen does other page steps := by
  induction steps generalizing page with
  | nil => exact .inl done
  | cons step steps inductionHypothesis =>
    rcases done with ⟨here, left | right⟩ | later
    · exact .inl (.inl ⟨here, left⟩)
    · exact .inr (.inl ⟨here, right⟩)
    · exact (inductionHypothesis later).imp .inr .inr

/-- What is never done is not done at one of the steps. -/
theorem Never.not_doneThen {page : Page} {steps : List PageStep} (never : Never does page steps) :
    ¬ DoneThen does behind page steps := by
  induction steps generalizing page with
  | nil => exact id
  | cons step steps inductionHypothesis =>
    rintro (⟨here, _⟩ | later)
    · exact never.1 here
    · exact inductionHypothesis never.2 later

/-- What is never done on the way is not done on the way behind one of the steps. -/
theorem Never.not_doneThen_not_never {page : Page} {steps : List PageStep} (never : Never undoes page steps) :
    ¬ DoneThen does (fun page steps => ¬ Never undoes page steps) page steps := by
  induction steps generalizing page with
  | nil => exact id
  | cons step steps inductionHypothesis =>
    rintro (⟨_, some_step⟩ | later)
    · exact some_step never.2
    · exact inductionHypothesis never.2 later

section

variable (holds : Page → Prop) {page : Page} {steps : List PageStep}

/-- If a step brings something about only by doing it, and undoing it is the end of it, then what holds in the end was
done and not undone since, unless it held in the beginning. -/
theorem doneThen_of_afterAll
    (step_only : ∀ page step, holds (page.after step) → does page step ∨ holds page ∧ ¬ undoes page step)
    (in_the_end : holds (page.afterAll steps)) :
    (holds page ∧ Never undoes page steps) ∨ DoneThen does (Never undoes) page steps := by
  induction steps generalizing page with
  | nil => exact .inl ⟨in_the_end, trivial⟩
  | cons step steps inductionHypothesis =>
    rcases inductionHypothesis in_the_end with ⟨here, never⟩ | later
    · rcases step_only page step here with done | ⟨kept, still⟩
      · exact .inr (.inl ⟨done, never⟩)
      · exact .inl ⟨kept, still, never⟩
    · exact .inr (.inr later)

/-- What only a step that undoes it can end holds until such a step is done. -/
theorem afterAll_of_never (step_keeps : ∀ page step, holds page → ¬ undoes page step → holds (page.after step))
    (here : holds page) (never : Never undoes page steps) : holds (page.afterAll steps) := by
  induction steps generalizing page with
  | nil => exact here
  | cons step steps inductionHypothesis =>
    exact inductionHypothesis (step_keeps page step here never.1) never.2

theorem afterAll_of_doneThen (step_keeps : ∀ page step, holds page → ¬ undoes page step → holds (page.after step))
    (step_does : ∀ page step, does page step → holds (page.after step))
    (done : DoneThen does (Never undoes) page steps) : holds (page.afterAll steps) := by
  induction steps generalizing page with
  | nil => exact done.elim
  | cons step steps inductionHypothesis =>
    rcases done with ⟨here, never⟩ | later
    · have there : holds (page.after step) := step_does page step here
      exact @afterAll_of_never undoes holds (page.after step) steps step_keeps there never
    · exact inductionHypothesis later

end

/-! ### What one step leaves -/

theorem navigate_of_known {page : Page} {address : String} {source : PageSource}
    (known : page.known.lookup address = some source) : (page.navigate address).page.IsFresh := by
  unfold navigate
  rw [known]
  exact ⟨rfl, rfl⟩

theorem navigate_of_unknown {page : Page} {address : String} (unknown : page.known.lookup address = none) :
    (page.navigate address).page = page := by
  unfold navigate
  rw [unknown]
  rfl

theorem known_of_linkOf? {page : Page} {node : Nat} {address : String} (link : page.linkOf? node = some address) :
    ∃ source, page.known.lookup address = some source := by
  unfold linkOf? at link
  split at link
  · exact Option.isSome_iff_exists.mp (Option.filter_eq_some_iff.mp link).2
  · cases link

/-- A click on a link goes to where it leads. -/
theorem click_of_link {page : Page} {selector : String} {node : Nat} {others : List Nat} {address : String}
    (selects : page.select selector = .ok (node :: others)) (link : page.linkOf? node = some address) :
    (page.click selector).page = ((page.note "click" selector).navigate address).page ∧
      (page.click selector).answer = ((page.note "click" selector).navigate address).answer.map fun _ => .bool true := by
  have selects' : (page.note "click" selector).select selector = .ok (node :: others) := selects
  have link' : (page.note "click" selector).linkOf? node = some address := link
  simp only [click, selects', link', and_self]

/-- When a step goes to an address, nothing is changed there, and nothing has the focus. -/
theorem isFresh_of_navigates {page : Page} {step : PageStep} (navigates : page.Navigates step) :
    (page.after step).IsFresh := by
  match step with
  | .call (.visit address) =>
    obtain ⟨source, known⟩ := Option.isSome_iff_exists.mp navigates
    exact @navigate_of_known (page.note "open" address) address source known
  | .call (.click selector) =>
    obtain ⟨node, others, address, selects, link⟩ := navigates
    obtain ⟨source, known⟩ := known_of_linkOf? link
    show (page.click selector).page.IsFresh
    rw [(click_of_link selects link).1]
    exact @navigate_of_known (page.note "click" selector) address source known

/-- A click that follows no link leaves what has been changed, and the focus. -/
theorem click_of_not_navigates {page : Page} {selector : String} (stays : ¬ page.Navigates (.call (.click selector))) :
    (page.click selector).page = page.note "click" selector := by
  cases selects : page.select selector with
  | error failure =>
    have selects' : (page.note "click" selector).select selector = .error failure := selects
    simp only [click, selects', reply]
  | ok nodes =>
    cases nodes with
    | nil =>
      have selects' : (page.note "click" selector).select selector = .ok [] := selects
      simp only [click, selects', reply]
    | cons node others =>
      cases link : page.linkOf? node with
      | some address => exact absurd ⟨node, others, address, selects, link⟩ stays
      | none =>
        have selects' : (page.note "click" selector).select selector = .ok (node :: others) := selects
        have link' : (page.note "click" selector).linkOf? node = none := link
        simp only [click, selects', link']

/-- When a step puts a document in place, nothing is changed there. -/
theorem changes_of_places {page : Page} {step : PageStep} (places : page.Places step) :
    (page.after step).changes = [] := by
  match step with
  | .content text => rfl
  | .call .back =>
    show page.back.page.changes = []
    unfold back
    split
    next none => exact absurd none places
    next => rfl
  | .call (.scroll selector) =>
    show (page.scroll selector).page.changes = []
    unfold scroll
    dsimp only
    split
    next none => exact absurd none places
    next => rfl
  | .call (.visit address) =>
    have navigates : page.Navigates (.call (.visit address)) := places
    exact (isFresh_of_navigates navigates).unchanged
  | .call (.click selector) =>
    have navigates : page.Navigates (.call (.click selector)) := places
    exact (isFresh_of_navigates navigates).unchanged

theorem visit_of_not_navigates {page : Page} {address : String} (stays : ¬ page.Navigates (.call (.visit address))) :
    ((page.note "open" address).navigate address).page = page.note "open" address := by
  have unknown : page.known.lookup address = none := Option.not_isSome_iff_eq_none.mp stays
  exact @navigate_of_unknown (page.note "open" address) address unknown

/-- Changing elements leaves marks on those that the selector matches. -/
theorem has_of_change {page : Page} {kind selector : String} {change : ElementChange → ElementChange} {node : Nat}
    {mark : Mark} {given : Prop} (touches : mark = .touched → given)
    (adds : ∀ former : ElementChange, (change former).Has mark → given ∨ former.Has mark)
    (has : (page.change kind selector change).page.changes.Has node mark) :
    ((∃ nodes, page.select selector = .ok nodes ∧ node ∈ nodes) ∧ given) ∨ page.changes.Has node mark := by
  cases selects : page.select selector with
  | error failure =>
    have selects' : (page.note kind selector).select selector = .error failure := selects
    simp only [Page.change, selects', reply] at has
    exact .inr has
  | ok nodes =>
    have selects' : (page.note kind selector).select selector = .ok nodes := selects
    simp only [Page.change, selects', reply] at has
    rcases Changes.has_of_updateAll touches adds has with ⟨among, done⟩ | before
    · exact .inl ⟨⟨nodes, rfl, among⟩, done⟩
    · exact .inr before

theorem has_withValue {text : String} {mark : Mark} {former : ElementChange} (has : (former.withValue text).Has mark) :
    (mark = .touched ∨ mark = .value text) ∨ former.Has mark := by
  match mark with
  | .touched => exact .inl (.inl rfl)
  | .value typed =>
    have same : text = typed := Option.some.inj has
    exact .inl (.inr (same ▸ rfl))
  | .attribute name value => exact .inr has
  | .style name value => exact .inr has

theorem has_withAttributes {style attributes : Fields} {mark : Mark} {former : ElementChange}
    (has : ((former.withStyle style).withAttributes attributes).Has mark) : (mark = .touched ∨
      (∃ field ∈ style, mark = .style (Text.toLower field.1) (ElementChange.styleValue field.2)) ∨
      ∃ field ∈ attributes, mark = .attribute field.1 (ElementChange.attributeValue field.2)) ∨ former.Has mark := by
  match mark with
  | .touched => exact .inl (.inl rfl)
  | .value typed => exact .inr has
  | .attribute name value =>
    rcases List.mem_append.mp has with given | before
    · obtain ⟨field, member, same⟩ := List.mem_map.mp (List.mem_reverse.mp given)
      cases same
      exact .inl (.inr (.inr ⟨field, member, rfl⟩))
    · exact .inr before
  | .style name value =>
    rcases List.mem_append.mp has with given | before
    · obtain ⟨field, member, same⟩ := List.mem_map.mp (List.mem_reverse.mp given)
      cases same
      exact .inl (.inr (.inl ⟨field, member, rfl⟩))
    · exact .inr before

theorem changes_focus (page : Page) (selector : String) : (page.focus selector).page.changes = page.changes := by
  unfold focus
  split <;> rfl

theorem changes_blur (page : Page) (selector : String) : (page.blur selector).page.changes = page.changes := by
  unfold blur
  dsimp only
  split
  · rfl
  · split
    · rfl
    · split <;> rfl

/-- A mark that an element has behind a step was left by it, or it was there before, and the document is still the
same. -/
theorem has_after (node : Nat) (mark : Mark) (page : Page) (step : PageStep)
    (has : (page.after step).changes.Has node mark) :
    Marks node mark page step ∨ page.changes.Has node mark ∧ ¬ page.Places step := by
  by_cases places : page.Places step
  · rw [changes_of_places places] at has
    exact absurd has (Changes.not_has_nil node mark)
  · suffices Marks node mark page step ∨ page.changes.Has node mark from this.imp_right fun before => ⟨before, places⟩
    match step with
    | .content text => exact absurd trivial places
    | .call call =>
      cases call with
      | type selector text => exact has_of_change .inl (fun _ => has_withValue) has
      | changeElement selector style attributes => exact has_of_change .inl (fun _ => has_withAttributes) has
      | click selector =>
        have kept : (page.click selector).page.changes = page.changes := by
          rw [click_of_not_navigates places]
          rfl
        exact .inr (kept ▸ has)
      | visit address =>
        have kept : ((page.note "open" address).navigate address).page.changes = page.changes := by
          rw [visit_of_not_navigates places]
          rfl
        exact .inr (kept ▸ has)
      | scroll selector =>
        have kept : (page.scroll selector).page.changes = page.changes := by
          have none : page.feed = [] := Classical.not_not.mp places
          simp only [scroll, note, none, reply]
        exact .inr (kept ▸ has)
      | back =>
        have kept : page.back.page.changes = page.changes := by
          have none : page.history = [] := Classical.not_not.mp places
          simp only [back, none, reply]
        exact .inr (kept ▸ has)
      | focus selector => exact .inr (page.changes_focus selector ▸ has)
      | blur selector => exact .inr (page.changes_blur selector ▸ has)
      | _ => exact .inr has

/-- A step that is no call about the focus takes it away if it goes to an address. -/
theorem focused_of_navigation {node : Nat} {page : Page} {step : PageStep} (other : ¬ Focuses node page step)
    (releases : Releases node page step ↔ page.Navigates step)
    (stays : ¬ page.Navigates step → (page.after step).focused = page.focused) :
    (page.after step).focused = some node ↔
      Focuses node page step ∨ page.focused = some node ∧ ¬ Releases node page step := by
  by_cases navigates : page.Navigates step
  · rw [(isFresh_of_navigates navigates).unfocused]
    simp [navigates, other, releases]
  · rw [stays navigates]
    simp [navigates, other, releases]

theorem focused_of_change (page : Page) (kind selector : String) (change : ElementChange → ElementChange) :
    (page.change kind selector change).page.focused = page.focused := by
  unfold Page.change
  dsimp only
  split <;> rfl

theorem focused_of_focus (page : Page) (selector : String) (node : Nat) :
    (page.focus selector).page.focused = some node ↔ (∃ others, page.select selector = .ok (node :: others)) ∨
      page.focused = some node ∧ ¬ ∃ nodes, page.select selector = .ok nodes := by
  unfold focus
  cases page.select selector with
  | error failure => simp [reply]
  | ok nodes => cases nodes <;> simp [reply]

/-- A blur takes the focus from an element that the selector matches, and says whether there was one. -/
theorem blur_of_select {page : Page} {selector : String} {nodes : List Nat}
    (selects : page.select selector = .ok nodes) :
    page.blur selector = { page.note "blur" selector with
      focused := page.focused.filter fun node => !nodes.contains node }.reply
        (.ok (.bool (page.focused.any nodes.contains))) := by
  have selects' : (page.note "blur" selector).select selector = .ok nodes := selects
  simp only [blur, selects']
  cases focused : page.focused with
  | none => simp [note, focused]
  | some node =>
    have rest : Option.filter (fun node => !nodes.contains node) (some node) =
        if nodes.contains node then none else some node := by
      cases among : nodes.contains node <;> rw [Option.filter, among] <;> rfl
    rw [rest]
    cases among : nodes.contains node <;> simp [note, focused, among, -List.contains_eq_mem]

theorem blur_of_no_selector {page : Page} {selector : String} {failure : Failure}
    (selects : page.select selector = .error failure) :
    page.blur selector = (page.note "blur" selector).reply (.error failure) := by
  have selects' : (page.note "blur" selector).select selector = .error failure := selects
  simp only [blur, selects']

theorem focused_of_blur (page : Page) (selector : String) (node : Nat) :
    (page.blur selector).page.focused = some node ↔
      page.focused = some node ∧ ¬ ∃ nodes, page.select selector = .ok nodes ∧ node ∈ nodes := by
  cases selects : page.select selector with
  | error failure =>
    rw [blur_of_no_selector selects]
    simp [reply, note]
  | ok nodes =>
    rw [blur_of_select selects]
    simp [reply, Option.filter_eq_some_iff]

/-- An element has the focus behind a step if the step put it there, or if it had the focus and the step did not take it
away. -/
theorem focused_after_iff (node : Nat) (page : Page) (step : PageStep) : (page.after step).focused = some node ↔
    Focuses node page step ∨ page.focused = some node ∧ ¬ Releases node page step := by
  match step with
  | .content text => exact focused_of_navigation id Iff.rfl fun _ => rfl
  | .call call =>
    cases call with
    | focus selector => exact focused_of_focus page selector node
    | blur selector => exact (focused_of_blur page selector node).trans (iff_of_eq (false_or _).symm)
    | click selector =>
      refine focused_of_navigation id Iff.rfl fun stays => ?_
      show (page.click selector).page.focused = page.focused
      rw [click_of_not_navigates stays]
      rfl
    | visit address =>
      refine focused_of_navigation id Iff.rfl fun stays => ?_
      show ((page.note "open" address).navigate address).page.focused = page.focused
      rw [visit_of_not_navigates stays]
      rfl
    | scroll selector =>
      refine focused_of_navigation id Iff.rfl fun _ => ?_
      show (page.scroll selector).page.focused = page.focused
      unfold scroll
      dsimp only
      split <;> rfl
    | back =>
      refine focused_of_navigation id Iff.rfl fun _ => ?_
      show page.back.page.focused = page.focused
      unfold back
      split <;> rfl
    | type selector text =>
      exact focused_of_navigation id Iff.rfl fun _ => focused_of_change page "type" selector _
    | changeElement selector style attributes =>
      exact focused_of_navigation id Iff.rfl fun _ => focused_of_change page "changeElement" selector _
    | _ => exact focused_of_navigation id Iff.rfl fun _ => rfl

/-! ### All runs -/

/-- What has the focus was given it, and it has not been taken away since. -/
theorem focused_iff {start : Page} (fresh : start.IsFresh) (steps : List PageStep) (node : Nat) :
    (start.afterAll steps).focused = some node ↔ DoneThen (Focuses node) (Never (Releases node)) start steps := by
  have step_iff := focused_after_iff node
  let holds : Page → Prop := fun page => page.focused = some node
  constructor
  · intro focused
    rcases doneThen_of_afterAll holds (fun page step => (step_iff page step).mp) focused with ⟨before, _⟩ | done
    · have somewhere : none = some node := fresh.unfocused.symm.trans before
      cases somewhere
    · exact done
  · exact afterAll_of_doneThen holds (fun page step here still => (step_iff page step).mpr (.inr ⟨here, still⟩))
      fun page step does => (step_iff page step).mpr (.inl does)

/-- A focus that is held over is not one that was put on the document. -/
theorem HeldOver.not_doneSincePlaced {node : Nat} {page : Page} {steps : List PageStep}
    (held : HeldOver node page steps) : ¬ DoneSincePlaced (Focuses node) page steps := by
  induction steps generalizing page with
  | nil => exact id
  | cons step steps inductionHypothesis =>
    rintro (⟨_, same⟩ | later)
    · rcases held with ⟨_, _, another⟩ | heldLater
      · exact another same
      · exact same.not_doneThen_not_never (heldLater.imp (fun _ _ => id) fun _ _ => And.right)
    · rcases held with ⟨_, never, _⟩ | heldLater
      · -- an element that is given the focus anew is released from it before
        have renewed : ∀ page step, Focuses node page step → Releases node page step := by
          intro page step focuses
          match step with
          | .call (.focus selector) => exact ⟨_, focuses.choose_spec⟩
        exact never.not_doneThen (later.imp renewed fun _ _ => id)
      · exact inductionHypothesis heldLater later

theorem asksFocus_of_focuses {node : Nat} (page : Page) (step : PageStep) (focuses : Focuses node page step) :
    AsksFocus page step := by
  match step with
  | .call (.focus selector) => trivial

/-- On each way from a fresh page, all that has been changed on elements was changed by calls since the document was put
in place. The focus was put where it is by a call since then, too, exactly unless it is held over: then it was put on an
element of a former document, and a document was put in place without going to an address. And if there was no call
for the focus since, a blur answers no, exactly unless its selector matches where the focus is held over. -/
theorem element_state_is_fresh_unless_held_over {start : Page} (fresh : start.IsFresh) (steps : List PageStep) :
    (∀ node mark, (start.afterAll steps).changes.Has node mark → DoneSincePlaced (Marks node mark) start steps) ∧
    (∀ node, HeldOver node start steps ↔
      (start.afterAll steps).focused = some node ∧ ¬ DoneSincePlaced (Focuses node) start steps) ∧
    (¬ DoneSincePlaced AsksFocus start steps → ∀ selector nodes, (start.afterAll steps).select selector = .ok nodes →
      ∃ answer, ((start.afterAll steps).dispatch (.blur selector)).answer = .ok (.bool answer) ∧
        (answer = true ↔ ∃ node ∈ nodes, HeldOver node start steps)) := by
  have marks : ∀ node mark, (start.afterAll steps).changes.Has node mark →
      DoneSincePlaced (Marks node mark) start steps := by
    intro node mark has
    let holds : Page → Prop := fun page => page.changes.Has node mark
    rcases doneThen_of_afterAll holds (has_after node mark) has with ⟨before, _⟩ | done
    · have nothing : Changes.Has [] node mark := fresh.unchanged ▸ before
      exact absurd nothing (Changes.not_has_nil node mark)
    · exact done
  have held : ∀ node, HeldOver node start steps ↔
      (start.afterAll steps).focused = some node ∧ ¬ DoneSincePlaced (Focuses node) start steps := by
    intro node
    rw [focused_iff fresh]
    constructor
    · intro held
      exact ⟨held.imp (fun _ _ => id) fun _ _ => And.left, held.not_doneSincePlaced⟩
    · rintro ⟨focused, stale⟩
      have either : DoneThen (Focuses node) (fun page steps => Never Places page steps ∨
          (Never (Releases node) page steps ∧ ¬ Never Places page steps)) start steps := by
        refine focused.imp (fun _ _ => id) fun page steps kept => ?_
        by_cases same : Never Places page steps
        · exact .inl same
        · exact .inr ⟨kept, same⟩
      exact either.or.resolve_left stale
  refine ⟨marks, held, fun unasked selector nodes selects => ?_⟩
  have unfocused : ∀ node, ¬ DoneSincePlaced (Focuses node) start steps :=
    fun node focused => unasked (focused.imp asksFocus_of_focuses fun _ _ => id)
  refine ⟨(start.afterAll steps).focused.any nodes.contains, ?_, ?_⟩
  · show ((start.afterAll steps).blur selector).answer = _
    rw [blur_of_select selects]
    rfl
  · simp only [held, unfocused, not_false_eq_true, and_true, Option.any_eq_true, List.contains_iff_mem]
    exact ⟨fun ⟨node, focused, among⟩ => ⟨node, among, focused⟩, fun ⟨node, among, focused⟩ => ⟨node, focused, among⟩⟩

def fieldPage : Page where
  source := .ofText "<input id='a'>"

/-- The field gets the focus, then the content is replaced by another field. -/
def refilled : List PageStep :=
  [.call (.focus "#a"), .content "<input id='b'>"]

theorem focused_refilled : (fieldPage.afterAll refilled).focused = some 4 := by
  decide +kernel

theorem not_asked_since_refilled : ¬ DoneSincePlaced AsksFocus fieldPage refilled := by
  rintro (⟨_, same, _⟩ | (⟨asks, _⟩ | none))
  · exact same trivial
  · exact asks
  · exact none

/-- The focus is held over when the field is replaced. -/
theorem held_over_refilled : fieldPage.IsFresh ∧ HeldOver 4 fieldPage refilled := by
  have fresh : fieldPage.IsFresh := ⟨rfl, rfl⟩
  have unfocused : ¬ DoneSincePlaced (Focuses 4) fieldPage refilled :=
    fun focused => not_asked_since_refilled (focused.imp asksFocus_of_focuses fun _ _ => id)
  exact ⟨fresh, ((element_state_is_fresh_unless_held_over fresh refilled).2.1 4).mpr ⟨focused_refilled, unfocused⟩⟩

/-- Nothing has asked for the focus since the field was replaced, and yet the new field has it, and loses it by a blur. -/
theorem blur_finds_stale_focus : ¬ DoneSincePlaced AsksFocus fieldPage refilled ∧
    (fieldPage.afterAll refilled).focused = some 4 ∧
    ((fieldPage.afterAll refilled).dispatch (.blur "#b")).answer = .ok (.bool true) := by
  have matched : Selector.select? (fieldPage.afterAll refilled).source.document "#b" = some [4] := by decide +kernel
  have selects : (fieldPage.afterAll refilled).select "#b" = .ok [4] := by
    unfold select
    rw [matched]
  refine ⟨not_asked_since_refilled, focused_refilled, ?_⟩
  show ((fieldPage.afterAll refilled).blur "#b").answer = _
  rw [blur_of_select selects, focused_refilled]
  rfl

end Page

end Harvest
