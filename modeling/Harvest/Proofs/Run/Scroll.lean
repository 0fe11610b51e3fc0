import Harvest.Proofs.Run.Poll
import Harvest.Proofs.Run.Still

/-!
Contract: a parse with scroll pagination, as a function of the page.

`Job.LeadsTo` says what a job in front of a quiet world makes of the page, and in how many
moments. A scroll shows the next document of the feed, and the probe behind it accepts that at
once or never, since nothing else changes the page. So for still rules a parse is a walk along the
pages that scrolling shows: `Page.harvest` is that walk, and `leadsTo_parse` says that it is what
a parse does.
-/

namespace Harvest

open World

variable {surroundings : Surroundings Stage} {α β : Type}

/-- In front of a quiet world a job leads from one stage to another, in a number of moments at most, and ends there with
a value. -/
def Job.LeadsTo (surroundings : Surroundings Stage) (moments : Nat) (job : Job α) (stage later : Stage) (value : α) :
    Prop :=
  ∀ (records : Records) (world : World Stage), world.IsQuiet → world.state = stage →
    ∃ last : World Stage, last.state = later ∧ ∃ used trail, used ≤ moments ∧
      Course surroundings records used world job trail last (.done value)

namespace Job.LeadsTo

variable {moments more : Nat} {stage middle later : Stage}

theorem done (stage : Stage) (value : α) : (Job.done value).LeadsTo surroundings 0 stage stage value :=
  fun _ world _ here => ⟨world, here, 0, [], Nat.le_refl 0, .stay world _⟩

theorem of_endsAt {job : Job α} {value : α} (ends : job.EndsAt surroundings stage value) :
    job.LeadsTo surroundings 0 stage stage value := by
  intro records world _ here
  obtain ⟨last, same, ended⟩ := ends records none world here
  obtain ⟨trail, course⟩ := Course.of_runJob ended
  exact ⟨last, same, 0, trail, Nat.le_refl 0, course⟩

theorem mono {job : Job α} {value : α} (leads : job.LeadsTo surroundings moments stage later value)
    (few : moments ≤ more) : job.LeadsTo surroundings more stage later value := by
  intro records world quiet here
  obtain ⟨last, there, used, trail, bounded, course⟩ := leads records world quiet here
  exact ⟨last, there, used, trail, Nat.le_trans bounded few, course⟩

theorem andThen {job : Job α} {next : α → Job β} {value : α} {result : β}
    (first : job.LeadsTo surroundings moments stage middle value)
    (second : (next value).LeadsTo surroundings more middle later result) :
    (job.andThen next).LeadsTo surroundings (moments + more) stage later result := by
  intro records world quiet here
  obtain ⟨between, there, used, front, fewer, course⟩ := first records world quiet here
  obtain ⟨last, reached, usedThen, back, fewerThen, courseThen⟩ :=
    second records between (course.quiet quiet) there
  exact ⟨last, reached, used + usedThen, front ++ back, Nat.add_le_add fewer fewerThen, course.andThen courseThen⟩

/-- A sequence leads where its first part does if nothing is left to do behind that. -/
theorem andThen_done {job : Job α} {next : α → Job β} {value : α} {result : β}
    (first : job.LeadsTo surroundings moments stage later value) (ends : next value = .done result) :
    (job.andThen next).LeadsTo surroundings moments stage later result := by
  intro records world quiet here
  obtain ⟨last, there, used, trail, fewer, course⟩ := first records world quiet here
  exact ⟨last, there, used, trail, fewer, course.andThen_done ends⟩

/-- A quiet world that runs a script gets where the script leads. -/
theorem run {script : Script α} {outcome : Except Failure α}
    (leads : script.run.LeadsTo surroundings moments stage later outcome) (enough : moments < World.bound)
    {world : World Stage} (quiet : world.IsQuiet) (here : world.state = stage) (records : Records) :
    ∃ last, last.state = later ∧ world.run surroundings records script = (last, outcome) := by
  obtain ⟨last, there, used, trail, fewer, course⟩ := leads records world quiet here
  exact ⟨last, there, run_of_course course quiet (Nat.lt_of_le_of_lt fewer enough)⟩

end Job.LeadsTo

namespace Script

variable {moments more : Nat} {stage middle later : Stage}

theorem leadsTo_bind {script : Script α} {next : α → Script β} {value : α} {outcome : Except Failure β}
    (first : script.run.LeadsTo surroundings moments stage middle (.ok value))
    (second : (next value).run.LeadsTo surroundings more middle later outcome) :
    (script >>= next).run.LeadsTo surroundings (moments + more) stage later outcome :=
  first.andThen second

theorem leadsTo_atOnce {script : Script α} {next : α → Script β} {value : α} {outcome : Except Failure β}
    (first : script.run.LeadsTo surroundings 0 stage middle (.ok value))
    (second : (next value).run.LeadsTo surroundings moments middle later outcome) :
    (script >>= next).run.LeadsTo surroundings moments stage later outcome :=
  (leadsTo_bind first second).mono (by omega)

theorem leadsTo_bind_error {script : Script α} {next : α → Script β} {failure : Failure}
    (first : script.run.LeadsTo surroundings moments stage later (.error failure)) :
    (script >>= next).run.LeadsTo surroundings moments stage later (.error failure) :=
  first.andThen_done rfl

theorem leadsTo_outcome {script : Script α} {outcome : Except Failure α}
    (leads : script.run.LeadsTo surroundings moments stage later outcome) :
    (Script.outcome script).run.LeadsTo surroundings moments stage later (.ok outcome) :=
  leads.andThen_done rfl

end Script

/-- Work that nothing stands in front of is done by the page, at once. -/
theorem leadsTo_work (serves : surroundings.serve = Stage.serve) {stage : Stage} (unfixed : stage.fixed = [])
    (work : PageWork) :
    (Script.work work).run.LeadsTo surroundings 0 stage (stage.withPage (stage.page.work work).page)
      (stage.page.work work).answer := by
  intro records world _ here
  subst here
  exact ⟨_, rfl, 0, _, Nat.le_refl 0, .answered (attend_work serves unfixed work) (.stay _ _)⟩

/-! ### Polls that do not change the page -/

namespace Polling

variable {polling : Polling Stage} (serves : polling.surroundings.serve = Stage.serve)
  (unbroken : polling.options.breaker = none) {stage : Stage} (unfixed : stage.fixed = [])
  (kept : (stage.page.dispatch polling.probe).page = stage.page)

include unbroken in
theorem consult_unbroken (world : World Stage) : polling.consult world = (world, false) := by
  rw [consult, unbroken]

include serves unfixed kept in
theorem serve_probe : polling.surroundings.serve stage (.call polling.probe) =
    { state := stage
      outcome := (stage.page.dispatch polling.probe).answer
      events := (stage.page.dispatch polling.probe).events } := by
  have same : stage.withPage (stage.page.work (.call polling.probe)).page = stage := by
    rw [Page.work, kept]
    rfl
  rw [serve_work serves unfixed (.call polling.probe), same]
  rfl

include serves unbroken unfixed kept

theorem behind_state {world : World Stage} (here : world.state = stage) : (polling.behind world).state = stage := by
  have served := serve_probe serves unfixed kept
  simp only [behind, consult_unbroken unbroken, Bool.false_eq_true, if_false, ask, World.serve, here, served, report]

theorem after_state {start : World Stage} (here : start.state = stage) (index : Nat) :
    (polling.after start index).state = stage := by
  induction index with
  | zero => exact here
  | succ index inductionHypothesis =>
    rw [after]
    apply behind_state serves unbroken unfixed kept
    exact inductionHypothesis

/-- Each tick settles the poll as the first one does. -/
theorem verdict?_worldAt {start : World Stage} (here : start.state = stage) (index : Nat) :
    polling.verdict? (polling.worldAt start index) = polling.judge? (stage.page.dispatch polling.probe).answer := by
  have there : (polling.worldAt start index).state = stage := after_state serves unbroken unfixed kept here index
  have served := serve_probe serves unfixed kept
  simp only [verdict?, consult_unbroken unbroken, Bool.false_eq_true, if_false, ask, World.serve, there, served]

theorem isPrompt {start : World Stage} (here : start.state = stage) : polling.IsPrompt start := by
  intro index
  have there : (polling.worldAt start index).state = stage := after_state serves unbroken unfixed kept here index
  rw [IsPromptIn, consult_unbroken unbroken, there, serve_probe serves unfixed kept]

theorem leadsTo_verdict {outcome : Except Failure Json}
    (judged : polling.judge? (stage.page.dispatch polling.probe).answer = some outcome) :
    polling.script.run.LeadsTo polling.surroundings 1 stage stage outcome := by
  intro records world quiet here
  have first := (verdict?_worldAt serves unbroken unfixed kept here 0).trans judged
  have settled := @settles_with_verdict Stage polling records world quiet
    (isPrompt serves unbroken unfixed kept here) 0 outcome (Nat.succ_pos _)
    (fun former before => absurd before (Nat.not_lt_zero former)) first
  exact ⟨_, after_state serves unbroken unfixed kept here 1, 1, _, Nat.le_refl 1, settled.course⟩

theorem leadsTo_timeout (judged : polling.judge? (stage.page.dispatch polling.probe).answer = none) :
    polling.script.run.LeadsTo polling.surroundings (polling.options.timeout + 2) stage stage
      (.error (.waitTimeout polling.options.what polling.options.timeout)) := by
  intro records world quiet here
  have never := fun index => (verdict?_worldAt serves unbroken unfixed kept here index).trans judged
  have settled := @settles_at_deadline Stage polling records world quiet
    (isPrompt serves unbroken unfixed kept here) fun index _ => never index
  have few : polling.tickCount + 1 ≤ polling.options.timeout + 2 :=
    Nat.add_le_add_right (Nat.succ_le_succ (Nat.div_le_self _ _)) 1
  refine ⟨_, ?_, _, _, few, settled.course⟩
  exact after_state serves unbroken unfixed kept here polling.tickCount

end Polling

/-! ### Turning the page -/

namespace Page

/-- The page behind an attempt to scroll on, which is given up at once where there is no height. -/
def attempted (page : Page) (scope : Option String) : Page :=
  match page.scrollHeight scope with
  | .ok _ => (page.scroll scope).page
  | .error _ => page

def isAbove (page : Page) (scope : Option String) (former : Binary64) : Bool :=
  match page.scrollHeight scope with
  | .ok height => Run.isHigher former height
  | .error _ => false

/-- Whether the height is greater when the page has been scrolled. -/
def rises (page : Page) (scope : Option String) : Bool :=
  match page.scrollHeight scope with
  | .ok former => (page.attempted scope).isAbove scope (Run.heightOf former)
  | .error _ => false

theorem scroll_answer (page : Page) (scope : Option String) : (page.scroll scope).answer = .ok (.bool true) := by
  unfold scroll
  dsimp only
  split <;> rfl

end Page

def Pagination.probeOptions (pagination : Pagination) (setup : Setup) : WaitOptions where
  what := "pagination"
  interval := (pagination.times setup.settings.pagination).interval
  timeout := (pagination.times setup.settings.pagination).timeout

namespace Run

variable (serves : surroundings.serve = Stage.serve) {stage : Stage} (unfixed : stage.fixed = [])

include serves unfixed

theorem leadsTo_call (call : PageCall) :
    (Script.call call).run.LeadsTo surroundings 0 stage (stage.withPage (stage.page.dispatch call).page)
      (stage.page.dispatch call).answer :=
  leadsTo_work serves unfixed (.call call)

/-- The probe for a greater height accepts the height that there is, at once, or it fails. -/
theorem leadsTo_probe {options : WaitOptions} (unbroken : options.breaker = none) (scope : Option String)
    (former : Binary64) :
    ∃ failure, (probe options (.scrollHeight scope) (isHigher former)).run.LeadsTo surroundings
      (if stage.page.isAbove scope former then 1 else options.timeout + 2) stage stage
      (if stage.page.isAbove scope former then .ok () else .error failure) := by
  let polling : Polling Stage := ⟨surroundings, options, .scrollHeight scope, isHigher former⟩
  have verdict := @Polling.leadsTo_verdict polling serves unbroken stage unfixed rfl
  have timeout := @Polling.leadsTo_timeout polling serves unbroken stage unfixed rfl
  have judged : polling.judge? (stage.page.dispatch (.scrollHeight scope)).answer =
      polling.judge? (stage.page.scrollHeight scope) := rfl
  unfold Page.isAbove
  cases measured : stage.page.scrollHeight scope with
  | error failure =>
    rw [measured] at judged
    have failing : polling.script.run.LeadsTo surroundings (options.timeout + 2) stage stage (.error failure) :=
      (verdict judged).mono (by omega)
    exact ⟨_, (Script.leadsTo_outcome failing).andThen_done rfl⟩
  | ok height =>
    rw [measured, Polling.judge?] at judged
    dsimp only
    by_cases higher : isHigher former height = true
    · rw [show polling.accepts height = true from higher] at judged
      simp only [if_pos higher]
      exact ⟨.waitBroken "", (Script.leadsTo_outcome (verdict judged)).andThen_done rfl⟩
    · rw [show polling.accepts height = false from Bool.eq_false_iff.mpr higher] at judged
      simp only [if_neg higher]
      exact ⟨_, (Script.leadsTo_outcome (timeout judged)).andThen_done rfl⟩

/-- A turn by scrolling succeeds if the height rises. -/
theorem leadsTo_turnPage (setup : Setup) {pagination : Pagination} {scope : Option String}
    (scrolls : pagination.turn = .scroll scope) :
    ∃ failure, (turnPage setup pagination).run.LeadsTo surroundings
      (if stage.page.rises scope then 1 else (pagination.probeOptions setup).timeout + 2) stage
      (stage.withPage (stage.page.attempted scope))
      (if stage.page.rises scope then .ok true else .error failure) := by
  have asked := leadsTo_call serves unfixed (.scrollHeight scope)
  unfold turnPage Page.rises Page.attempted
  simp only [scrolls]
  cases measured : stage.page.scrollHeight scope with
  | error unmeasured =>
    have failed : (Script.call (.scrollHeight scope)).run.LeadsTo surroundings 0 stage stage (.error unmeasured) := by
      rw [← measured]
      exact asked
    exact ⟨unmeasured, (Script.leadsTo_bind_error failed).mono (Nat.zero_le _)⟩
  | ok former =>
    have told : (Script.call (.scrollHeight scope)).run.LeadsTo surroundings 0 stage stage (.ok former) := by
      rw [← measured]
      exact asked
    have scrolled : (Script.call (.scroll scope)).run.LeadsTo surroundings 0 stage
        (stage.withPage (stage.page.scroll scope).page) (.ok (.bool true)) := by
      rw [← stage.page.scroll_answer scope]
      exact leadsTo_call serves unfixed (.scroll scope)
    obtain ⟨failure, probed⟩ := @leadsTo_probe surroundings serves (stage.withPage (stage.page.scroll scope).page) unfixed
      (pagination.probeOptions setup) rfl scope (heightOf former)
    have page : (stage.withPage (stage.page.scroll scope).page).page = (stage.page.scroll scope).page := rfl
    rw [page] at probed
    dsimp only
    refine ⟨failure, ?_⟩
    apply Script.leadsTo_atOnce told
    apply Script.leadsTo_atOnce scrolled
    by_cases risen : (stage.page.scroll scope).page.isAbove scope (heightOf former) = true
    · simp only [if_pos risen] at probed ⊢
      exact probed.andThen_done rfl
    · simp only [if_neg risen] at probed ⊢
      exact Script.leadsTo_bind_error probed

/-- A pagination is over when as many pages have been seen as it may have. -/
def isOver (pagination : Pagination) (seen : Nat) : Bool :=
  pagination.maxPages.any fun most => decide (most ≤ seen)

omit serves unfixed in
theorem leadsTo_nextPage_over (setup : Setup) {pagination : Pagination} {seen : Nat}
    (closed : isOver pagination seen = true) :
    (nextPage setup pagination seen).run.LeadsTo surroundings 0 stage stage (.ok none) := by
  obtain ⟨most, known, reached⟩ := (Option.any_eq_true _ _).mp closed
  unfold nextPage
  rw [known]
  simp only [reached, if_true]
  exact .done stage _

/-- The number of the page that a turn reaches behind those that have been seen, if it succeeds. -/
def pageBehind (seen : Nat) : Except Failure Bool → Option Nat
  | .ok true => some seen
  | _ => none

omit serves unfixed in
/-- A further page is reached if there may be one and the turn to it succeeds. -/
theorem leadsTo_nextPage_of_turn {setup : Setup} {pagination : Pagination} {seen moments : Nat} {later : Stage}
    {turned : Except Failure Bool} (goesOn : isOver pagination seen = false)
    (turns : (turnPage setup pagination).run.LeadsTo surroundings moments stage later turned) :
    (nextPage setup pagination seen).run.LeadsTo surroundings moments stage later (.ok (pageBehind seen turned)) := by
  unfold nextPage
  extract_lets isLast
  have going : isLast = false := by
    rw [← goesOn, isOver]
    unfold isLast
    cases pagination.maxPages <;> rfl
  rw [going, if_neg Bool.false_ne_true]
  refine (Script.leadsTo_outcome turns).andThen_done ?_
  cases turned with
  | error failure => rfl
  | ok reached => cases reached <;> rfl

/-- A further page is reached if there may be one and the height rises. -/
theorem leadsTo_nextPage (setup : Setup) {pagination : Pagination} {scope : Option String}
    (scrolls : pagination.turn = .scroll scope) {seen : Nat} (goesOn : isOver pagination seen = false) :
    (nextPage setup pagination seen).run.LeadsTo surroundings
      (if stage.page.rises scope then 1 else (pagination.probeOptions setup).timeout + 2) stage
      (stage.withPage (stage.page.attempted scope)) (.ok (if stage.page.rises scope then some seen else none)) := by
  obtain ⟨failure, turned⟩ := leadsTo_turnPage serves unfixed setup scrolls
  have further := leadsTo_nextPage_of_turn goesOn turned
  by_cases risen : stage.page.rises scope = true
  · simp only [if_pos risen] at further ⊢
    exact further
  · simp only [if_neg risen] at further ⊢
    exact further

/-! ### The walk along the pages -/

def heightOn (view : View) (scope : Option String) : Except Failure Json :=
  (Page.ofView view).scrollHeight scope

/-- Whether the next view is higher than a view. -/
def isLower (scope : Option String) (view next : View) : Bool :=
  match heightOn view scope with
  | .ok former => (Page.ofView next).isAbove scope (heightOf former)
  | .error _ => false

/-- The views that scrolling will show. -/
def coming (page : Page) : List View :=
  page.feed.map fun source => ⟨source.document, []⟩

/-- What is collected on the way through the views that scrolling shows, behind one on which some has been collected. -/
def harvest (evaluation : View → Nat → Except Failure Json) (pagination : Pagination) (scope : Option String) :
    (seen : Nat) → View → List View → (collected : Json) → Except Failure Json
  | _, _, [], collected => .ok collected
  | seen, view, next :: feed, collected =>
    if isOver pagination seen then .ok collected
    else if isLower scope view next then do
      let page ← evaluation next (offsetOf pagination collected)
      harvest evaluation pagination scope (seen + 1) next feed (mergePage collected page)
    else .ok collected

omit serves unfixed

theorem isHigher_self (height : Json) : isHigher (heightOf height) height = false := by
  unfold isHigher Binary64.order?
  cases (heightOf height).place? with
  | none => rfl
  | some place =>
    have same : (compare place.1 place.1).then (compare place.2 place.2) = .eq := by simp
    show (some ((compare place.1 place.1).then (compare place.2 place.2)) == some .gt) = false
    rw [same]
    rfl

theorem scroll_of_end {page : Page} (last : page.feed = []) (scope : Option String) :
    (page.scroll scope).page = page.note "scroll" (scope.getD "window") := by
  cases page
  cases last
  rfl

theorem scroll_of_next {page : Page} {next : PageSource} {feed : List PageSource} (shown : page.feed = next :: feed)
    (scope : Option String) : (page.scroll scope).page =
      Page.present { page.note "scroll" (scope.getD "window") with feed := feed } next := by
  cases page
  cases shown
  rfl

theorem rises_of_end {page : Page} (last : page.feed = []) (scope : Option String) : page.rises scope = false := by
  unfold Page.rises Page.attempted Page.isAbove
  cases measured : page.scrollHeight scope with
  | error failure => rfl
  | ok former =>
    have same : (page.scroll scope).page.scrollHeight scope = .ok former := by
      rw [scroll_of_end last, ← measured]
      rfl
    dsimp only
    rw [same]
    exact isHigher_self former

theorem rises_of_next {page : Page} {next : PageSource} {feed : List PageSource} (shown : page.feed = next :: feed)
    (scope : Option String) : page.rises scope = isLower scope page.view ⟨next.document, []⟩ := by
  have here : heightOn page.view scope = page.scrollHeight scope := rfl
  unfold Page.rises Page.attempted isLower
  rw [here]
  cases measured : page.scrollHeight scope with
  | error failure => rfl
  | ok former =>
    dsimp only
    rw [scroll_of_next shown]
    rfl

theorem attempted_of_rises {page : Page} {next : PageSource} {feed : List PageSource} {scope : Option String}
    (shown : page.feed = next :: feed) (risen : page.rises scope = true) :
    (page.attempted scope).view = ⟨next.document, []⟩ ∧ (page.attempted scope).feed = feed := by
  unfold Page.rises at risen
  unfold Page.attempted
  cases measured : page.scrollHeight scope with
  | error failure =>
    rw [measured] at risen
    cases risen
  | ok former =>
    dsimp only
    rw [scroll_of_next shown]
    exact ⟨rfl, rfl⟩

theorem harvest_of_over {evaluation : View → Nat → Except Failure Json} {pagination : Pagination}
    {scope : Option String} {seen : Nat} (closed : isOver pagination seen = true) (view : View) (feed : List View)
    (collected : Json) : harvest evaluation pagination scope seen view feed collected = .ok collected := by
  cases feed with
  | nil => rfl
  | cons next feed => rw [harvest, if_pos closed]

/-- Pages that are scrolled pass over as many rows as there are entries. -/
theorem offsetOf_array {pagination : Pagination} {scope : Option String} (scrolls : pagination.turn = .scroll scope)
    (entries : List Json) : offsetOf pagination (.array entries) = entries.length := by
  unfold offsetOf Pagination.strategy
  rw [scrolls]

theorem harvest_of_level {evaluation : View → Nat → Except Failure Json} {pagination : Pagination}
    {scope : Option String} {page : Page} (level : page.rises scope = false) (seen : Nat) (collected : Json) :
    harvest evaluation pagination scope seen page.view (coming page) collected = .ok collected := by
  unfold coming
  cases shown : page.feed with
  | nil => rfl
  | cons next feed =>
    rw [rises_of_next shown scope] at level
    rw [List.map_cons, harvest, level, if_neg Bool.false_ne_true]
    exact ite_self _

/-- A page that rises shows the next view, with one view less to come. -/
theorem feed_of_rises {page : Page} {scope : Option String} (risen : page.rises scope = true) :
    coming page = (page.attempted scope).view :: coming (page.attempted scope) := by
  cases shown : page.feed with
  | nil =>
    rw [rises_of_end shown scope] at risen
    cases risen
  | cons next feed =>
    obtain ⟨view, rest⟩ := attempted_of_rises shown risen
    unfold coming
    rw [view, rest, shown, List.map_cons]

theorem harvest_of_rises {evaluation : View → Nat → Except Failure Json} {pagination : Pagination}
    {scope : Option String} {page : Page} {seen : Nat} (further : isOver pagination seen = false)
    (risen : page.rises scope = true) (collected : Json) :
    harvest evaluation pagination scope seen page.view (coming page) collected =
      (evaluation (page.attempted scope).view (offsetOf pagination collected)).bind fun found =>
        harvest evaluation pagination scope (seen + 1) (page.attempted scope).view (coming (page.attempted scope))
          (mergePage collected found) := by
  cases shown : page.feed with
  | nil =>
    rw [rises_of_end shown scope] at risen
    cases risen
  | cons next feed =>
    have lower := rises_of_next shown scope
    rw [risen, ← (attempted_of_rises shown risen).1] at lower
    rw [feed_of_rises risen, harvest, further, ← lower, if_neg Bool.false_ne_true, if_pos rfl]
    rfl

theorem harvest_of_limit {evaluation : View → Nat → Except Failure Json} {pagination : Pagination}
    {scope : Option String} {page : Page} {seen : Nat} (bounded : ∀ most, pagination.maxPages = some most → most ≤ seen)
    (unbounded : pagination.maxPages = none → page.feed.length ≤ 0) (collected : Json) :
    harvest evaluation pagination scope seen page.view (coming page) collected = .ok collected := by
  cases known : pagination.maxPages with
  | none =>
    have last : page.feed = [] := List.eq_nil_of_length_eq_zero (Nat.le_zero.mp (unbounded known))
    rw [coming, last]
    rfl
  | some most =>
    have reached : isOver pagination seen = true := by
      rw [isOver, known, Option.any_some]
      exact decide_eq_true (bounded most known)
    exact harvest_of_over reached _ _ _

include serves unfixed

/-- Further pages are evaluated on the way through the views that scrolling shows. -/
theorem leadsTo_evaluatePages (setup : Setup) {pagination : Pagination} {scope : Option String}
    (scrolls : pagination.turn = .scroll scope) {rule : Rule} {evaluation : View → Nat → Except Failure Json}
    (evaluates : ∀ view offset, (evaluateWithin setup rule [] offset).run.EndsOn surroundings view (evaluation view offset))
    (limit seen : Nat) (collected : Json)
    (bounded : ∀ most, pagination.maxPages = some most → most ≤ seen + limit)
    (unbounded : pagination.maxPages = none → stage.page.feed.length ≤ limit) :
    ∃ later : Stage, later.fixed = [] ∧ (evaluatePages setup pagination rule limit seen collected).run.LeadsTo surroundings
      (stage.page.feed.length + (pagination.probeOptions setup).timeout + 2) stage later
      (harvest evaluation pagination scope seen stage.page.view (coming stage.page) collected) := by
  -- by the limit, which every further page lowers; it cannot run out before the feed or the number of pages does
  induction limit generalizing seen collected stage with
  | zero =>
    rw [@harvest_of_limit evaluation pagination scope stage.page seen bounded unbounded, evaluatePages]
    exact ⟨stage, unfixed, (Job.LeadsTo.done stage _).mono (Nat.zero_le _)⟩
  | succ limit inductionHypothesis =>
    rw [evaluatePages]
    by_cases closed : isOver pagination seen = true
    · rw [harvest_of_over closed]
      refine ⟨stage, unfixed, Job.LeadsTo.mono ?_ (Nat.zero_le _)⟩
      exact (leadsTo_nextPage_over setup closed).andThen_done rfl
    rw [Bool.not_eq_true] at closed
    -- the page is scrolled in any case, and only shows more if it rises
    have turned := leadsTo_nextPage serves unfixed setup scrolls closed
    let turnedStage := stage.withPage (stage.page.attempted scope)
    by_cases risen : stage.page.rises scope = true
    · rw [if_pos risen, if_pos risen] at turned
      rw [harvest_of_rises closed risen]
      have fewer : stage.page.feed.length = turnedStage.page.feed.length + 1 := by
        have lengths := congrArg List.length (feed_of_rises risen)
        rw [List.length_cons, coming, coming, List.length_map, List.length_map] at lengths
        exact lengths
      have evaluated := Job.LeadsTo.of_endsAt (evaluates _ (offsetOf pagination collected) turnedStage unfixed rfl)
      change (evaluateWithin setup rule [] _).run.LeadsTo surroundings 0 _ _
        (evaluation (stage.page.attempted scope).view _) at evaluated
      cases outcome : evaluation (stage.page.attempted scope).view (offsetOf pagination collected) with
      | error failure =>
        rw [outcome] at evaluated
        refine ⟨turnedStage, unfixed, Job.LeadsTo.mono ?_ (show 1 + 0 ≤ _ by omega)⟩
        exact Script.leadsTo_bind turned (Script.leadsTo_bind_error evaluated)
      | ok page =>
        rw [outcome] at evaluated
        have shorter : 1 + (turnedStage.page.feed.length + (pagination.probeOptions setup).timeout + 2) ≤
            stage.page.feed.length + (pagination.probeOptions setup).timeout + 2 := by omega
        obtain ⟨later, free, walked⟩ := @inductionHypothesis turnedStage unfixed (seen + 1) (mergePage collected page)
          (fun most known => by have := bounded most known; omega)
          (fun known => by have := unbounded known; omega)
        refine ⟨later, free, Job.LeadsTo.mono ?_ shorter⟩
        exact Script.leadsTo_bind turned (Script.leadsTo_atOnce evaluated walked)
    · rw [Bool.not_eq_true] at risen
      rw [risen, if_neg Bool.false_ne_true, if_neg Bool.false_ne_true] at turned
      rw [harvest_of_level risen]
      refine ⟨turnedStage, unfixed, Job.LeadsTo.mono ?_ (Nat.add_le_add_right (Nat.le_add_left _ _) 2)⟩
      exact turned.andThen_done rfl

/-- What a parse with scroll pagination gives: what the first view does, and then what is collected on the way through the
views that scrolling shows. -/
def harvestAll (evaluation : View → Nat → Except Failure Json) (pagination : Pagination) (scope : Option String)
    (page : Page) : Except Failure Json := do
  let first ← evaluation page.view 0
  harvest evaluation pagination scope 1 page.view (coming page) first

theorem leadsTo_outcome_work (work : PageWork) :
    (Script.outcome (Script.work work)).run.LeadsTo surroundings 0 stage (stage.withPage (stage.page.work work).page)
      (.ok (stage.page.work work).answer) :=
  Script.leadsTo_outcome (leadsTo_work serves unfixed work)

theorem leadsTo_capture (label : String) :
    (Script.capture label).run.LeadsTo surroundings 0 stage (stage.withPage (stage.page.work (.snapshot label)).page)
      (.ok ()) :=
  (leadsTo_outcome_work serves unfixed (.snapshot label)).andThen_done rfl

theorem leadsTo_tearDown (result : Except Failure Json) :
    (Script.outcome (Script.work .tearDown) >>= fun _ => Script.settled result).run.LeadsTo surroundings 0 stage
      (stage.withPage (stage.page.work .tearDown).page) result :=
  (leadsTo_outcome_work serves unfixed .tearDown).andThen_done rfl

/-- The pages of a parse are collected from the first one on. -/
theorem leadsTo_collectPages (setup : Setup) {pagination : Pagination} {scope : Option String}
    (scrolls : pagination.turn = .scroll scope) {rule : Rule} {evaluation : View → Nat → Except Failure Json}
    (evaluates : ∀ view offset, (evaluateWithin setup rule [] offset).run.EndsOn surroundings view (evaluation view offset))
    (readable : stage.page.feed.length ≤ Decimal.maxIndex) :
    ∃ later : Stage, later.fixed = [] ∧
      (collectPages setup { rules := rule, pagination := some pagination }).run.LeadsTo surroundings
        (stage.page.feed.length + (pagination.probeOptions setup).timeout + 2) stage later
        (harvestAll evaluation pagination scope stage.page) := by
  have evaluated := Job.LeadsTo.of_endsAt (evaluates _ 0 stage unfixed rfl)
  unfold collectPages harvestAll
  cases outcome : evaluation stage.page.view 0 with
  | error failure =>
    rw [outcome] at evaluated
    refine ⟨stage, unfixed, Job.LeadsTo.mono ?_ (Nat.zero_le _)⟩
    exact Script.leadsTo_bind_error evaluated
  | ok first =>
    rw [outcome] at evaluated
    have bounded : ∀ most, pagination.maxPages = some most → most ≤ 1 + pageLimit pagination := by
      intro most known
      rw [pageLimit, known, Option.getD_some]
      omega
    have unbounded : pagination.maxPages = none → stage.page.feed.length ≤ pageLimit pagination := by
      intro known
      rw [pageLimit, known]
      exact readable
    obtain ⟨later, free, walked⟩ := leadsTo_evaluatePages serves unfixed setup scrolls evaluates (pageLimit pagination) 1
      first bounded unbounded
    exact ⟨later, free, Script.leadsTo_atOnce evaluated walked⟩

/-- The stage behind a parse whose pages came to an outcome in front of a stage. It has been captured if the parse failed
and that is set, and torn down in any case. -/
def parsed (setup : Setup) (reached : Stage) (outcome : Except Failure Json) : Stage :=
  let captured := match outcome with
    | .ok _ => reached
    | .error _ =>
      if setup.settings.snapshotOnError then reached.withPage (reached.page.work (.snapshot "error")).page else reached
  captured.withPage (captured.page.work .tearDown).page

/-- A parse without actions comes to what its pages come to on the prepared page. -/
theorem leadsTo_parse_of_pages (setup : Setup) {rule : Rule} {pagination : Option Pagination} {moments : Nat}
    {reached : Stage} {outcome : Except Failure Json} (free : reached.fixed = [])
    (collected : (collectPages setup { rules := rule, pagination := pagination }).run.LeadsTo surroundings moments
      (stage.withPage (stage.page.work .prepare).page) reached outcome) :
    (parse setup { rules := rule, pagination := pagination }).run.LeadsTo surroundings moments stage
      (parsed setup reached outcome) outcome := by
  have prepared := leadsTo_work serves unfixed .prepare
  have all : (Script.outcome do
      let _ ← Script.work .prepare
      evaluateAll setup { rules := rule, pagination := pagination }).run.LeadsTo surroundings _ stage reached
        (.ok outcome) :=
    Script.leadsTo_outcome (Script.leadsTo_atOnce prepared collected)
  have whole := Nat.add_zero moments
  unfold parse parsed
  cases outcome with
  | ok value =>
    have torn := leadsTo_tearDown serves free (.ok value)
    exact (Script.leadsTo_bind all torn).mono (Nat.le_of_eq whole)
  | error failure =>
    cases snaps : setup.settings.snapshotOnError with
    | false =>
      have torn := leadsTo_tearDown serves free (.error failure)
      exact (Script.leadsTo_bind all torn).mono (Nat.le_of_eq whole)
    | true =>
      let captured := reached.withPage (reached.page.work (.snapshot "error")).page
      have closing : (Script.capture "error" >>= fun _ => Script.outcome (Script.work .tearDown) >>= fun _ =>
          Script.settled (.error failure) : Script Json).run.LeadsTo surroundings 0 reached
            (captured.withPage (captured.page.work .tearDown).page) (.error failure) :=
        Script.leadsTo_atOnce (leadsTo_capture serves free "error")
          (@leadsTo_tearDown surroundings serves captured free (.error failure))
      exact (Script.leadsTo_bind all closing).mono (Nat.le_of_eq whole)

theorem leadsTo_parse (setup : Setup) {pagination : Pagination} {scope : Option String}
    (scrolls : pagination.turn = .scroll scope) {rule : Rule} {evaluation : View → Nat → Except Failure Json}
    (evaluates : ∀ view offset, (evaluateWithin setup rule [] offset).run.EndsOn surroundings view (evaluation view offset))
    (readable : stage.page.feed.length ≤ Decimal.maxIndex) :
    ∃ later : Stage, (parse setup { rules := rule, pagination := some pagination }).run.LeadsTo surroundings
      (stage.page.feed.length + (pagination.probeOptions setup).timeout + 2) stage later
      (harvestAll evaluation pagination scope stage.page) := by
  obtain ⟨reached, free, collected⟩ := @leadsTo_collectPages surroundings serves
    (stage.withPage (stage.page.work .prepare).page) unfixed setup pagination scope scrolls rule evaluation evaluates readable
  exact ⟨_, leadsTo_parse_of_pages serves unfixed setup free collected⟩

omit unfixed

/-- A quiet world that parses a still rule with scroll pagination. -/
theorem run_parse {world : World Stage} (quiet : world.IsQuiet) (unfixed : world.state.fixed = []) (records : Records)
    {pagination : Pagination} {scope : Option String} (scrolls : pagination.turn = .scroll scope)
    (timed : (pagination.probeOptions surroundings.setup).timeout ≤ Decimal.maxIndex)
    (readable : world.state.page.feed.length ≤ Decimal.maxIndex) {rule : Rule}
    {evaluation : View → Nat → Except Failure Json}
    (evaluates : ∀ view offset,
      (evaluateWithin surroundings.setup rule [] offset).run.EndsOn surroundings view (evaluation view offset)) :
    (world.run surroundings records
      (parse surroundings.setup { rules := rule, pagination := some pagination })).2 =
        harvestAll evaluation pagination scope world.state.page := by
  have reachable : world.state.page.feed.length + (pagination.probeOptions surroundings.setup).timeout + 2 <
      World.bound := by
    unfold Decimal.maxIndex at *
    unfold World.bound
    omega
  obtain ⟨later, leads⟩ := leadsTo_parse serves unfixed surroundings.setup scrolls evaluates readable
  obtain ⟨_, _, ran⟩ := leads.run reachable quiet rfl records
  rw [ran]

end Run

end Harvest
