import Harvest.Proofs.Run.Accumulate
import Harvest.Proofs.Run.Alone
import Harvest.Proofs.Run.Scroll
import Harvest.Proofs.Run.Stages
import Harvest.Proofs.Run.Upkeep

/-!
Contract: how often a parse evaluates its rules.

`Run.parseStages` is a parse with each evaluation of its rules as a stage that counts. A maximal number of pages
bounds them on every trail, whatever is answered. In front of a page that nothing else has to do with, each turn by
scrolling that succeeds has taken a document from the feed, since no scroll raises a page whose feed is at its end;
and no work adds to the feed.
-/

namespace Harvest

namespace Run

/-! ### A parse in stages -/

/-- Further pages, as `evaluatePages` evaluates them; each evaluation counts. -/
def pageStages (setup : Setup) (pagination : Pagination) (rules : Rule) :
    (limit seen : Nat) → (collected : Json) → Staged Json
  | 0, _, collected => .done collected
  | limit + 1, seen, collected =>
    .stage 0 (nextPage setup pagination seen) fun page =>
      match page with
      | none => .done collected
      | some _ =>
        .stage 1 (evaluateWithin setup rules [] (offsetOf pagination collected)) fun page =>
          pageStages setup pagination rules limit (seen + 1) (mergePage collected page)

/-- All pages, as `collectPages` evaluates them; each evaluation counts. -/
def collectStages (setup : Setup) (config : ParseConfig) : Staged Json :=
  .stage 1 (evaluateWithin setup config.rules [] 0) fun result =>
    match config.pagination with
    | none => .done result
    | some pagination => pageStages setup pagination config.rules (pageLimit pagination) 1 result

/-- What a parse does before it closes; each evaluation of its rules counts. -/
def bodyStages (setup : Setup) (config : ParseConfig) : Staged Json :=
  .stage 0 (Script.work .prepare) fun _ =>
    if config.actions.isEmpty then collectStages setup config
    else .stage 0 (performAll setup config.actions "" .null) fun _ => collectStages setup config

/-- A parse; each evaluation of its rules counts. -/
def parseStages (setup : Setup) (config : ParseConfig) : Staged Json :=
  .guarded (bodyStages setup config) fun result => .stage 0 (closing setup result) .done

theorem script_pageStages (setup : Setup) (pagination : Pagination) (rules : Rule) (limit seen : Nat)
    (collected : Json) : (pageStages setup pagination rules limit seen collected).script =
      evaluatePages setup pagination rules limit seen collected := by
  induction limit generalizing seen collected with
  | zero => rfl
  | succ limit inductionHypothesis =>
    rw [pageStages, evaluatePages, Staged.script]
    congr 1
    funext page
    cases page with
    | none => rfl
    | some number =>
      rw [Staged.script]
      congr 1
      funext page
      exact inductionHypothesis _ _

theorem script_collectStages (setup : Setup) (config : ParseConfig) :
    (collectStages setup config).script = collectPages setup config := by
  rw [collectStages, collectPages, Staged.script]
  congr 1
  funext result
  cases config.pagination with
  | none => rfl
  | some pagination => exact script_pageStages _ _ _ _ _ _

theorem script_bodyStages (setup : Setup) (config : ParseConfig) : (bodyStages setup config).script =
    (do let _ ← Script.work .prepare; evaluateAll setup config : Script Json) := by
  rw [bodyStages, Staged.script]
  congr 1
  funext _
  unfold evaluateAll
  split
  · exact script_collectStages setup config
  · rw [Staged.script]
    congr 1
    funext _
    exact script_collectStages setup config

/-- Without its stages, it is the parse. -/
theorem script_parseStages (setup : Setup) (config : ParseConfig) :
    (parseStages setup config).script = parse setup config := by
  rw [parseStages, Staged.script, script_bodyStages]
  unfold parse
  congr 1
  funext result
  exact Script.bind_pure (closing setup result)

/-! ### A maximal number of pages -/

section

variable {setup : Setup} {pagination : Pagination} {rules : Rule}

/-- A further page is reached only when fewer pages have been seen than there may be. -/
theorem seen_lt_of_nextPage {most seen number : Nat} (bounded : pagination.maxPages = some most)
    {trail : List Exchange} (way : Job.Trail (nextPage setup pagination seen).run trail (.done (.ok (some number)))) :
    seen < most := by
  refine Nat.lt_of_not_le fun reached => ?_
  unfold nextPage at way
  simp only [bounded, decide_eq_true reached, if_true] at way
  cases way

/-- Fewer further pages are evaluated than there may be behind those that have been seen. -/
theorem begun_pageStages_of_most {most limit seen : Nat} (bounded : pagination.maxPages = some most) {collected : Json}
    {trail : List Exchange} {weight : Nat}
    (begun : (pageStages setup pagination rules limit seen collected).Begun trail weight) : weight ≤ most - seen := by
  induction limit generalizing seen collected trail weight with
  | zero =>
    cases begun
    exact Nat.zero_le _
  | succ limit inductionHypothesis =>
    cases begun with
    | within => exact Nat.zero_le _
    | @through _ _ _ _ _ _ _ _ page turned behind =>
      cases page with
      | none =>
        cases behind
        exact Nat.zero_le _
      | some number =>
        have further := seen_lt_of_nextPage bounded turned
        cases behind with
        | within => omega
        | through _ later =>
          have fewer := inductionHypothesis later
          omega

end

/-! ### The feed -/

end Run

namespace Page

theorem feed_navigate (page : Page) (url : String) : (page.navigate url).page.feed = page.feed := by
  unfold navigate
  split <;> rfl

theorem feed_click (page : Page) (selector : String) : (page.click selector).page.feed = page.feed := by
  unfold click
  dsimp only
  split
  · rfl
  · rfl
  · split
    · rfl
    · exact feed_navigate _ _

theorem feed_blur (page : Page) (selector : String) : (page.blur selector).page.feed = page.feed := by
  unfold blur
  dsimp only
  split
  · rfl
  · split
    · rfl
    · split <;> rfl

theorem feed_focus (page : Page) (selector : String) : (page.focus selector).page.feed = page.feed := by
  unfold focus
  split <;> rfl

theorem feed_change (page : Page) (kind selector : String) (change : ElementChange → ElementChange) :
    (page.change kind selector change).page.feed = page.feed := by
  unfold Page.change
  dsimp only
  split <;> rfl

theorem feed_back (page : Page) : page.back.page.feed = page.feed := by
  unfold back
  split <;> rfl

theorem feed_scroll_le (page : Page) (scope : Option String) :
    (page.scroll scope).page.feed.length ≤ page.feed.length := by
  cases shown : page.feed with
  | nil =>
    rw [Run.scroll_of_end shown]
    exact Nat.le_of_eq (congrArg List.length shown)
  | cons next feed =>
    rw [Run.scroll_of_next shown]
    exact Nat.le_succ _

/-- No work adds to the feed. -/
theorem feed_work_le (page : Page) (work : PageWork) : (page.work work).page.feed.length ≤ page.feed.length := by
  have kept : ∀ call : PageCall, (∀ scope, call ≠ .scroll scope) → (page.dispatch call).page.feed = page.feed := by
    intro call other
    cases call with
    | scroll scope => exact absurd rfl (other scope)
    | click selector => exact feed_click page selector
    | blur selector => exact feed_blur page selector
    | visit url => exact feed_navigate _ url
    | focus selector => exact feed_focus page selector
    | type selector text => exact feed_change page _ _ _
    | changeElement selector style attributes => exact feed_change page _ _ _
    | back => exact feed_back page
    | _ => rfl
  cases work with
  | call call =>
    by_cases scrolls : ∃ scope, call = .scroll scope
    · obtain ⟨scope, rfl⟩ := scrolls
      exact feed_scroll_le page scope
    · exact Nat.le_of_eq (congrArg List.length (kept call fun scope same => scrolls ⟨scope, same⟩))
  | _ => exact Nat.le_refl _

theorem Along.feed_le {page later : Page} {trail : List Exchange} (along : page.Along trail later) :
    later.feed.length ≤ page.feed.length := by
  induction along with
  | stay => exact Nat.le_refl _
  | works _ inductionHypothesis => exact Nat.le_trans inductionHypothesis (feed_work_le _ _)
  | worksBy _ _ inductionHypothesis => exact Nat.le_trans inductionHypothesis (feed_work_le _ _)
  | rests _ _ inductionHypothesis => exact inductionHypothesis

end Page

namespace Run

open Script

variable {setup : Setup} {pagination : Pagination} {scope : Option String} {page later : Page} {trail : List Exchange}

/-- A poll that does not change the page succeeds only with the answer that the page gives from the start. -/
theorem accepted_of_pollFrom {options : WaitOptions} (unbroken : options.breaker = none) {call : PageCall}
    (still : (page.dispatch call).page = page) {accepts : Json → Bool} {deadline ticks due : Nat} {value : Json}
    (ends : (Wait.pollFrom options call accepts deadline ticks due).Ends page trail (.ok value) later) :
    (page.dispatch call).answer = .ok value ∧ accepts value = true := by
  induction ticks generalizing due trail with
  | zero => cases (ends_fail ends).2.1
  | succ ticks inductionHypothesis =>
    unfold Wait.pollFrom at ends
    split at ends
    · obtain ⟨_, _, _, _, _, _, gaveUp⟩ := ends_bind_ok ends
      cases (ends_fail gaveUp).2.1
    · unfold Wait.checkBreaker at ends
      rw [unbroken] at ends
      obtain ⟨_, _, _, awake, _, slept, woken⟩ := ends_bind_ok ends
      obtain ⟨_, _, time, timed, _, told, knowing⟩ := ends_bind_ok woken
      obtain ⟨_, _, _, checked, _, unchecked, goingOn⟩ := ends_bind_ok knowing
      obtain ⟨_, _, answer, probed, _, asked, judges⟩ := ends_bind_ok goingOn
      have sleeps := (slept.still ⟨⟨rfl, trivial⟩, fun _ => trivial⟩).1
      have tells := (told.still ⟨⟨rfl, trivial⟩, fun _ => trivial⟩).1
      have passes := (ends_pure unchecked).2.2
      obtain ⟨answers, asks⟩ := ends_callBy asked
      rw [passes, tells, sleeps] at answers asks
      rw [asks, still, answers] at judges
      cases answered : (page.dispatch call).answer with
      | error failure =>
        rw [answered] at judges
        cases (ends_fail judges).2.1
      | ok found =>
        rw [answered] at judges
        dsimp only at judges
        split at judges
        case isTrue accepted =>
          obtain ⟨_, same, _⟩ := ends_pure judges
          cases same
          exact ⟨rfl, accepted⟩
        case isFalse =>
          rw [← answered]
          exact inductionHypothesis judges

/-- A probe for a greater height succeeds only if the page is higher from the start. -/
theorem higher_of_probe {options : WaitOptions} (unbroken : options.breaker = none) {former : Binary64}
    (ends : (probe options (.scrollHeight scope) (isHigher former)).Ends page trail (.ok ()) later) :
    ∃ height, page.scrollHeight scope = .ok height ∧ isHigher former height = true := by
  obtain ⟨_, _, outcome, _, _, polled, judges⟩ := ends_bind_ok ends
  cases outcome with
  | error failure => cases (ends_fail judges).2.1
  | ok value =>
    obtain ⟨_, _, start, _, _, told, polls⟩ := ends_bind_ok (ends_outcome polled)
    have same := (told.still ⟨⟨rfl, trivial⟩, fun _ => trivial⟩).1
    subst same
    exact ⟨value, accepted_of_pollFrom unbroken rfl polls⟩

/-- A turn by scrolling that succeeds takes a document from the feed. -/
theorem feed_lt_of_turnPage (scrolls : pagination.turn = .scroll scope) {turned : Bool}
    (ends : (turnPage setup pagination).Ends page trail (.ok turned) later) :
    later.feed.length < page.feed.length := by
  unfold turnPage at ends
  simp only [scrolls] at ends
  obtain ⟨_, _, former, _, _, measured, scrolls⟩ := ends_bind_ok ends
  obtain ⟨_, _, _, _, _, scrolled, probes⟩ := ends_bind_ok scrolls
  obtain ⟨_, _, _, _, _, probed, _⟩ := ends_bind_ok probes
  have fewer := probes.along.feed_le
  obtain ⟨height, risen, higher⟩ := higher_of_probe rfl probed
  obtain ⟨measures, unmoved⟩ := ends_call measured
  rw [(ends_call scrolled).2, unmoved] at risen fewer
  change Except.ok former = page.scrollHeight scope at measures
  change (page.scroll scope).page.scrollHeight scope = .ok height at risen
  change later.feed.length ≤ (page.scroll scope).page.feed.length at fewer
  cases shown : page.feed with
  | nil =>
    -- with nothing to show the height stays as it is
    rw [scroll_of_end shown] at risen
    have same : Except.ok former = Except.ok height := measures.trans risen
    cases same
    rw [isHigher_self] at higher
    cases higher
  | cons next feed =>
    rw [scroll_of_next shown] at fewer
    exact Nat.lt_succ_of_le fewer

theorem feed_lt_of_nextPage (scrolls : pagination.turn = .scroll scope) {seen number : Nat}
    (ends : (nextPage setup pagination seen).Ends page trail (.ok (some number)) later) :
    later.feed.length < page.feed.length := by
  unfold nextPage at ends
  extract_lets isLast at ends
  split at ends
  · cases (ends_pure ends).2.1
  · obtain ⟨_, _, outcome, _, _, turned, ends⟩ := ends_bind_ok ends
    split at ends
    · exact Nat.lt_of_le_of_lt ends.along.feed_le (feed_lt_of_turnPage scrolls (ends_outcome turned))
    · cases (ends_pure ends).2.1

/-- Behind a page that nothing else has to do with, no more further pages are evaluated than are left in the feed. -/
theorem begun_pageStages_of_feed (scrolls : pagination.turn = .scroll scope) {rules : Rule} {limit seen : Nat}
    {collected : Json} {weight : Nat}
    (begun : (pageStages setup pagination rules limit seen collected).Begun trail weight)
    (along : page.Along trail later) : weight ≤ page.feed.length := by
  induction limit generalizing seen collected trail weight page with
  | zero =>
    cases begun
    exact Nat.zero_le _
  | succ limit inductionHypothesis =>
    cases begun with
    | within => exact Nat.zero_le _
    | @through _ _ _ _ _ _ _ _ reached turned behind =>
      obtain ⟨middle, ahead, further⟩ := along.split
      cases reached with
      | none =>
        cases behind
        exact Nat.zero_le _
      | some number =>
        have fewer := feed_lt_of_nextPage scrolls ⟨turned, ahead⟩
        cases behind with
        | within => omega
        | through evaluated later =>
          obtain ⟨last, between, beyond⟩ := further.split
          have left := inductionHypothesis later beyond
          have kept := between.feed_le
          omega

/-! ### Parses -/

/-- If further pages are evaluated so many times at most along what lies on a trail of a parse, the rules of the parse are
evaluated once more at most. -/
theorem begun_parseStages_le {config : ParseConfig} (paged : config.pagination = some pagination)
    (allowed : List Exchange → Prop) (divides : ∀ front back, allowed (front ++ back) → allowed front ∧ allowed back)
    {bound : Nat} (pages : ∀ collected trail weight, allowed trail →
      (pageStages setup pagination config.rules (pageLimit pagination) 1 collected).Begun trail weight → weight ≤ bound)
    {weight : Nat} (begun : (parseStages setup config).Begun trail weight) (lies : allowed trail) :
    weight ≤ bound + 1 := by
  have collects : ∀ {trail : List Exchange} {weight : Nat}, allowed trail →
      (collectStages setup config).Begun trail weight → weight ≤ bound + 1 := by
    intro trail weight lies begun
    unfold collectStages at begun
    rw [paged] at begun
    cases begun with
    | within => exact Nat.le_add_left 1 bound
    | through _ behind =>
      have few := pages _ _ _ (divides _ _ lies).2 behind
      omega
  have body : ∀ {trail : List Exchange} {weight : Nat}, allowed trail →
      (bodyStages setup config).Begun trail weight → weight ≤ bound + 1 := by
    intro trail weight lies begun
    unfold bodyStages at begun
    cases begun with
    | within => exact Nat.zero_le _
    | through _ behind =>
      have few := (divides _ _ lies).2
      rw [Nat.zero_add]
      split at behind
      · exact collects few behind
      · cases behind with
        | within => exact Nat.zero_le _
        | through _ last =>
          rw [Nat.zero_add]
          exact collects (divides _ _ few).2 last
  unfold parseStages at begun
  cases begun with
  | inside _ _ begun => exact body lies begun
  | beyond _ begun behind =>
    have few := body (divides _ _ lies).1 begun
    cases behind with
    | within => exact few
    | through _ ended =>
      cases ended
      exact few

/-- A parse may evaluate its rules as often as it may have pages, and once in any case. -/
theorem begun_parseStages_of_most {config : ParseConfig} (paged : config.pagination = some pagination) {most : Nat}
    (bounded : pagination.maxPages = some most) {weight : Nat}
    (begun : (parseStages setup config).Begun trail weight) : weight ≤ max 1 most := by
  have few := begun_parseStages_le paged (fun _ => True) (fun _ _ _ => ⟨trivial, trivial⟩)
    (fun _ _ _ _ pages => begun_pageStages_of_most bounded pages) begun trivial
  omega

/-- Along a trail of a parse that a page goes, its rules are evaluated once, and once for each document that is left in
the feed at most. -/
theorem begun_parseStages_of_feed {config : ParseConfig} (paged : config.pagination = some pagination)
    (scrolls : pagination.turn = .scroll scope) {weight : Nat}
    (begun : (parseStages setup config).Begun trail weight) (along : page.Along trail later) :
    weight ≤ page.feed.length + 1 := by
  refine begun_parseStages_le paged
    (fun trail => ∃ first last : Page, first.feed.length ≤ page.feed.length ∧ first.Along trail last)
    (fun front back ⟨first, last, fewer, way⟩ => ?_) (fun collected trail weight ⟨first, last, fewer, way⟩ pages => ?_)
    begun ⟨page, later, Nat.le_refl _, along⟩
  · obtain ⟨middle, ahead, behind⟩ := way.split
    exact ⟨⟨first, middle, fewer, ahead⟩, middle, last, Nat.le_trans ahead.feed_le fewer, behind⟩
  · exact Nat.le_trans (begun_pageStages_of_feed scrolls pages way) fewer

end Run

/-! ### Parses without a race -/

/-- What is registered besides the built-in actions starts no race. -/
def Setup.CustomRaceless (setup : Setup) : Prop :=
  ∀ (kind name : String) (run : ActionHead → String → Json → Script Json),
    setup.performers.find? kind = some (.custom name run) →
    ∀ head selector previous, (run head selector previous).run.AsksOnly Request.IsRaceless

theorem Job.raceless_composes : Job.Composes (AsksOnly Request.IsRaceless) where
  done := fun _ => trivial
  andThen := AsksOnly.andThen
  plain := by
    intro request plain
    refine ⟨?_, fun _ => trivial⟩
    cases request with
    | race cases selector previous => exact plain.elim
    | _ => trivial
  capture := fun _ => ⟨trivial, fun _ => trivial⟩
  subscribed := fun obeys => ⟨trivial, fun subscription => obeys subscription fun _ _ => ⟨trivial, fun _ => trivial⟩⟩
  timed := fun obeys => ⟨trivial, fun time => obeys (fun _ => ⟨trivial, fun _ => trivial⟩) time⟩

theorem raceless_routine {setup : Setup} (custom : setup.CustomRaceless) :
    Routine (Job.AsksOnly Request.IsRaceless) setup where
  toComposes := Job.raceless_composes
  once := Job.raceless_composes.performOnce (fun _ => ⟨trivial, fun _ => trivial⟩) fun _ => ⟨trivial, fun _ => trivial⟩
  custom := custom

/-- A parse that contains no cases starts no race. -/
theorem Run.raceless_parse {setup : Setup} (custom : setup.CustomRaceless) {config : ParseConfig}
    (caseless : config.IsCaseless setup) : (parse setup config).AsksOnly Request.IsRaceless := by
  have routine := raceless_routine custom
  have evaluates := routine.evaluateAll config
    (fun action among inner inside starts => absurd starts (caseless.actions action among inner inside))
    fun inner performs starts => absurd starts (caseless.rules inner performs)
  unfold Script.AsksOnly
  rw [parse_run_eq]
  have prepares : (Script.work .prepare).run.AsksOnly Request.IsRaceless := ⟨trivial, fun _ => trivial⟩
  refine (routine.bind prepares fun _ => evaluates).andThen fun result => ?_
  rcases run_closing setup result with quiet | captures
  · rw [quiet]
    exact ⟨trivial, fun _ => trivial⟩
  · rw [captures]
    exact ⟨trivial, fun _ => ⟨trivial, fun _ => trivial⟩⟩

namespace Run

/-- A parse with several pages ends. With a maximal number of pages, its rules are evaluated at most as often on any
trail, and once in any case. By scrolling, without cases, a page that nothing else has to do with has them evaluated
at most once more than it has documents in its feed, whether or not there is a maximal number. -/
theorem evaluations_are_bounded {setup : Setup} {config : ParseConfig} {pagination : Pagination}
    (paged : config.pagination = some pagination) :
    (∀ most, pagination.maxPages = some most →
      ∀ trail rest, Job.Trail (parse setup config).run trail rest →
        (∃ count, (parseStages setup config).Begun trail count) ∧
          ∀ count, (parseStages setup config).Begun trail count → count ≤ max 1 most) ∧
    ∀ scope, pagination.turn = .scroll scope → setup.CustomRaceless → config.IsCaseless setup →
      ∀ surroundings : Surroundings Stage, surroundings.serve = Stage.serve →
        (∀ stage breaker time checks, (surroundings.consult stage breaker time checks).1 = stage) →
        ∀ world later : World Stage, world.IsLeft →
          ∀ records outcome, world.run surroundings records (parse setup config) = (later, outcome) →
            ∃ trail rest, Job.Trail (parse setup config).run trail rest ∧
              world.state.page.Along trail later.state.page ∧
              (rest = .done outcome ∨ outcome = .error (.page .stalled)) ∧
              (∃ count, (parseStages setup config).Begun trail count) ∧
              ∀ count, (parseStages setup config).Begun trail count → count ≤ world.state.page.feed.length + 1 := by
  have counted : ∀ trail rest, Job.Trail (parse setup config).run trail rest →
      ∃ count, (parseStages setup config).Begun trail count := by
    intro trail rest way
    rw [← script_parseStages] at way
    exact (parseStages setup config).exists_begun way
  refine ⟨fun most bounded trail rest way => ⟨counted trail rest way, fun count begun => ?_⟩, ?_⟩
  · exact begun_parseStages_of_most paged bounded begun
  · intro scope scrolls custom caseless surroundings serves consults world later left records outcome ran
    obtain ⟨trail, rest, way, leads, ends⟩ :=
      World.trail_of_run_left serves consults records left (raceless_parse custom caseless) ran
    refine ⟨trail, rest, way, leads.page, ends, counted trail rest way, fun count begun => ?_⟩
    exact begun_parseStages_of_feed paged scrolls begun leads.page

/-- A list that grows once is gone through, without a maximal number of pages. -/
def wholeList : ParseConfig :=
  { rules := titleGrid, pagination := some { turn := .scroll none } }

theorem isCaseless_wholeList {setup : Setup} : wholeList.IsCaseless setup where
  actions := nofun
  rules := by
    intro inner performs
    cases performs with
    | own among _ => cases among
    | member among _ =>
      cases List.mem_singleton.mp among
    | row among within performs =>
      cases List.mem_singleton.mp among
      cases List.mem_singleton.mp within
      cases performs with
      | own among _ => cases among

/-- With a maximal number of three pages, the rules are evaluated at most three times on each trail; and the page whose
list grows once has them evaluated at most twice. -/
theorem evaluations_of_growingList :
    (∀ trail rest, Job.Trail
        (parse plainSurroundings.setup
          { wholeList with pagination := some { turn := .scroll none, maxPages := some 3 } }).run trail rest →
      ∀ count, (parseStages plainSurroundings.setup
        { wholeList with pagination := some { turn := .scroll none, maxPages := some 3 } }).Begun trail count →
        count ≤ 3) ∧
    ∃ trail, (∃ count, (parseStages plainSurroundings.setup wholeList).Begun trail count) ∧
      ∀ count, (parseStages plainSurroundings.setup wholeList).Begun trail count → count ≤ 2 := by
  have custom : plainSurroundings.setup.CustomRaceless := fun kind name run registered =>
    absurd registered (Performer.find?_standard_ne_custom kind name run)
  refine ⟨fun trail rest way => ?_, ?_⟩
  · exact ((evaluations_are_bounded rfl).1 3 rfl trail rest way).2
  · obtain ⟨trail, _, _, _, _, counted, few⟩ := (@evaluations_are_bounded plainSurroundings.setup wholeList _ rfl).2
      none rfl custom isCaseless_wholeList plainSurroundings rfl (fun _ _ _ _ => rfl) growingList _
      ⟨rfl, rfl, nofun⟩ ⟨0, 0⟩ _ rfl
    exact ⟨trail, counted, few⟩

end Run

end Harvest
