import Harvest.Proofs.Run.GridRows
import Harvest.Proofs.Run.Scroll
import Mathlib.Data.List.Chain

/-!
Contract: a grid that is scrolled through comes to what its last page shows.

The offset of a further page is the number of rows collected, and a grid that begins there
comes to the rows that are left (`gridOutcome_drop`). So if each page keeps the rows of the one
before it as its first ones, then what is collected is at each page what evaluating that page
from its first row gives, and so it is at the last page.
-/

namespace Harvest

namespace Run

/-! ### Grids from an offset on -/

/-- The rows from a later index on are those that are left of the rows. -/
theorem rowsFrom_drop {value : Nat → Except Failure Json} {index remaining : Nat} {rows : List Json}
    (collected : rowsFrom value index remaining = .ok rows) {offset : Nat} (inside : offset ≤ rows.length) :
    rowsFrom value (index + offset) (remaining - offset) = .ok (rows.drop offset) := by
  induction offset generalizing index remaining rows with
  | zero => exact collected
  | succ offset inductionHypothesis =>
    cases remaining with
    | zero =>
      cases collected
      cases inside
    | succ remaining =>
      rcases rowsFrom_succ_eq_ok collected with rfl | ⟨row, others, _, behind, rfl⟩
      · cases inside
      · have rest := inductionHypothesis behind (Nat.le_of_succ_le_succ inside)
        rw [show index + (offset + 1) = index + 1 + offset by omega, Nat.succ_sub_succ]
        exact rest

/-- A grid that begins at an offset gives the rows that are left of those that it has from its first one on. -/
theorem gridOutcome_drop {view : View} {head : RuleHead} {stack : ScopeStack} {value : Nat → Except Failure Json}
    {rows : List Json} (whole : gridOutcome view head stack value 0 = .ok (.array rows)) {offset : Nat}
    (inside : offset ≤ rows.length) : gridOutcome view head stack value offset = .ok (.array (rows.drop offset)) := by
  obtain ⟨scope, own, answer, counted, all, collected, same⟩ := gridOutcome_eq_ok_iff.mp whole
  cases same
  have rest := rowsFrom_drop collected inside
  rw [Nat.zero_add, Nat.sub_zero] at rest
  exact gridOutcome_eq_ok_iff.mpr ⟨scope, own, answer, counted, _, rest, rfl⟩

/-! ### Pages that keep their rows -/

/-- If there are rows, they are the first ones of the rows there. -/
def Keeps (former later : Except Failure Json) : Prop :=
  ∀ rows, former = .ok (.array rows) → ∃ more, later = .ok (.array (rows ++ more))

/-- The number of further pages that a pagination comes to, when some have been seen and so many are left. -/
def pagesLeft (pagination : Pagination) (seen count : Nat) : Nat :=
  min count (pagination.maxPages.getD (seen + count) - seen)

theorem pagesLeft_of_over {pagination : Pagination} {seen : Nat} (closed : isOver pagination seen = true) (count : Nat) :
    pagesLeft pagination seen count = 0 := by
  obtain ⟨most, known, reached⟩ := (Option.any_eq_true _ _).mp closed
  have few : most ≤ seen := of_decide_eq_true reached
  rw [pagesLeft, known, Option.getD_some]
  omega

theorem pagesLeft_succ {pagination : Pagination} {seen : Nat} (goesOn : isOver pagination seen = false) (count : Nat) :
    pagesLeft pagination seen (count + 1) = pagesLeft pagination (seen + 1) count + 1 := by
  unfold isOver at goesOn
  unfold pagesLeft
  cases known : pagination.maxPages with
  | none =>
    rw [Option.getD_none, Option.getD_none]
    omega
  | some most =>
    rw [known, Option.any_some] at goesOn
    have many : ¬ most ≤ seen := of_decide_eq_false goesOn
    rw [Option.getD_some, Option.getD_some]
    omega

/-- A page with more nodes is higher. -/
theorem isLower_of_size {view next : View} (more : view.document.size < next.document.size)
    (measurable : next.document.size * Page.heightUnit < 2 ^ 53) : isLower none view next = true := by
  have scaled : view.document.size * Page.heightUnit < next.document.size * Page.heightUnit :=
    Nat.mul_lt_mul_of_pos_right more (by decide)
  show ((Binary64.ofInt (next.document.size * Page.heightUnit : Nat)).order?
    (Binary64.ofInt (view.document.size * Page.heightUnit : Nat)) == some .gt) = true
  rw [Binary64.order?_ofInt measurable (Nat.lt_trans scaled measurable), Nat.compare_eq_gt.mpr scaled]
  rfl

theorem harvest_of_keeps {evaluation : View → Nat → Except Failure Json}
    (drops : ∀ view rows offset, evaluation view 0 = .ok (.array rows) → offset ≤ rows.length →
      evaluation view offset = .ok (.array (rows.drop offset)))
    {pagination : Pagination} (scrolls : pagination.turn = .scroll none) {view : View} {feed : List View}
    (grows : (view :: feed).IsChain fun former later => former.document.size < later.document.size ∧
      Keeps (evaluation former 0) (evaluation later 0))
    (measurable : ∀ view ∈ feed, view.document.size * Page.heightUnit < 2 ^ 53) {rows : List Json}
    (first : evaluation view 0 = .ok (.array rows)) (seen : Nat) :
    ∃ last, (view :: feed)[pagesLeft pagination seen feed.length]? = some last ∧
      harvest evaluation pagination none seen view feed (.array rows) = evaluation last 0 := by
  induction feed generalizing view rows seen with
  | nil => exact ⟨view, by rw [pagesLeft]; simp, first.symm⟩
  | cons next feed inductionHypothesis =>
    obtain ⟨⟨more, kept⟩, growsOn⟩ := List.isChain_cons_cons.mp grows
    by_cases closed : isOver pagination seen = true
    · refine ⟨view, ?_, ?_⟩
      · rw [pagesLeft_of_over closed]
        rfl
      · rw [harvest_of_over closed, first]
    · rw [Bool.not_eq_true] at closed
      obtain ⟨added, all⟩ := kept rows first
      have higher := isLower_of_size more (measurable next List.mem_cons_self)
      -- the next page gives what it adds, so that the entries are again all rows of the page that is shown
      have page := drops next (rows ++ added) rows.length all (by simp)
      rw [List.drop_left] at page
      obtain ⟨last, there, rest⟩ := inductionHypothesis growsOn
        (fun view member => measurable view (List.mem_cons_of_mem _ member)) all (seen + 1)
      refine ⟨last, ?_, ?_⟩
      · rw [List.length_cons, pagesLeft_succ closed, List.getElem?_cons_succ]
        exact there
      · rw [harvest, if_neg (by rw [closed]; exact Bool.false_ne_true), if_pos higher, offsetOf_array scrolls, page]
        exact rest

/-! ### Scrolling and starting afresh -/

/-- What a rule is evaluated to from its first row on in a world whose page shows a view. -/
def scratch (surroundings : Surroundings Stage) (world : World Stage) (records : Records) (rule : Rule) (view : View) :
    Except Failure Json :=
  (World.run surroundings { world with state := { page := .ofView view } } records
    (evaluateWithin surroundings.setup rule [] 0)).2

theorem scratch_eq {surroundings : Surroundings Stage} {world : World Stage} (quiet : world.IsQuiet) (records : Records)
    {rule : Rule} {view : View} {outcome : Except Failure Json}
    (ends : (evaluateWithin surroundings.setup rule [] 0).run.EndsAt surroundings { page := .ofView view } outcome) :
    scratch surroundings world records rule view = outcome := by
  have leads := Job.LeadsTo.of_endsAt ends
  have still : World.IsQuiet { world with state := { page := .ofView view } } := ⟨quiet.alone, quiet.undisturbed⟩
  obtain ⟨last, _, ran⟩ := leads.run (by decide) still rfl records
  rw [scratch, ran]

/-- A grid that is scrolled through comes to what it is evaluated to from its first row on, on the last page that is
reached. The pages have more and more nodes, and each keeps the rows of the one before it as its first ones. As many pages
are reached as there may be, if the evaluation of the first one does not fail. -/
theorem scrolled_grid_is_evaluated_afresh {surroundings : Surroundings Stage} (serves : surroundings.serve = Stage.serve)
    {world : World Stage} (quiet : world.IsQuiet) (unfixed : world.state.fixed = []) (records : Records)
    {head : RuleHead} {template : List Rule} {others : List Member} (untransformed : head.transforms = [])
    (still : Rule.IsStill surroundings.transforms (.mk head (some (.row template :: others)) []))
    {pagination : Pagination} (scrolls : pagination.turn = .scroll none)
    (timed : (pagination.probeOptions surroundings.setup).timeout ≤ Decimal.maxIndex)
    (readable : world.state.page.feed.length ≤ Decimal.maxIndex)
    (measurable : ∀ view ∈ coming world.state.page, view.document.size * Page.heightUnit < 2 ^ 53)
    (grows : (world.state.page.view :: coming world.state.page).IsChain fun former later =>
      former.document.size < later.document.size ∧
      Keeps (scratch surroundings world records (.mk head (some (.row template :: others)) []) former)
        (scratch surroundings world records (.mk head (some (.row template :: others)) []) later)) :
    ∃ last, (world.state.page.view :: coming world.state.page)[
        if Except.isOk (scratch surroundings world records (.mk head (some (.row template :: others)) [])
          world.state.page.view) then pagesLeft pagination 1 world.state.page.feed.length else 0]? = some last ∧
      (world.run surroundings records
        (parse surroundings.setup
          { rules := .mk head (some (.row template :: others)) [], pagination := some pagination })).2 =
        scratch surroundings world records (.mk head (some (.row template :: others)) []) last := by
  obtain ⟨value, _, evaluates⟩ := exists_gridOutcome serves surroundings.setup untransformed still
  have afresh := fun view => scratch_eq quiet records (evaluates view 0 { page := .ofView view } rfl rfl)
  simp only [afresh] at grows ⊢
  rw [run_parse serves quiet unfixed records scrolls timed readable evaluates]
  cases first : gridOutcome world.state.page.view head [] (value world.state.page.view) 0 with
  | error failure =>
    refine ⟨world.state.page.view, rfl, ?_⟩
    rw [harvestAll, first]
    rfl
  | ok result =>
    obtain ⟨scope, own, answer, counted, rows, collected, rfl⟩ := gridOutcome_eq_ok_iff.mp first
    obtain ⟨last, there, harvested⟩ := harvest_of_keeps (fun _ _ _ whole inside => gridOutcome_drop whole inside) scrolls
      grows measurable first 1
    have count : (coming world.state.page).length = world.state.page.feed.length := List.length_map _
    rw [count] at there
    refine ⟨last, there, ?_⟩
    rw [harvestAll, first]
    exact harvested

def growingList : World Stage where
  state := { page := {
    source := .ofText "<ul><li><b>A</b></li></ul>"
    feed := [.ofText "<ul><li><b>A</b></li><li><b>B</b></li></ul>"] } }
  channel := Channel.ofCapacity 1
  storages := #[{}]
  ledgers := #[{}]

def titleGrid : Rule :=
  .mk { scope := some "li" } (some [.row [titleField]]) []

theorem isStill_titleGrid : titleGrid.IsStill Transform.standard := by
  apply Rule.IsStill.composed
  · simp
  · simp
  · intro row member rule within
    cases List.mem_singleton.mp member
    cases List.mem_singleton.mp within
    exact .simple (by simp)

/-- The rows of items, each with its title. -/
theorem scratch_titleGrid {view : View} {nodes : List Nat}
    (selects : Selector.select? view.document (ScopeStack.selector [⟨"li", none⟩]) = some nodes)
    (countable : nodes.length < 2 ^ 53) : scratch plainSurroundings growingList ⟨0, 0⟩ titleGrid view =
      .ok (.array (nodes.map fun node => .object (rowFields view node [titleField] []))) := by
  have quiet : growingList.IsQuiet := ⟨rfl, rfl⟩
  have places : (List.range' 0 (nodes.length - 0)).map (fun place =>
      Json.object (rowFields view (nodes[place]?.getD 0) [titleField] [])) =
      nodes.map fun node => .object (rowFields view node [titleField] []) := by
    apply List.ext_getElem
    · simp
    · intro place _ inside
      rw [List.length_map] at inside
      simp [inside]
  have grid := @endsAt_evaluateGrid plainSurroundings { page := .ofView view } rfl rfl plainSurroundings.setup
    { scope := some "li" } "li" rfl (by decide) [titleField] (by simpa using isField_titleField) [] 0 nodes selects countable
  rw [show (Page.ofView view).view = view from rfl, places] at grid
  have evaluated : (evaluateRule plainSurroundings.setup titleGrid 0).EndsAt plainSurroundings
      { page := .ofView view } [] (.array (nodes.map fun node => .object (rowFields view node [titleField] []))) [] := by
    rw [titleGrid, evaluateRule]
    refine Scoped.endsAt_bind (.done _) (Scoped.endsAt_bind (Scoped.endsAt_pure () []) ?_)
    exact Scoped.endsAt_bind grid (Scoped.endsAt_ofScript (.done _) [])
  apply scratch_eq quiet ⟨0, 0⟩
  exact Job.EndsAt.andThen evaluated (.done _)

theorem rowFields_titleField {view : View} {node : Nat}
    (title : ((titleField.head.matchedInside view.document node).filterMap (view.reading? none none)).map Text.trim =
      ["A"]) : rowFields view node [titleField] [] = [("title", .string "A")] := by
  have reading : view.reading titleField.head (titleField.head.matchedInside view.document node) = .string "A" := by
    show Json.string (" ".intercalate (((titleField.head.matchedInside view.document node).filterMap
      (view.reading? none none)).map Text.trim)) = _
    rw [title]
    rfl
  show Fields.insert "title" (view.reading titleField.head (titleField.head.matchedInside view.document node)) [] = _
  rw [reading]
  rfl

def shortList : View :=
  growingList.state.page.view

/-- What the page with the list shows when it has been scrolled. -/
def longList : View :=
  ⟨(PageSource.ofText "<ul><li><b>A</b></li><li><b>B</b></li></ul>").document, []⟩

theorem coming_growingList : coming growingList.state.page = [longList] := rfl

theorem scratch_shortList : scratch plainSurroundings growingList ⟨0, 0⟩ titleGrid shortList =
    .ok (.array [.object [("title", .string "A")]]) := by
  have selects : Selector.select? shortList.document (ScopeStack.selector [⟨"li", none⟩]) = some [5] := by
    decide +kernel
  have title := @rowFields_titleField shortList 5 (by decide +kernel)
  rw [scratch_titleGrid selects (by decide), List.map_cons, List.map_nil, title]

theorem keeps_shortList : Keeps (scratch plainSurroundings growingList ⟨0, 0⟩ titleGrid shortList)
    (scratch plainSurroundings growingList ⟨0, 0⟩ titleGrid longList) := by
  have selects : Selector.select? longList.document (ScopeStack.selector [⟨"li", none⟩]) = some [5, 8] := by
    decide +kernel
  have title := @rowFields_titleField longList 5 (by decide +kernel)
  intro rows has
  rw [scratch_shortList] at has
  cases has
  refine ⟨[.object (rowFields longList 8 [titleField] [])], ?_⟩
  rw [scratch_titleGrid selects (by decide), List.map_cons, List.map_cons, List.map_nil, title]
  rfl

/-- The second item is collected behind the first one, and the second page shows both. -/
theorem scrolled_titleGrid : (growingList.run plainSurroundings ⟨0, 0⟩
    (parse plainSurroundings.setup { rules := titleGrid, pagination := some { turn := .scroll none } })).2 =
      scratch plainSurroundings growingList ⟨0, 0⟩ titleGrid longList := by
  have more : shortList.document.size < longList.document.size := by decide +kernel
  have measurable : ∀ view ∈ coming growingList.state.page, view.document.size * Page.heightUnit < 2 ^ 53 := by
    intro view member
    rw [coming_growingList] at member
    rw [List.mem_singleton.mp member]
    decide +kernel
  have grows : (shortList :: coming growingList.state.page).IsChain fun former later =>
      former.document.size < later.document.size ∧
      Keeps (scratch plainSurroundings growingList ⟨0, 0⟩ titleGrid former)
        (scratch plainSurroundings growingList ⟨0, 0⟩ titleGrid later) := by
    rw [coming_growingList]
    exact .cons_cons ⟨more, keeps_shortList⟩ (.singleton longList)
  obtain ⟨last, there, parsed⟩ := @scrolled_grid_is_evaluated_afresh plainSurroundings rfl growingList
    ⟨rfl, rfl⟩ rfl ⟨0, 0⟩ { scope := some "li" } [titleField] [] rfl isStill_titleGrid { turn := .scroll none } rfl
    (Nat.le_of_ble_eq_true rfl) (Nat.le_of_ble_eq_true rfl) measurable grows
  have begins : Except.isOk (scratch plainSurroundings growingList ⟨0, 0⟩ titleGrid shortList) = true := by
    rw [scratch_shortList]
    rfl
  have count : pagesLeft { turn := .scroll none } 1 growingList.state.page.feed.length = 1 := rfl
  unfold titleGrid shortList at begins
  rw [if_pos begins, count, coming_growingList] at there
  have same : longList = last := Option.some.inj there
  rw [same]
  exact parsed

end Run

end Harvest
