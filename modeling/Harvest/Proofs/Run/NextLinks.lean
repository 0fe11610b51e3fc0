import Harvest.Proofs.Decimal.Count
import Harvest.Proofs.Page.Freshness
import Harvest.Proofs.Run.Accumulate
import Harvest.Proofs.Run.Blind

/-!
Contract: links to next pages are followed to the end.

A chain of documents is known by their addresses. On each but the last, the first match of the control is a link to the
next one, whose marker reads another text. A turn counts the control, follows the link, and the probe behind it
accepts the marker at once (`leadsTo_turnPage_of_link`); without a match there is no turn. By induction on
the pages that may still come, the pages are visited in their order and their rows are collected
(`leadsTo_evaluatePages_of_links`).
-/

namespace Harvest

open World

/-! ### Chains of documents -/

def PageSource.view (source : PageSource) : View :=
  ⟨source.document, []⟩

def View.marker (view : View) (selector : String) : String :=
  ((Page.ofView view).query selector none none).joinedText

/-- The first match of a control on the document at an address is a link to another one, which is known there and has
another marker. -/
structure LinksTo (known : List (String × PageSource)) (control marker : String) (former later : String × PageSource) :
    Prop where
  link : ∃ node others target, Selector.select? former.2.document control = some (node :: others) ∧
    former.2.document.name? node = some "a" ∧ former.2.document.attribute? node "href" = some target ∧
    Page.resolveLink former.1 target = later.1
  known : known.lookup later.1 = some later.2
  differs : later.2.view.marker marker ≠ former.2.view.marker marker

namespace Page

/-- The documents that links lead through, from the one that a page shows to one without a control. -/
structure NextLinks (page : Page) (control marker : String) (documents : List (String × PageSource)) : Prop where
  begins : documents.head? = some (page.url, page.source)
  links : documents.IsChain (LinksTo page.known control marker)
  ends : ∀ last ∈ documents.getLast?, Selector.select? last.2.document control = some []

/-- The documents that a page has shown, with their addresses, in their order. -/
def visited (page : Page) : List (String × PageSource) :=
  page.history.reverse ++ [(page.url, page.source)]

/-- The page behind a click on a control that leads to a document. -/
def follow (control : String) (page : Page) (document : String × PageSource) : Page :=
  { page.note "click" control with
    url := document.1
    source := document.2
    history := (page.url, page.source) :: page.history
    changes := []
    focused := none }

/-- The first match of the control is a link, and it leads to the next document. -/
theorem select_of_linksTo {page : Page} {control marker : String} {document : String × PageSource}
    (links : LinksTo page.known control marker (page.url, page.source) document) :
    ∃ node others, page.select control = .ok (node :: others) ∧ page.linkOf? node = some document.1 := by
  obtain ⟨node, others, target, selects, isLink, leads, resolves⟩ := links.link
  dsimp only at selects isLink leads resolves
  have there : (page.known.lookup document.1).isSome = true := by
    rw [links.known]
    rfl
  refine ⟨node, others, by rw [select, selects], ?_⟩
  rw [linkOf?, if_pos isLink, leads, Option.map_some, resolves]
  exact Option.filter_eq_some_iff.mpr ⟨rfl, there⟩

theorem click_of_linksTo {page : Page} {control marker : String} {document : String × PageSource}
    (links : LinksTo page.known control marker (page.url, page.source) document) :
    (page.click control).page = page.follow control document ∧ (page.click control).answer = .ok (.bool true) := by
  obtain ⟨node, others, selects, leads⟩ := select_of_linksTo links
  obtain ⟨moves, answers⟩ := click_of_link selects leads
  have shown : (page.note "click" control).known.lookup document.1 = some document.2 := links.known
  rw [moves, answers, navigate, shown]
  exact ⟨rfl, rfl⟩

/-- Behind the link to the second document of a chain, the rest of the chain is to be followed. -/
theorem NextLinks.follow {page : Page} {control marker : String} {former document : String × PageSource}
    {next : List (String × PageSource)} (chain : page.NextLinks control marker (former :: document :: next)) :
    LinksTo page.known control marker (page.url, page.source) document ∧
      (page.follow control document).NextLinks control marker (document :: next) := by
  obtain rfl : former = (page.url, page.source) := Option.some.inj chain.begins
  obtain ⟨link, links⟩ := List.isChain_cons_cons.mp chain.links
  have ends := chain.ends
  rw [List.getLast?_cons_cons] at ends
  exact ⟨link, rfl, links, ends⟩

theorem NextLinks.ends_of_singleton {page : Page} {control marker : String} {last : String × PageSource}
    (chain : page.NextLinks control marker [last]) : Selector.select? page.source.document control = some [] := by
  obtain rfl : last = (page.url, page.source) := Option.some.inj chain.begins
  exact chain.ends _ rfl

theorem visited_follow (control : String) (page : Page) (document : String × PageSource) :
    (page.follow control document).visited = page.visited ++ [document] := by
  simp [visited, follow, note]

theorem visited_followAll (control : String) (page : Page) (documents : List (String × PageSource)) :
    (documents.foldl (follow control) page).visited = page.visited ++ documents := by
  induction documents generalizing page with
  | nil => simp
  | cons document documents inductionHypothesis =>
    rw [List.foldl_cons, inductionHypothesis, visited_follow, List.append_assoc]
    rfl

theorem interactions_followAll (control : String) (page : Page) (documents : List (String × PageSource)) :
    (documents.foldl (follow control) page).interactions =
      page.interactions ++ List.replicate documents.length ("click:" ++ control) := by
  induction documents generalizing page with
  | nil => simp
  | cons document documents inductionHypothesis =>
    rw [List.foldl_cons, inductionHypothesis, List.length_cons, List.replicate_succ]
    simp [follow, note]

end Page

namespace Run

/-! ### Turning the page -/

/-- An answer to a count says that there is no control only if nothing is matched. -/
theorem saysNone_count (number : Nat) : saysNone (.count number) = decide (number = 0) := by
  show ((Binary64.ofInt number).order? (.ofInt 1) == some .lt) = decide (number = 0)
  by_cases none : number = 0
  · subst none
    decide +kernel
  · rw [decide_eq_false none]
    exact beq_false_of_ne (Binary64.order?_ofInt_one none)

section

variable {surroundings : Surroundings Stage} (serves : surroundings.serve = Stage.serve) {stage : Stage}
  (unfixed : stage.fixed = []) (setup : Setup) {pagination : Pagination} {control marker : String}
  (turns : pagination.turn = .control control marker)

include serves unfixed

/-- The probe accepts another marker than before at once. -/
theorem leadsTo_probe_of_differs {options : WaitOptions} (unbroken : options.breaker = none) {former : String}
    (differs : (stage.page.query marker none none).joinedText ≠ former) :
    (probe options (.textOf marker) fun answer => answer.joinedText != former).run.LeadsTo surroundings 1 stage stage
      (.ok ()) := by
  let polling : Polling Stage := ⟨surroundings, options, .textOf marker, fun answer => answer.joinedText != former⟩
  have accepted : polling.judge? (stage.page.dispatch polling.probe).answer =
      some (.ok (stage.page.query marker none none)) := by
    show (if (stage.page.query marker none none).joinedText != former then _ else _) = _
    rw [if_pos (bne_iff_ne.mpr differs)]
  have verdict := @Polling.leadsTo_verdict polling serves unbroken stage unfixed rfl _ accepted
  exact (Script.leadsTo_outcome verdict).andThen_done rfl

include turns

/-- There is no turn without a match of the control. -/
theorem leadsTo_turnPage_of_none (ends : Selector.select? stage.page.source.document control = some []) :
    (turnPage setup pagination).run.LeadsTo surroundings 0 stage stage (.ok false) := by
  have counted := leadsTo_call serves unfixed (.count control)
  have answer : (stage.page.dispatch (.count control)).answer = .ok (.count 0) := by
    show (stage.page.select control).map _ = _
    rw [Page.select, ends]
    rfl
  rw [answer] at counted
  unfold turnPage
  simp only [turns]
  refine Script.leadsTo_atOnce counted ?_
  rw [saysNone_count, if_pos (by decide)]
  exact .done stage _

/-- A turn follows the link to the next document, and the probe accepts the marker there at once. -/
theorem leadsTo_turnPage_of_link (fresh : stage.page.changes = []) {document : String × PageSource}
    (links : LinksTo stage.page.known control marker (stage.page.url, stage.page.source) document) :
    (turnPage setup pagination).run.LeadsTo surroundings 1 stage (stage.withPage (stage.page.follow control document))
      (.ok true) := by
  obtain ⟨node, others, selects, _⟩ := Page.select_of_linksTo links
  obtain ⟨moved, clicks⟩ := Page.click_of_linksTo links
  have counted := leadsTo_call serves unfixed (.count control)
  have count : (stage.page.dispatch (.count control)).answer = .ok (.count (others.length + 1)) := by
    show (stage.page.select control).map _ = _
    rw [selects]
    rfl
  rw [count] at counted
  have read := leadsTo_call serves unfixed (.textOf marker)
  have clicked := leadsTo_call serves unfixed (.click control)
  rw [show (stage.page.dispatch (.click control)).page = _ from moved,
    show (stage.page.dispatch (.click control)).answer = _ from clicks] at clicked
  have same : (stage.page.query marker none none).joinedText = stage.page.source.view.marker marker := by
    show ((Page.ofView stage.page.view).query marker none none).joinedText = _
    rw [Page.view, fresh]
    rfl
  have probed := @leadsTo_probe_of_differs surroundings serves (stage.withPage (stage.page.follow control document))
    unfixed marker (pagination.probeOptions setup) rfl _ links.differs
  unfold turnPage
  simp only [turns]
  refine Script.leadsTo_atOnce counted ?_
  rw [saysNone_count, if_neg (by simp)]
  refine Script.leadsTo_atOnce read (Script.leadsTo_atOnce clicked ?_)
  rw [same]
  exact probed.andThen_done rfl

/-! ### The walk along the documents -/

omit serves unfixed in
/-- Pages that are turned pass over no rows. -/
theorem offsetOf_control (collected : Json) : offsetOf pagination collected = 0 := by
  unfold offsetOf Pagination.strategy
  rw [turns]

/-- Further pages are evaluated on the way along the chain, as many as there may be and there are. -/
theorem leadsTo_evaluatePages_of_links {rule : Rule} {evaluation : View → Except Failure Json}
    (evaluates : ∀ view, (evaluateWithin setup rule [] 0).run.EndsOn surroundings view (evaluation view))
    (fresh : stage.page.changes = []) {former : String × PageSource} {next : List (String × PageSource)}
    (chain : stage.page.NextLinks control marker (former :: next)) {rows : String × PageSource → List Json}
    (arrays : ∀ document ∈ next, evaluation document.2.view = .ok (.array (rows document))) (limit seen : Nat)
    (enough : pagesLeft pagination seen next.length ≤ limit) (collected : List Json) :
    (evaluatePages setup pagination rule limit seen (.array collected)).run.LeadsTo surroundings next.length stage
      (stage.withPage ((next.take (pagesLeft pagination seen next.length)).foldl (Page.follow control) stage.page))
      (.ok (.array (collected ++ (next.take (pagesLeft pagination seen next.length)).flatMap rows))) := by
  -- by the limit, which every further page lowers; it cannot run out before the chain or the number of pages does
  induction limit generalizing stage former next seen collected with
  | zero =>
    rw [Nat.le_zero.mp enough, List.take_zero, List.flatMap_nil, List.append_nil, evaluatePages]
    exact (Job.LeadsTo.done stage _).mono (Nat.zero_le _)
  | succ limit inductionHypothesis =>
    rw [evaluatePages]
    by_cases closed : isOver pagination seen = true
    · rw [pagesLeft_of_over closed, List.take_zero, List.flatMap_nil, List.append_nil]
      refine Job.LeadsTo.mono ?_ (Nat.zero_le _)
      exact (leadsTo_nextPage_over setup closed).andThen_done rfl
    rw [Bool.not_eq_true] at closed
    cases next with
    | nil =>
      have stays := leadsTo_turnPage_of_none serves unfixed setup turns chain.ends_of_singleton
      rw [List.take_nil, List.flatMap_nil, List.append_nil]
      exact (leadsTo_nextPage_of_turn closed stays).andThen_done rfl
    | cons document next =>
      obtain ⟨link, behind⟩ := chain.follow
      let followed := stage.withPage (stage.page.follow control document)
      have turned := leadsTo_nextPage_of_turn closed (leadsTo_turnPage_of_link serves unfixed setup turns fresh link)
      have evaluated := Job.LeadsTo.of_endsAt (evaluates document.2.view followed unfixed rfl)
      rw [arrays document List.mem_cons_self] at evaluated
      rw [List.length_cons, pagesLeft_succ closed] at enough ⊢
      have walked := @inductionHypothesis followed unfixed rfl document next behind
        (fun document member => arrays document (List.mem_cons_of_mem _ member)) (seen + 1)
        (Nat.le_of_succ_le_succ enough) (collected ++ rows document)
      rw [List.take_succ_cons, List.foldl_cons, List.flatMap_cons, ← List.append_assoc, Nat.add_comm next.length 1]
      refine Script.leadsTo_bind turned ?_
      dsimp only [pageBehind]
      rw [offsetOf_control turns]
      exact Script.leadsTo_atOnce evaluated walked

/-- The pages of a parse are collected along the chain, from the first one on. -/
theorem leadsTo_collectPages_of_links {rule : Rule} {evaluation : View → Except Failure Json}
    (evaluates : ∀ view, (evaluateWithin setup rule [] 0).run.EndsOn surroundings view (evaluation view))
    (fresh : stage.page.changes = []) {first : String × PageSource} {next : List (String × PageSource)}
    (chain : stage.page.NextLinks control marker (first :: next)) {rows : String × PageSource → List Json}
    (arrays : ∀ document ∈ first :: next, evaluation document.2.view = .ok (.array (rows document)))
    (countable : next.length ≤ Decimal.maxIndex) :
    (collectPages setup { rules := rule, pagination := some pagination }).run.LeadsTo surroundings next.length stage
      (stage.withPage ((next.take (pagesLeft pagination 1 next.length)).foldl (Page.follow control) stage.page))
      (.ok (.array (rows first ++ (next.take (pagesLeft pagination 1 next.length)).flatMap rows))) := by
  obtain rfl : first = (stage.page.url, stage.page.source) := Option.some.inj chain.begins
  have shows : stage.page.view = stage.page.source.view := by rw [Page.view, fresh, PageSource.view]
  have evaluated := Job.LeadsTo.of_endsAt (evaluates stage.page.source.view stage unfixed shows)
  rw [arrays _ List.mem_cons_self] at evaluated
  have enough : pagesLeft pagination 1 next.length ≤ pageLimit pagination := by
    unfold pagesLeft pageLimit
    cases pagination.maxPages with
    | none => exact Nat.le_trans (Nat.min_le_left _ _) countable
    | some most => exact Nat.le_trans (Nat.min_le_right _ _) (Nat.sub_le _ _)
  unfold collectPages
  exact Script.leadsTo_atOnce evaluated (leadsTo_evaluatePages_of_links serves unfixed setup turns evaluates fresh chain
    (fun document member => arrays document (List.mem_cons_of_mem _ member)) _ 1 enough _)

end

/-- The number of pages that a pagination takes of those that there are. The first one is taken in any case. -/
def pagesTaken (pagination : Pagination) (count : Nat) : Nat :=
  match pagination.maxPages with
  | none => count
  | some most => min count (max 1 most)

theorem pagesTaken_succ (pagination : Pagination) (count : Nat) :
    pagesTaken pagination (count + 1) = pagesLeft pagination 1 count + 1 := by
  unfold pagesTaken pagesLeft
  cases pagination.maxPages with
  | none =>
    dsimp only [Option.getD_none]
    omega
  | some most =>
    dsimp only [Option.getD_some]
    omega

/-- A parse with a control for the next page visits the documents of the chain of links in their order, with one click
between two of them and none behind the last, and collects the rows of each. It takes all of them, or as many as there may
be. The chain is no longer than a 64-bit word can count; where its addresses differ, none is visited twice. -/
theorem next_links_are_followed_in_order {surroundings : Surroundings Stage} (serves : surroundings.serve = Stage.serve)
    {world : World Stage} (quiet : world.IsQuiet) (unfixed : world.state.fixed = [])
    (fresh : world.state.page.changes = []) (records : Records) {rule : Rule} (idle : rule.IsIdle)
    (blind : ∀ step, rule.HasStep step → step.IsBlind surroundings.transforms) {pagination : Pagination}
    {control marker : String} (turns : pagination.turn = .control control marker)
    {documents : List (String × PageSource)} (chain : world.state.page.NextLinks control marker documents)
    (countable : documents.length ≤ Decimal.maxIndex) {rows : String × PageSource → List Json}
    (arrays : ∀ document ∈ documents,
      scratch surroundings world records rule document.2.view = .ok (.array (rows document))) :
    ∃ last : World Stage,
      world.run surroundings records (parse surroundings.setup { rules := rule, pagination := some pagination }) =
        (last, .ok (.array ((documents.take (pagesTaken pagination documents.length)).flatMap rows))) ∧
      last.state.page.visited =
        world.state.page.history.reverse ++ documents.take (pagesTaken pagination documents.length) ∧
      last.state.page.interactions = world.state.page.interactions ++
        List.replicate (pagesTaken pagination documents.length - 1) ("click:" ++ control) := by
  choose evaluation evaluates using fun view => exists_endsOn_of_blind serves surroundings.setup idle blind view 0
  have afresh := fun view => scratch_eq quiet records (evaluates view { page := .ofView view } rfl rfl)
  simp only [afresh] at arrays
  obtain ⟨first, next, rfl⟩ : ∃ first next, documents = first :: next :=
    List.exists_cons_of_ne_nil fun none => by
      have begins := chain.begins
      rw [none] at begins
      cases begins
  obtain rfl : first = (world.state.page.url, world.state.page.source) := Option.some.inj chain.begins
  let prepared := world.state.withPage (world.state.page.work .prepare).page
  have chainThere : prepared.page.NextLinks control marker ((world.state.page.url, world.state.page.source) :: next) :=
    ⟨rfl, chain.links, chain.ends⟩
  have few : next.length ≤ Decimal.maxIndex := Nat.le_of_succ_le countable
  have collected := @leadsTo_collectPages_of_links surroundings serves prepared unfixed surroundings.setup pagination control
    marker turns rule evaluation evaluates fresh _ next chainThere rows arrays few
  let taken := next.take (pagesLeft pagination 1 next.length)
  let reached := prepared.withPage (taken.foldl (Page.follow control) prepared.page)
  have free : reached.fixed = [] := unfixed
  have leads := leadsTo_parse_of_pages serves unfixed surroundings.setup free collected
  have reachable : next.length < World.bound := Nat.lt_of_le_of_lt few (by decide)
  obtain ⟨last, there, ran⟩ := leads.run reachable quiet rfl records
  have count : taken.length = pagesLeft pagination 1 next.length :=
    List.length_take_of_le (Nat.min_le_left _ _)
  rw [List.length_cons, pagesTaken_succ, List.take_succ_cons]
  refine ⟨last, ran, ?_, ?_⟩
  · rw [there]
    show (taken.foldl (Page.follow control) prepared.page).visited = _
    rw [Page.visited_followAll, Page.visited, List.append_assoc]
    rfl
  · rw [there, Nat.add_sub_cancel, ← count]
    exact Page.interactions_followAll control prepared.page taken

/-- The texts that an outcome gives, if it gives an array of nothing else. -/
def texts? : Except Failure Json → Option (List String)
  | .ok (.array rows) => rows.mapM Json.text?
  | _ => none

theorem eq_of_mapM_text? {rows : List Json} {texts : List String} (gives : rows.mapM Json.text? = some texts) :
    rows = texts.map .string := by
  induction rows generalizing texts with
  | nil =>
    cases gives
    rfl
  | cons row rows inductionHypothesis =>
    rw [List.mapM_cons] at gives
    obtain ⟨text, isText, rest⟩ := Option.bind_eq_some_iff.mp gives
    obtain ⟨others, others_given, same⟩ := Option.bind_eq_some_iff.mp rest
    cases same
    cases row with
    | string value =>
      cases isText
      rw [inductionHypothesis others_given, List.map_cons]
    | _ => cases isText

theorem eq_of_texts? {outcome : Except Failure Json} {texts : List String} (gives : texts? outcome = some texts) :
    outcome = .ok (.texts texts) := by
  unfold texts? at gives
  split at gives
  · rw [eq_of_mapM_text? gives, Json.texts]
  · cases gives

def firstShopPage : PageSource :=
  .ofText "<i>1</i><p>a</p><p>b</p><a href=\"/2\">next</a>"

def secondShopPage : PageSource :=
  .ofText "<i>2</i><p>c</p><a href=\"3\">next</a>"

def shopPages : List (String × PageSource) :=
  [("https://site.test/1", firstShopPage), ("https://site.test/2", secondShopPage),
    ("https://site.test/3", .ofText "<i>3</i><p>d</p>")]

def shop : World Stage where
  state := { page := { url := "https://site.test/1", source := firstShopPage, known := shopPages } }
  channel := Channel.ofCapacity 1
  storages := #[{}]
  ledgers := #[{}]

def itemRule : Rule :=
  .mk { scope := some "p", shape := .array, transforms := [
    { kind := "prefix", options := [("value", .string "item ")] }] } none []

theorem nextLinks_shop : shop.state.page.NextLinks "a" "i" shopPages := by
  refine ⟨rfl, ?_, ?_⟩
  · refine .cons_cons ⟨⟨10, [], "/2", ?_⟩, rfl, ?_⟩ (.cons_cons ⟨⟨8, [], "3", ?_⟩, rfl, ?_⟩ (.singleton _))
    all_goals decide +kernel
  · intro last isLast
    cases isLast
    decide +kernel

/-- Two pages of the shop are visited, and the items on both are collected. -/
theorem items_of_two_pages : ∃ last : World Stage,
    shop.run plainSurroundings ⟨0, 0⟩ (parse plainSurroundings.setup
      { rules := itemRule, pagination := some { turn := .control "a" "i", maxPages := some 2 } }) =
        (last, .ok (.array [.string "item a", .string "item b", .string "item c"])) ∧
    last.state.page.visited = shopPages.take 2 ∧ last.state.page.interactions = ["click:a"] := by
  let texts := fun document : String × PageSource =>
    texts? (scratch plainSurroundings shop ⟨0, 0⟩ itemRule document.2.view)
  have read : shopPages.map texts = [some ["item a", "item b"], some ["item c"], some ["item d"]] := by
    decide +kernel
  let rows := fun document => ((texts document).getD []).map Json.string
  have blind : ∀ step, itemRule.HasStep step → step.IsBlind plainSurroundings.transforms := by
    intro step has
    cases List.mem_singleton.mp (Rule.hasStep_simple_iff.mp has)
    exact Transform.Step.IgnoresStorage.isBlind ⟨.addInFront, rfl, fun _ _ _ => rfl⟩
  have arrays : ∀ document ∈ shopPages, scratch plainSurroundings shop ⟨0, 0⟩ itemRule document.2.view =
      .ok (.array (rows document)) := by
    intro document member
    have among : texts document ∈ shopPages.map texts := List.mem_map_of_mem member
    obtain ⟨found, gives⟩ : ∃ found, texts document = some found := by
      rw [read] at among
      exact Option.isSome_iff_exists.mp ((by decide : ∀ found ∈ [some ["item a", "item b"], some ["item c"],
        some ["item d"]], found.isSome = true) _ among)
    show _ = Except.ok (Json.array (((texts document).getD []).map Json.string))
    rw [gives]
    exact eq_of_texts? gives
  have collected : (shopPages.take 2).flatMap rows = [.string "item a", .string "item b", .string "item c"] := by
    have pages : (shopPages.take 2).flatMap rows =
        ((shopPages.map texts).take 2).flatMap fun found => (found.getD []).map Json.string := by
      rw [← List.map_take, List.flatMap_map]
    rw [pages, read]
    rfl
  obtain ⟨last, ran, visits, clicks⟩ := @next_links_are_followed_in_order plainSurroundings rfl shop ⟨rfl, rfl⟩ rfl rfl
    ⟨0, 0⟩ itemRule (Rule.isIdle_simple _) blind { turn := .control "a" "i", maxPages := some 2 } "a" "i" rfl shopPages nextLinks_shop
    (Nat.le_of_ble_eq_true rfl) rows arrays
  refine ⟨last, ?_, visits, clicks⟩
  rw [ran]
  exact congrArg (fun rows => (last, Except.ok (Json.array rows))) collected

end Run

end Harvest
