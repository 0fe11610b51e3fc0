import Harvest.Proofs.Run.GridRows
import Harvest.Proofs.Run.Scroll
import Mathlib.Data.List.Chain

/-!
Contract: which nodes the entries of a scrolled parse come from.

On each page a root rule adds entries to the array, and each of them comes from one node that the
rule matches there. A grid passes over as many nodes as there are entries by then; a simple rule
begins with the first node on every page. So if the pages keep the nodes that were matched before
as the first ones, a grid never comes back to a node, and a simple rule comes back to all of them.
-/

namespace Harvest

open Markup Selector

/-! ### The selector of a row -/

theorem joinSelectors_concat_blank (parts : List String) {last : String} (blank : Text.isBlankText last = true) :
    joinSelectors (parts ++ [last]) = joinSelectors parts := by
  have empty : Text.trim last = "" := by
    rw [Text.trim, (Text.isBlankText_iff last).mp blank]
  unfold joinSelectors
  rw [List.map_append, List.filter_append, List.map_singleton, empty]
  simp

/-- The selector of a row is that of the grid with a filter behind it; blanks may stand between them. -/
theorem toList_selector_rowFrame {scope : String} {parentScope : Option String} {stack : ScopeStack}
    (some_grid : ScopeStack.selector (⟨scope, parentScope⟩ :: stack) ≠ "") (index : Nat) :
    ∃ blanks, (∀ character ∈ blanks, Text.isBlank character = true) ∧
      (ScopeStack.selector (Run.rowFrame scope parentScope index :: stack)).toList =
        (ScopeStack.selector (⟨scope, parentScope⟩ :: stack)).toList ++ (blanks ++ filterText index) := by
  have filter := trimmed_filterText index
  cases visible : Text.isBlankText scope with
  | false => exact toList_selector_rowFrame_of_visible visible parentScope stack index
  | true =>
    have blank : ∀ character ∈ scope.toList, Text.isBlank character = true := List.all_eq_true.mp visible
    have rowScope : Text.trimChars (Run.rowFrame scope parentScope index).scope.toList = filterText index := by
      have written : (Run.rowFrame scope parentScope index).scope.toList = scope.toList ++ filterText index ++ [] := by
        simp [Run.rowFrame, Description.countText, filterText, filterMark]
      rw [written]
      exact filter.trimChars_between blank (by simp)
    have grid : ScopeStack.selector (⟨scope, parentScope⟩ :: stack) =
        joinSelectors (ScopeStack.outerParts ⟨scope, parentScope⟩ stack) := by
      rw [← joinSelectors_concat_blank _ visible]
      unfold ScopeStack.selector ScopeStack.outerParts
      rw [ScopeStack.parts]
      cases parentScope with
      | none => rw [List.reverse_cons]
      | some parent => rfl
    refine ⟨[' '], List.forall_mem_singleton.mpr rfl, ?_⟩
    rw [ScopeStack.toList_selector_push _ stack (by rw [rowScope]; exact filter.ne_nil), rowScope, grid]
    rw [grid] at some_grid
    unfold lead
    rw [if_neg (show joinSelectors (ScopeStack.outerParts (Run.rowFrame scope parentScope index) stack) ≠ "" from some_grid),
      List.append_assoc]
    rfl

/-- A row of a grid is about one of the elements that the grid selects. -/
theorem select?_rowFrame {document : Document} {scope : String} {parentScope : Option String} {stack : ScopeStack}
    (some_grid : ScopeStack.selector (⟨scope, parentScope⟩ :: stack) ≠ "") {nodes : List Nat}
    (selects : select? document (ScopeStack.selector (⟨scope, parentScope⟩ :: stack)) = some nodes) {index : Nat}
    (bound : index ≤ Decimal.maxIndex) :
    select? document (ScopeStack.selector (Run.rowFrame scope parentScope index :: stack)) =
      some nodes[index]?.toList := by
  have some_text : (ScopeStack.selector (⟨scope, parentScope⟩ :: stack)).toList ≠ [] :=
    fun none => some_grid (String.toList_eq_nil_iff.mp none)
  obtain ⟨blanks, blank, row⟩ := toList_selector_rowFrame some_grid index
  have some_row : (ScopeStack.selector (Run.rowFrame scope parentScope index :: stack)).toList ≠ [] := by
    rw [row]
    exact fun none => some_text (List.append_eq_nil_iff.mp none).1
  have reaches := reach?_filter some_text blank bound document []
  rw [List.append_nil, ← select?_of_reach? some_text, selects] at reaches
  rw [select?_of_reach? some_row, row, reaches]
  rfl

theorem select?_blank (document : Document) : select? document "" = none := by
  have unread : read? (Text.trimChars []) = none := by decide +kernel
  have alone : pieces "".toList = [⟨[], none⟩] := pieces_of_none rfl
  rw [select?_eq, alone, reach?, unread]
  rfl

namespace Run

/-! ### What a page yields -/

/-- The nodes that a root rule matches on a view. A simple rule leaves out those of which it reads nothing. -/
def contributors (rule : Rule) (view : View) : List Nat :=
  match rule.members with
  | some _ => (select? view.document (framed rule.head []).selector).getD []
  | none =>
    ((select? view.document (source rule.head [])).getD []).filter fun node =>
      (view.reading? rule.head.attr rule.head.property node).isSome

/-- What was collected on a page: the view that it showed, and the entries, each with the node that it comes from. -/
structure Yield where
  view : View
  entries : List (Nat × Json)

/-- The nodes that the entries come from. -/
def Yield.nodes (yield : Yield) : List Nat :=
  yield.entries.map Prod.fst

/-- A root rule gives a value for a node on a view: what a simple rule makes of the text that it reads there, or what the
rules of a row come to inside a frame that selects the node and nothing else. -/
inductive Gives (surroundings : Surroundings Stage) (view : View) : Rule → (node : Nat) → (value : Json) → Prop where
  | text {head : RuleHead} {node : Nat} {text : String} {value : Json}
      (reads : view.reading? head.attr head.property node = some text)
      (makes : converted surroundings.transforms head.transforms (Text.trim text) = .ok value) :
      Gives surroundings view (.mk head none []) node value
  | row {head : RuleHead} {template : List Rule} {others : List Member} {node place : Nat} {value : Json}
      (selects : select? view.document (ScopeStack.selector [gridFrame head place]) = some [node])
      (comesTo : (evaluateRules surroundings.setup template []).EndsOn surroundings view [gridFrame head place]
        (.ok value) [gridFrame head place]) :
      Gives surroundings view (.mk head (some (.row template :: others)) []) node value

/-- What a root rule collects on a page when there are so many entries already. -/
structure Yield.IsFrom (surroundings : Surroundings Stage) (rule : Rule) (before : Nat) (yield : Yield) : Prop where
  simple : rule.members = none → yield.nodes = contributors rule yield.view
  grid : rule.members.isSome → yield.nodes <+: (contributors rule yield.view).drop before
  gives : ∀ entry ∈ yield.entries, Gives surroundings yield.view rule entry.1 entry.2

/-- What a root rule collects on pages one after the other, when there are so many entries already. -/
inductive Gathers (surroundings : Surroundings Stage) (rule : Rule) : (before : Nat) → List Yield → Prop where
  | nil {before : Nat} : Gathers surroundings rule before []
  | cons {before : Nat} {yield : Yield} {yields : List Yield} (here : yield.IsFrom surroundings rule before)
      (behind : Gathers surroundings rule (before + yield.entries.length) yields) :
      Gathers surroundings rule before (yield :: yields)

/-- A root rule that makes one entry of each node: a simple rule of the type array, or a grid without transforms of its
own. -/
inductive ListsNodes : Rule → Prop where
  | simple {head : RuleHead} (lists : head.shape = .array) : ListsNodes (.mk head none [])
  | grid {head : RuleHead} {template : List Rule} {others : List Member} (untransformed : head.transforms = []) :
      ListsNodes (.mk head (some (.row template :: others)) [])

/-- The texts that nodes read, converted one after the other, with the node of each. -/
theorem exists_entries {read : Nat → Option String} {convert : String → Except Failure Json} {nodes : List Nat}
    {values : List Json} (converts : ((nodes.filterMap read).map Text.trim).mapM convert = .ok values) :
    ∃ entries : List (Nat × Json), entries.map Prod.snd = values ∧
      entries.map Prod.fst = nodes.filter (fun node => (read node).isSome) ∧
      ∀ entry ∈ entries, ∃ text, read entry.1 = some text ∧ convert (Text.trim text) = .ok entry.2 := by
  induction nodes generalizing values with
  | nil =>
    cases converts
    exact ⟨[], rfl, rfl, List.forall_mem_nil _⟩
  | cons node nodes inductionHypothesis =>
    cases reads : read node with
    | none =>
      rw [List.filterMap_cons_none reads] at converts
      rw [List.filter_cons_of_neg (by simp [reads])]
      exact inductionHypothesis converts
    | some text =>
      rw [List.filterMap_cons_some reads, List.map_cons, List.mapM_cons] at converts
      obtain ⟨value, first, later⟩ := bind_eq_ok_iff.mp converts
      obtain ⟨rest, behind, all⟩ := bind_eq_ok_iff.mp later
      cases all
      obtain ⟨entries, shown, places, each⟩ := inductionHypothesis behind
      refine ⟨(node, value) :: entries, ?_, ?_, ?_⟩
      · rw [List.map_cons, shown]
      · rw [List.map_cons, places, List.filter_cons_of_pos (by simp [reads])]
      · exact List.forall_mem_cons.mpr ⟨⟨text, reads, first⟩, each⟩

/-- A simple rule of the type array collects on each page what it makes of all nodes there. -/
theorem yield_of_simple {surroundings : Surroundings Stage} {head : RuleHead} (lists : head.shape = .array) {view : View}
    {page : Json} (before : Nat)
    (outcome : readOutcome surroundings.transforms view head (source head []) = .ok page) :
    ∃ entries, page = .array (entries.map Prod.snd) ∧
      Yield.IsFrom surroundings (.mk head none []) before ⟨view, entries⟩ := by
  unfold readOutcome at outcome
  obtain ⟨texts, read, whole⟩ := bind_eq_ok_iff.mp outcome
  rw [lists] at whole
  obtain ⟨values, converts, shown⟩ := bind_eq_ok_iff.mp whole
  cases shown
  cases selects : select? view.document (source head []) with
  | none =>
    have nothing : (Page.ofView view).query (source head []) head.attr head.property = .null := by
      unfold Page.query Page.select
      rw [show (Page.ofView view).source.document = view.document from rfl, selects]
    rw [nothing] at read
    cases read
  | some nodes =>
    rw [textsOf_query (Page.ofView view) selects, show (Page.ofView view).view = view from rfl] at read
    cases read
    obtain ⟨entries, shown, places, each⟩ := exists_entries converts
    refine ⟨entries, by rw [shown], fun _ => ?_, fun grid => (by cases grid), fun entry member => ?_⟩
    · have all : contributors (.mk head none []) view =
          nodes.filter fun node => (view.reading? head.attr head.property node).isSome := by
        show ((select? view.document (source head [])).getD []).filter _ = _
        rw [selects]
        rfl
      rw [all]
      exact places
    · obtain ⟨text, reads, makes⟩ := each entry member
      exact .text reads makes

theorem select?_of_countOn {view : View} {selector : String} {answer : Json} (counted : countOn view selector = .ok answer) :
    ∃ nodes, select? view.document selector = some nodes ∧ answer = .count nodes.length := by
  unfold countOn Page.select at counted
  rw [show (Page.ofView view).source.document = view.document from rfl] at counted
  cases selects : select? view.document selector with
  | none =>
    rw [selects] at counted
    cases counted
  | some nodes =>
    rw [selects] at counted
    cases counted
    exact ⟨nodes, rfl, rfl⟩

theorem contributors_grid {head : RuleHead} {scope : String} (own : head.scope = some scope) (members : List Member)
    (view : View) : contributors (.mk head (some members) []) view =
      (select? view.document (ScopeStack.selector [⟨scope, head.parentScope⟩])).getD [] := by
  show (select? view.document (framed head []).selector).getD [] = _
  unfold framed Rule.frame?
  rw [own]
  rfl

theorem gives_of_row {surroundings : Surroundings Stage} {head : RuleHead} {scope : String}
    (own : head.scope = some scope) {template : List Rule} (others : List Member) {view : View} {nodes : List Nat}
    (selects : select? view.document (ScopeStack.selector [⟨scope, head.parentScope⟩]) = some nodes) {place : Nat}
    (inside : place < nodes.length) (countable : nodes.length < 2 ^ 53) {value : Json}
    (row : (evaluateRules surroundings.setup template []).EndsOn surroundings view [gridFrame head place] (.ok value)
      [gridFrame head place]) :
    Gives surroundings view (.mk head (some (.row template :: others)) []) nodes[place] value := by
  have some_grid : ScopeStack.selector [⟨scope, head.parentScope⟩] ≠ "" := by
    intro blank
    rw [blank, select?_blank] at selects
    cases selects
  have bound : place ≤ Decimal.maxIndex := by
    unfold Decimal.maxIndex
    omega
  have frame : gridFrame head place = rowFrame scope head.parentScope place := by
    rw [gridFrame, own, Option.getD_some]
  refine .row ?_ row
  rw [frame, select?_rowFrame some_grid selects bound, List.getElem?_eq_getElem inside]
  rfl

/-- A grid collects on each page the rows of the nodes behind those that it passes over. -/
theorem yield_of_grid {surroundings : Surroundings Stage} {head : RuleHead} {template : List Rule} (others : List Member)
    {view : View} {value : Nat → Except Failure Json}
    (each : ∀ index, (evaluateRules surroundings.setup template []).EndsOn surroundings view [gridFrame head index]
      (value index) [gridFrame head index])
    (countable : (contributors (.mk head (some (.row template :: others)) []) view).length < 2 ^ 53) {before : Nat}
    {page : Json} (outcome : gridOutcome view head [] value before = .ok page) :
    ∃ entries, page = .array (entries.map Prod.snd) ∧
      Yield.IsFrom surroundings (.mk head (some (.row template :: others)) []) before ⟨view, entries⟩ := by
  obtain ⟨scope, own, answer, counted, rows, collected, rfl⟩ := gridOutcome_eq_ok_iff.mp outcome
  obtain ⟨nodes, selects, rfl⟩ := select?_of_countOn counted
  have there : contributors (.mk head (some (.row template :: others)) []) view = nodes := by
    rw [contributors_grid own, selects]
    rfl
  rw [there] at countable
  rw [rowCount_count countable] at collected
  obtain ⟨fewer, values⟩ := row_of_rowsFrom collected
  have same : ((nodes.drop before).take rows.length).length = rows.length := by
    rw [List.length_take, List.length_drop]
    omega
  refine ⟨((nodes.drop before).take rows.length).zip rows, ?_, fun simple => (by cases simple), fun _ => ?_, ?_⟩
  · rw [List.map_snd_zip (Nat.le_of_eq same.symm)]
  · show (((nodes.drop before).take rows.length).zip rows).map Prod.fst <+: (contributors _ view).drop before
    rw [List.map_fst_zip (Nat.le_of_eq same), there]
    exact List.take_prefix _ _
  · intro entry member
    obtain ⟨place, inside, rfl⟩ := List.mem_iff_getElem.mp member
    rw [List.length_zip, same, Nat.min_self] at inside
    have row := each (before + place)
    rw [values place _ (List.getElem?_eq_getElem inside)] at row
    rw [List.getElem_zip, List.getElem_take, List.getElem_drop]
    exact gives_of_row own others selects (by omega) countable row

/-- The evaluation of a root rule that lists nodes, with what it collects on each view. -/
theorem exists_yields {surroundings : Surroundings Stage} (serves : surroundings.serve = Stage.serve) {rule : Rule}
    (lists : ListsNodes rule) (still : rule.IsStill surroundings.transforms) :
    ∃ evaluation : View → Nat → Except Failure Json,
      (∀ view offset, (evaluateWithin surroundings.setup rule [] offset).run.EndsOn surroundings view
        (evaluation view offset)) ∧
      ∀ view offset page, (contributors rule view).length < 2 ^ 53 → evaluation view offset = .ok page →
        ∃ entries, page = .array (entries.map Prod.snd) ∧ Yield.IsFrom surroundings rule offset ⟨view, entries⟩ := by
  cases lists with
  | @simple head lists =>
    have ignore : ∀ step ∈ head.transforms, step.IgnoresStorage surroundings.transforms := by
      cases still with
      | simple steps => exact steps
    exact ⟨_, endsOn_evaluateWithin_simple serves surroundings.setup ignore,
      fun view offset page _ outcome => yield_of_simple lists offset outcome⟩
  | @grid head template others untransformed =>
    obtain ⟨value, each, evaluates⟩ := exists_gridOutcome serves surroundings.setup untransformed still
    exact ⟨_, evaluates, fun view offset page countable outcome => yield_of_grid others (each view) countable outcome⟩

/-! ### What all pages yield -/

/-- Some of the first views show what a root rule collects behind the entries that there are, and with that it has all. -/
structure Collects (surroundings : Surroundings Stage) (rule : Rule) (views : List View) (before : List Json)
    (collected : Json) (yields : List Yield) : Prop where
  shown : yields.map Yield.view <+: views
  gathers : Gathers surroundings rule before.length yields
  all : collected = .array (before ++ (yields.flatMap Yield.entries).map Prod.snd)

section

variable {surroundings : Surroundings Stage} {rule : Rule}

theorem Collects.stop (views : List View) {before : List Json} {collected : Json}
    (ends : Except.ok (Json.array before) = (Except.ok collected : Except Failure Json)) :
    Collects surroundings rule views before collected [] := by
  cases ends
  exact ⟨List.nil_prefix, .nil, by simp⟩

theorem Collects.cons {view : View} {views : List View} {before : List Json} {collected : Json}
    {entries : List (Nat × Json)} {yields : List Yield}
    (here : Yield.IsFrom surroundings rule before.length ⟨view, entries⟩)
    (behind : Collects surroundings rule views (before ++ entries.map Prod.snd) collected yields) :
    Collects surroundings rule (view :: views) before collected (⟨view, entries⟩ :: yields) := by
  have gathers := behind.gathers
  rw [List.length_append, List.length_map] at gathers
  refine ⟨?_, .cons here gathers, ?_⟩
  · rw [List.map_cons]
    exact List.cons_prefix_cons.mpr ⟨rfl, behind.shown⟩
  · rw [behind.all, List.flatMap_cons, List.map_append, List.append_assoc]

/-- On the way through the views that scrolling shows, entries are collected behind those that there are. -/
theorem collects_of_harvest {evaluation : View → Nat → Except Failure Json} {pagination : Pagination}
    {scope : Option String} (scrolls : pagination.turn = .scroll scope) {view : View} {feed : List View}
    (lists : ∀ view ∈ feed, ∀ offset page, evaluation view offset = .ok page →
      ∃ entries, page = .array (entries.map Prod.snd) ∧ Yield.IsFrom surroundings rule offset ⟨view, entries⟩)
    {seen : Nat} {before : List Json} {collected : Json}
    (harvested : harvest evaluation pagination scope seen view feed (.array before) = .ok collected) :
    ∃ yields, Collects surroundings rule feed before collected yields := by
  induction feed generalizing view seen before with
  | nil => exact ⟨[], .stop [] harvested⟩
  | cons next feed inductionHypothesis =>
    rw [harvest] at harvested
    split at harvested
    · exact ⟨[], .stop _ harvested⟩
    · split at harvested
      · obtain ⟨page, evaluated, rest⟩ := bind_eq_ok_iff.mp harvested
        rw [offsetOf_array scrolls] at evaluated
        obtain ⟨entries, rfl, here⟩ := lists next List.mem_cons_self _ _ evaluated
        obtain ⟨yields, behind⟩ := inductionHypothesis (fun view member => lists view (List.mem_cons_of_mem _ member)) rest
        exact ⟨_, .cons here behind⟩
      · exact ⟨[], .stop _ harvested⟩

/-- A parse collects something on the first view, and then on some of those that scrolling shows. -/
theorem collects_of_harvestAll {evaluation : View → Nat → Except Failure Json} {pagination : Pagination}
    {scope : Option String} (scrolls : pagination.turn = .scroll scope) {page : Page}
    (lists : ∀ view ∈ page.view :: coming page, ∀ offset shown, evaluation view offset = .ok shown →
      ∃ entries, shown = .array (entries.map Prod.snd) ∧ Yield.IsFrom surroundings rule offset ⟨view, entries⟩)
    {collected : Json} (harvested : harvestAll evaluation pagination scope page = .ok collected) :
    ∃ first yields, Collects surroundings rule (page.view :: coming page) [] collected (first :: yields) := by
  obtain ⟨shown, evaluated, rest⟩ := bind_eq_ok_iff.mp harvested
  obtain ⟨entries, rfl, here⟩ := lists page.view List.mem_cons_self 0 shown evaluated
  obtain ⟨yields, behind⟩ := collects_of_harvest scrolls
    (fun view member => lists view (List.mem_cons_of_mem _ member)) rest
  exact ⟨_, yields, .cons here behind⟩

/-! ### Nodes that come back -/

theorem nodup_contributors (rule : Rule) (view : View) : (contributors rule view).Nodup := by
  have once : ∀ text, ((select? view.document text).getD []).Nodup := by
    intro text
    cases selects : select? view.document text with
    | none => exact List.nodup_nil
    | some nodes =>
      have some_text : text.toList ≠ [] := by
        intro none
        rw [String.toList_eq_nil_iff.mp none, select?_blank] at selects
        cases selects
      rw [select?_of_reach? some_text] at selects
      exact (ordered_reach? some_text selects).imp Nat.ne_of_lt
  unfold contributors
  cases rule.members with
  | some members => exact once _
  | none => exact (once _).filter _

/-- The nodes of a grid are on each page those behind the ones that have been there before. -/
theorem Gathers.nodup_of_grid (grid : rule.members.isSome) {before : Nat} {yields : List Yield}
    (gathers : Gathers surroundings rule before yields) {front : List Nat} (length : front.length = before)
    (unrepeated : front.Nodup) (goesOn : ∀ yield ∈ yields.head?, front <+: contributors rule yield.view)
    (keeps : (yields.map Yield.view).IsChain fun former later => contributors rule former <+: contributors rule later) :
    (front ++ yields.flatMap Yield.nodes).Nodup := by
  -- the nodes of all entries so far are the first ones of what the rule matches on the page that is shown
  induction gathers generalizing front with
  | nil => simpa using unrepeated
  | @cons before yield yields here _ inductionHypothesis =>
    obtain ⟨rest, all⟩ := goesOn yield rfl
    have added := here.grid grid
    rw [← all, ← length, List.drop_left] at added
    have joined : front ++ yield.nodes <+: contributors rule yield.view := by
      rw [← all]
      exact (List.prefix_append_right_inj front).mpr added
    rw [List.flatMap_cons, ← List.append_assoc]
    apply inductionHypothesis
    · rw [List.length_append, length, Yield.nodes, List.length_map]
    · exact (nodup_contributors rule yield.view).sublist joined.sublist
    · intro later first
      cases yields with
      | nil => cases first
      | cons next yields =>
        cases first
        exact joined.trans (List.isChain_cons_cons.mp keeps).1
    · exact keeps.tail

/-- A simple rule comes back to each node on each page. -/
theorem Gathers.nodup_iff_of_simple (simple : rule.members = none) {before : Nat} {yields : List Yield}
    (gathers : Gathers surroundings rule before yields)
    (keeps : (yields.map Yield.view).IsChain fun former later => contributors rule former <+: contributors rule later) :
    (yields.flatMap Yield.nodes).Nodup ↔ ∀ yield ∈ yields.dropLast, contributors rule yield.view = [] := by
  induction gathers with
  | nil => simp
  | @cons before yield yields here behind inductionHypothesis =>
    have own := here.simple simple
    cases behind with
    | nil => simp [own, nodup_contributors]
    | @cons _ next yields after _ =>
      have kept : yield.nodes <+: next.nodes := by
        rw [own, after.simple simple]
        exact (List.isChain_cons_cons.mp keeps).1
      have rest := inductionHypothesis keeps.tail
      rw [List.dropLast_cons_cons, List.forall_mem_cons, ← rest, ← own, List.flatMap_cons]
      -- a node of this page is there on the next one too
      constructor
      · intro once
        obtain ⟨_, later, apart⟩ := List.nodup_append.mp once
        refine ⟨List.eq_nil_iff_forall_not_mem.mpr fun node member => ?_, later⟩
        have again : node ∈ (next :: yields).flatMap Yield.nodes :=
          List.mem_flatMap.mpr ⟨next, List.mem_cons_self, kept.subset member⟩
        exact apart node member node again rfl
      · rintro ⟨none, once⟩
        rw [none]
        exact once

/-- How often a node gives an entry of the array that a parse with scroll pagination collects. If the pages keep what the
rule matched before as the first of what it matches, then all entries come from different nodes if and only if the rule is
a grid, or none of the pages before the last one that was reached had anything for it. Where appended nodes change what is
matched before them, a grid can come back to a node, too. -/
theorem nodes_give_one_entry_iff (serves : surroundings.serve = Stage.serve) {world : World Stage} (quiet : world.IsQuiet)
    (unfixed : world.state.fixed = []) (records : Records) (lists : ListsNodes rule)
    (still : rule.IsStill surroundings.transforms) {pagination : Pagination} {scope : Option String}
    (scrolls : pagination.turn = .scroll scope)
    (timed : (pagination.probeOptions surroundings.setup).timeout ≤ Decimal.maxIndex)
    (readable : world.state.page.feed.length ≤ Decimal.maxIndex)
    (countable : ∀ view ∈ world.state.page.view :: coming world.state.page, (contributors rule view).length < 2 ^ 53)
    {collected : Json} (parsed : (world.run surroundings records
      (parse surroundings.setup { rules := rule, pagination := some pagination })).2 = .ok collected) :
    ∃ first yields,
      Collects surroundings rule (world.state.page.view :: coming world.state.page) [] collected (first :: yields) ∧
      ((world.state.page.view :: coming world.state.page).IsChain (fun former later =>
          contributors rule former <+: contributors rule later) →
        (((first :: yields).flatMap Yield.nodes).Nodup ↔
          rule.members.isSome ∨ ∀ yield ∈ (first :: yields).dropLast, contributors rule yield.view = [])) := by
  obtain ⟨evaluation, evaluates, each⟩ := exists_yields serves lists still
  rw [run_parse serves quiet unfixed records scrolls timed readable evaluates] at parsed
  obtain ⟨first, yields, collects⟩ := collects_of_harvestAll scrolls
    (fun view member offset shown => each view offset shown (countable view member)) parsed
  refine ⟨first, yields, collects, fun keeps => ?_⟩
  have gathers := collects.gathers
  obtain ⟨later, views⟩ := collects.shown
  rw [← views] at keeps
  have kept := (List.isChain_append.mp keeps).1
  cases members : rule.members with
  | some _ =>
    have grid : rule.members.isSome := by
      rw [members]
      rfl
    have once := gathers.nodup_of_grid grid rfl List.nodup_nil (fun _ _ => List.nil_prefix) kept
    exact iff_of_true once (.inl rfl)
  | none =>
    rw [gathers.nodup_iff_of_simple members kept]
    simp

def oddParagraphs : Rule :=
  .mk { scope := some "p:nth-last-child(odd)" } (some [.row [.mk { name := some "text" } none []]]) []

/-- A third child lets the filter match the first one, so the node that has given a row is the second one that is matched,
and the grid passes over the first one only. -/
example : contributors oddParagraphs ⟨(PageSource.ofText "<div><p>a</p><div><p>b</p></div></div>").document, []⟩ = [8] ∧
    (contributors oddParagraphs ⟨(PageSource.ofText "<div><p>a</p><div><p>b</p></div><p>c</p></div>").document,
      []⟩).drop 1 = [8, 10] := by
  decide +kernel

end

/-- A page with a list that grows when it is scrolled. -/
def itemWorld : World Stage where
  state := { page := {
    source := .ofText "<ul><li>a</li></ul>"
    feed := [.ofText "<ul><li>a</li><li>b</li></ul>"] } }
  channel := Channel.ofCapacity 1
  storages := #[{}]
  ledgers := #[{}]

def itemTexts : Rule :=
  .mk { scope := some "li", shape := .array } none []

/-- What comes of listing the items on two pages. -/
def itemsCollected : Except Failure Json :=
  (itemWorld.run plainSurroundings ⟨0, 0⟩
    (parse plainSurroundings.setup { rules := itemTexts, pagination := some { turn := .scroll none, maxPages := some 2 } })).2

def textsOfList? : Except Failure Json → Option (List (Option String))
  | .ok (.array items) => some (items.map Json.text?)
  | _ => none

/-- The first item is listed twice: there are two items, and three entries. -/
theorem first_item_listed_twice :
    textsOfList? itemsCollected = some [some "a", some "a", some "b"] ∧
      contributors itemTexts itemWorld.state.page.view = [5] ∧
      (coming itemWorld.state.page).map (contributors itemTexts) = [[5, 7]] := by
  decide +kernel

theorem isStill_itemTexts : itemTexts.IsStill Transform.standard := by
  apply Rule.IsStill.simple
  simp

def scrolledItems : View :=
  ⟨(PageSource.ofText "<ul><li>a</li><li>b</li></ul>").document, []⟩

theorem coming_itemWorld : coming itemWorld.state.page = [scrolledItems] := rfl

/-- The items of the first page come back on the second one, since the first page has some. -/
theorem items_of_itemWorld : ∃ collected first yields, itemsCollected = .ok collected ∧
    Collects plainSurroundings itemTexts (itemWorld.state.page.view :: coming itemWorld.state.page) [] collected
      (first :: yields) ∧
    (((first :: yields).flatMap Yield.nodes).Nodup ↔
      itemTexts.members.isSome ∨ ∀ yield ∈ (first :: yields).dropLast, contributors itemTexts yield.view = []) := by
  have succeeds : Except.isOk itemsCollected = true := by decide +kernel
  have before : contributors itemTexts itemWorld.state.page.view = [5] := by decide +kernel
  have behind : contributors itemTexts scrolledItems = [5, 7] := by decide +kernel
  have countable : ∀ view ∈ itemWorld.state.page.view :: coming itemWorld.state.page,
      (contributors itemTexts view).length < 2 ^ 53 := by
    rw [coming_itemWorld, List.forall_mem_cons, List.forall_mem_singleton, before, behind]
    decide
  have keeps : (itemWorld.state.page.view :: coming itemWorld.state.page).IsChain fun former later =>
      contributors itemTexts former <+: contributors itemTexts later := by
    rw [coming_itemWorld]
    refine .cons_cons ?_ (.singleton _)
    rw [before, behind]
    decide
  cases parsed : itemsCollected with
  | error failure =>
    rw [parsed] at succeeds
    cases succeeds
  | ok collected =>
    obtain ⟨first, yields, collects, once⟩ := @nodes_give_one_entry_iff plainSurroundings itemTexts rfl itemWorld
      ⟨rfl, rfl⟩ rfl ⟨0, 0⟩ (.simple rfl) isStill_itemTexts { turn := .scroll none, maxPages := some 2 } none rfl
      (Nat.le_of_ble_eq_true rfl) (Nat.le_of_ble_eq_true rfl) countable collected parsed
    exact ⟨collected, first, yields, rfl, collects, once keeps⟩

end Run

end Harvest
