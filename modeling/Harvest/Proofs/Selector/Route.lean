import Harvest.Proofs.Selector.Nesting
import Harvest.Proofs.Selector.Walk

/-!
Contract: selectors with filters that are read step by step.

A route is a selector without commas: chains of compounds, with filters between them. It tells a walk, from the elements
that meet its first compound on. What is selected is told chain by chain: of a chain behind a filter, it is the last
compound that has to stand to the element kept as the chain does, where the walk asks it of the first one. For chains of
one compound that is the same. `selects_as_walked_iff` says when it is the same for others.
-/

namespace Harvest.Selector

open Markup

/-! ### Routes -/

/-- The only alternative of a text, if that relates compounds as descendants and children. -/
def plain? (text : List Char) : Option Complex :=
  match read? text with
  | some ⟨[complex]⟩ => if complex.isPlain then some complex else none
  | _ => none

theorem read?_of_plain? {text : List Char} {complex : Complex} (plain : plain? text = some complex) :
    read? text = some ⟨[complex]⟩ ∧ complex.isPlain = true := by
  unfold plain? at plain
  split at plain
  · rename_i only read
    split at plain
    · rename_i isPlain
      cases plain
      exact ⟨read, isPlain⟩
    · cases plain
  · cases plain

/-- A text of compounds that are related as descendants and children, without a filter. -/
structure Chain where
  text : String
  trimmed : Text.trimChars text.toList = text.toList
  unfiltered : nextFilter? text.toList = none
  plain : (plain? text.toList).isSome

/-- A white space. -/
abbrev Blank := {character : Char // Text.isBlank character = true}

/-- How a chain stands to the element that the filter in front of it keeps: inside it, directly inside it, or glued to
the filter. -/
inductive Lead where
  | inside (first : Blank) (others : List Blank)
  | directlyInside (before after : List Blank)
  | glued

structure Filter where
  inside : String
  index : Nat
  closed : ')' ∉ inside.toList
  reads : Decimal.readIndex? (Text.trimChars inside.toList) = some index

/-- A filter, with the chain behind it unless a further filter or nothing stands there. -/
structure Leg where
  filter : Filter
  onward : Option (Lead × Chain)

/-- A chain, and filters with further chains behind it. -/
structure Route where
  first : Chain
  legs : List Leg

/-! ### What routes say -/

namespace Chain

def complex (chain : Chain) : Complex :=
  (plain? chain.text.toList).get chain.plain

theorem reads (chain : Chain) : read? chain.text.toList = some ⟨[chain.complex]⟩ ∧ chain.complex.isPlain = true :=
  read?_of_plain? (Option.some_get chain.plain).symm

end Chain

namespace Lead

def text : Lead → List Char
  | .inside first others => (first :: others).map (·.val)
  | .directlyInside before after => before.map (·.val) ++ '>' :: after.map (·.val)
  | .glued => []

def move (tests : List Simple) : Lead → Move
  | .inside _ _ => .inside tests
  | .directlyInside _ _ => .directlyInside tests
  | .glued => .also tests

/-- Whether a node stands to an element as the chain does. -/
def relates (document : Document) (outer node : Nat) : Lead → Bool
  | .inside _ _ => document.isInside node outer
  | .directlyInside _ _ => document.parent? node == some outer
  | .glued => node == outer

/-- The element at which the search for a chain begins. -/
def scope (outer : Nat) : Lead → Option Nat
  | .inside _ _ => some outer
  | .directlyInside _ _ => none
  | .glued => none

end Lead

namespace Leg

def onwardText (leg : Leg) : List Char :=
  match leg.onward with
  | none => []
  | some (lead, chain) => lead.text ++ chain.text.toList

def text (leg : Leg) : List Char :=
  filterMark ++ (leg.filter.inside.toList ++ ')' :: leg.onwardText)

def moves (leg : Leg) : List Move :=
  .only leg.filter.index :: match leg.onward with
    | none => []
    | some (lead, chain) => lead.move chain.complex.first :: chain.complex.moves

/-- What a leg finds from elements reached: the element kept, or what matches the chain as a whole and stands to that
element as the chain does. -/
def found (document : Document) (reached : List Nat) (leg : Leg) : List Nat :=
  match leg.onward with
  | none => reached[leg.filter.index]?.toList
  | some (lead, chain) => document.elements.filter fun node => reached[leg.filter.index]?.any fun outer =>
    lead.relates document outer node && chain.complex.holds document (lead.scope outer) node

/-- A leg leads straight on from an element: what matches its chain as a whole, and stands to the element as the chain does,
is just what the steps of the chain lead to from there. -/
def IsStraight (document : Document) (outer : Nat) (leg : Leg) : Prop :=
  ∀ lead chain, leg.onward = some (lead, chain) → ∀ node,
    (lead.relates document outer node = true ∧ chain.complex.holds document (lead.scope outer) node = true) ↔
      chain.complex.leadsFrom document (fun start => lead.relates document outer start) node = true

/-- The chain behind the filter is one compound, which does not ask where the search began. -/
def IsSingle (leg : Leg) : Prop :=
  ∀ lead chain, leg.onward = some (lead, chain) →
    ∃ tests, chain.complex = .compound tests ∧ someTestAsksScope tests = false

end Leg

namespace Route

def text (route : Route) : String :=
  String.ofList (route.first.text.toList ++ route.legs.flatMap Leg.text)

def upTo (count : Nat) (route : Route) : Route :=
  { route with legs := route.legs.take count }

def moves (route : Route) : List Move :=
  route.first.complex.moves ++ route.legs.flatMap Leg.moves

/-- The elements that a route leads to step by step. -/
def walked (document : Document) (route : Route) : List Nat :=
  walk document route.moves (document.elements.filter (meets document route.first.complex.first))

/-- The elements that the first chain of a route matches, and from there what its legs find. -/
def found (document : Document) (route : Route) : List Nat :=
  route.legs.foldl (Leg.found document) (document.elements.filter (route.first.complex.holds document none))

end Route

/-! ### The pieces of a route -/

theorem nextFilter?_behind {front text : List Char} (other : ∀ character ∈ front, character ≠ ':')
    (unfiltered : nextFilter? text = none) : nextFilter? (front ++ text) = none := by
  induction front with
  | nil => exact unfiltered
  | cons first front inductionHypothesis =>
    rw [List.cons_append, nextFilter?_cons_of_none (filterHere?_other (other first List.mem_cons_self) _),
      inductionHypothesis fun character member => other character (List.mem_cons_of_mem _ member)]
    rfl

theorem Blank.ne (blank : Blank) {mark : Char} (visible : Text.isBlank mark = false) : blank.val ≠ mark := by
  intro same
  exact Bool.false_ne_true (visible.symm.trans (same ▸ blank.property))

theorem Lead.ne_of_mem_text {lead : Lead} {character : Char} (member : character ∈ lead.text) : character ≠ ':' := by
  have blanks : ∀ others : List Blank, character ∈ others.map (·.val) → character ≠ ':' := by
    intro others among
    obtain ⟨blank, _, rfl⟩ := List.mem_map.mp among
    exact blank.ne (by decide)
  cases lead with
  | inside first others => exact blanks (first :: others) member
  | directlyInside before after =>
    rcases List.mem_append.mp member with front | behind
    · exact blanks before front
    · rcases List.mem_cons.mp behind with rfl | back
      · decide
      · exact blanks after back
  | glued => cases member

namespace Leg

theorem unfiltered_onwardText (leg : Leg) : nextFilter? leg.onwardText = none := by
  unfold onwardText
  split
  · rfl
  · rename_i lead chain _
    exact nextFilter?_behind (fun _ => lead.ne_of_mem_text) chain.unfiltered

def pieces (text : List Char) : List Leg → List Piece
  | [] => if text.isEmpty then [] else [⟨text, none⟩]
  | leg :: legs => ⟨text, some leg.filter.index⟩ :: pieces leg.onwardText legs

/-- A text is cut at the filters of the legs behind it, and nowhere else. -/
theorem pieces_of_legs {text : List Char} (unfiltered : nextFilter? text = none) {legs : List Leg}
    (some_text : text ++ legs.flatMap Leg.text ≠ []) :
    Selector.pieces (text ++ legs.flatMap Leg.text) = pieces text legs := by
  induction legs generalizing text with
  | nil =>
    rw [List.flatMap_nil, List.append_nil] at some_text ⊢
    rw [pieces_of_none unfiltered, pieces, List.isEmpty_eq_false_iff.mpr some_text]
    rfl
  | cons leg legs inductionHypothesis =>
    have written : (leg :: legs).flatMap Leg.text =
        filterMark ++ (leg.filter.inside.toList ++ ')' :: (leg.onwardText ++ legs.flatMap Leg.text)) := by
      rw [List.flatMap_cons, Leg.text]
      simp
    have here : nextFilter? ((leg :: legs).flatMap Leg.text) =
        some ([], leg.filter.index, leg.onwardText ++ legs.flatMap Leg.text) := by
      rw [written]
      exact nextFilter?_cons_of_some (filterHere?_inside leg.filter.closed leg.filter.reads _)
    have apart : Apart ((leg :: legs).flatMap Leg.text) := written ▸ apart_filter (List.forall_mem_nil _) _
    have cut : nextFilter? (text ++ (leg :: legs).flatMap Leg.text) =
        some (text, leg.filter.index, leg.onwardText ++ legs.flatMap Leg.text) := by
      rw [nextFilter?_append_of_none apart unfiltered, here]
      simp
    rw [pieces_of_some cut, pieces]
    congr 1
    -- a filter at the very end is followed by no piece at all, also not by an empty one
    by_cases ends : leg.onwardText ++ legs.flatMap Leg.text = []
    · rw [ends]
      obtain ⟨nothing, none⟩ := List.append_eq_nil_iff.mp ends
      cases legs with
      | nil => rw [nothing, pieces]; rfl
      | cons next legs => cases none
    · rw [List.isEmpty_eq_false_iff.mpr ends, if_neg Bool.false_ne_true]
      exact inductionHypothesis leg.unfiltered_onwardText ends

end Leg

/-! ### What legs find -/

theorem eq_filter_elements {document : Document} {nodes : List Nat} (ordered : nodes.Pairwise (· < ·)) {test : Nat → Bool}
    (members : ∀ node, node ∈ nodes ↔ document.isElement node = true ∧ test node = true) :
    nodes = document.elements.filter test := by
  refine ordered.eq_of_mem_iff (Document.ordered_filter document.ordered_elements test) fun node => ?_
  rw [List.mem_filter, Document.mem_elements]
  exact members node

/-- Tests that elements only pass let the same elements through exactly if they are the same. -/
theorem filter_elements_eq_iff {document : Document} {test other : Nat → Bool}
    (element : ∀ node, test node = true → document.isElement node = true)
    (elementToo : ∀ node, other node = true → document.isElement node = true) :
    document.elements.filter test = document.elements.filter other ↔ ∀ node, test node = true ↔ other node = true := by
  constructor
  · intro same node
    have members : node ∈ document.elements.filter test ↔ node ∈ document.elements.filter other := by rw [same]
    rw [List.mem_filter, List.mem_filter, Document.mem_elements] at members
    exact ⟨fun passes => (members.mp ⟨element node passes, passes⟩).2,
      fun passes => (members.mpr ⟨elementToo node passes, passes⟩).2⟩
  · exact fun same => List.filter_congr fun node _ => Bool.eq_iff_iff.mpr (same node)

theorem isElement_of_holds {document : Document} {scope : Option Nat} {node : Nat} {complex : Complex}
    (holds : complex.holds document scope node = true) : document.isElement node = true :=
  Document.mem_elements.mp (mem_elements_of_holds holds)

theorem holds_single (document : Document) (scope : Option Nat) (node : Nat) (complex : Complex) :
    Selector.holds ⟨[complex]⟩ document scope node = complex.holds document scope node := by
  rw [Selector.holds, anyOption, anyOption, Bool.or_false]

theorem trimChars_behind_blanks (blanks : List Blank) {text : List Char} (trimmed : Text.Trimmed text) :
    Text.trimChars (blanks.map (·.val) ++ text) = text := by
  have blank : ∀ character ∈ blanks.map (·.val), Text.isBlank character = true := by
    intro character member
    obtain ⟨blank, _, rfl⟩ := List.mem_map.mp member
    exact blank.property
  have between := trimmed.trimChars_between blank (List.forall_mem_nil _)
  rwa [List.append_nil] at between

namespace Chain

theorem isTrimmed (chain : Chain) : Text.Trimmed chain.text.toList := by
  have trimmed := Text.trimmed_or_nil chain.text.toList
  rw [chain.trimmed] at trimmed
  refine trimmed.resolve_right fun empty => ?_
  have reads := chain.reads.1
  rw [empty, read?_nil] at reads
  cases reads

/-- A chain begins with something visible that is no mark of a child. -/
theorem exists_first (chain : Chain) :
    ∃ first others, chain.text.toList = first :: others ∧ first ≠ '>' ∧ Text.isBlank first = false := by
  obtain ⟨first, others, shape, visible⟩ := chain.isTrimmed.starts
  refine ⟨first, others, shape, ?_, visible⟩
  have starts := startsCompound_of_read? (shape ▸ chain.reads.1)
  rintro rfl
  exact absurd starts (by decide)

theorem trimChars_behind (chain : Chain) (blanks : List Blank) :
    Text.trimChars (blanks.map (·.val) ++ chain.text.toList) = chain.text.toList :=
  trimChars_behind_blanks blanks chain.isTrimmed

theorem trimChars_directlyInside (chain : Chain) (before after : List Blank) :
    Text.trimChars ((Lead.directlyInside before after).text ++ chain.text.toList) =
      '>' :: (after.map (·.val) ++ chain.text.toList) := by
  have mark : Text.Trimmed ['>'] := ⟨⟨'>', [], rfl, by decide⟩, ⟨[], '>', rfl, by decide⟩⟩
  have trimmed := trimChars_behind_blanks before (mark.append chain.isTrimmed (after.map (·.val)))
  rw [List.append_assoc] at trimmed
  rw [Lead.text, List.append_assoc]
  exact trimmed

end Chain

namespace Leg

/-- A chain behind a filter leads to what it matches as a whole and what stands to the element kept as the chain does. -/
theorem exists_narrow? (document : Document) (kept : Option Nat) (lead : Lead) (chain : Chain) :
    ∃ next, narrow? document kept.toList (lead.text ++ chain.text.toList) = some next ∧ ∀ node, node ∈ next ↔
      ∃ outer, kept = some outer ∧ lead.relates document outer node = true ∧
        chain.complex.holds document (lead.scope outer) node = true := by
  obtain ⟨reads, _⟩ := chain.reads
  obtain ⟨first, others, shape, notChild, visible⟩ := chain.exists_first
  cases lead with
  | inside blank blanks =>
    refine ⟨kept.toList.flatMap (Selector.matchedInside ⟨[chain.complex]⟩ document), ?_, fun node => ?_⟩
    · have trimmed : Text.trimChars ((Lead.inside blank blanks).text ++ chain.text.toList) = first :: others :=
        (chain.trimChars_behind (blank :: blanks)).trans shape
      have spaced : ((Lead.inside blank blanks).text ++ chain.text.toList).head?.map Text.isBlank = some true :=
        congrArg some blank.property
      rw [narrow?_other trimmed notChild, ← shape, reads, spaced]
      rfl
    · simp only [List.mem_flatMap, Option.mem_toList, matchedInside, List.mem_filter,
        Document.mem_descendants, holds_single]
      constructor
      · rintro ⟨outer, keeps, ⟨inside, _⟩, holds⟩
        exact ⟨outer, keeps, inside, holds⟩
      · rintro ⟨outer, keeps, inside, holds⟩
        exact ⟨outer, keeps, ⟨inside, isElement_of_holds holds⟩, holds⟩
  | directlyInside before after =>
    refine ⟨kept.toList.flatMap (Selector.matchedChildren ⟨[chain.complex]⟩ document), ?_, fun node => ?_⟩
    · rw [narrow?_child (chain.trimChars_directlyInside before after), chain.trimChars_behind after, reads]
      rfl
    · simp only [List.mem_flatMap, Option.mem_toList, matchedChildren, Document.childElements,
        List.mem_filter, Document.mem_children, holds_single]
      constructor
      · rintro ⟨outer, keeps, ⟨lies, _⟩, holds⟩
        exact ⟨outer, keeps, beq_iff_eq.mpr lies, holds⟩
      · rintro ⟨outer, keeps, lies, holds⟩
        exact ⟨outer, keeps, ⟨beq_iff_eq.mp lies, isElement_of_holds holds⟩, holds⟩
  | glued =>
    refine ⟨kept.toList.filter (Selector.holds ⟨[chain.complex]⟩ document none), ?_, fun node => ?_⟩
    · have unspaced : (chain.text.toList.head?.map Text.isBlank).getD false = false := by
        rw [shape]
        exact visible
      rw [show Lead.glued.text ++ chain.text.toList = chain.text.toList from rfl,
        narrow?_other (chain.isTrimmed.trimChars_eq.trans shape) notChild, unspaced, ← shape, reads]
      rfl
    · simp only [List.mem_filter, Option.mem_toList, holds_single]
      constructor
      · rintro ⟨keeps, holds⟩
        exact ⟨node, keeps, beq_self_eq_true node, holds⟩
      · rintro ⟨outer, keeps, same, holds⟩
        obtain rfl := beq_iff_eq.mp same
        exact ⟨keeps, holds⟩

/-- What stands behind the filter of a leg leads to what the leg finds. -/
theorem narrow?_onwardText (document : Document) (reached : List Nat) (leg : Leg) :
    narrow? document (keepAt (some leg.filter.index) reached) leg.onwardText = some (leg.found document reached) := by
  unfold onwardText found
  split
  · exact narrow?_of_blank rfl document _
  · rename_i lead chain _
    obtain ⟨next, narrowed, members⟩ := exists_narrow? document reached[leg.filter.index]? lead chain
    refine narrowed.trans (congrArg some (eq_filter_elements
      (ordered_narrow? (length_keepAt_le leg.filter.index reached) narrowed) fun node => ?_))
    rw [members, Option.any_eq_true]
    constructor
    · rintro ⟨outer, keeps, relates, holds⟩
      exact ⟨isElement_of_holds holds, outer, keeps, Bool.and_eq_true_iff.mpr ⟨relates, holds⟩⟩
    · rintro ⟨_, outer, keeps, both⟩
      exact ⟨outer, keeps, Bool.and_eq_true_iff.mp both⟩

theorem follow?_pieces (document : Document) (legs : List Leg) (leg : Leg) (reached : List Nat) :
    follow? document (pieces leg.onwardText legs) (keepAt (some leg.filter.index) reached) =
      some (legs.foldl (found document) (leg.found document reached)) := by
  induction legs generalizing leg reached with
  | nil =>
    have narrowed := narrow?_onwardText document reached leg
    rw [pieces]
    split
    · rename_i empty
      rw [List.isEmpty_iff.mp empty, narrow?_of_blank rfl] at narrowed
      exact narrowed
    · rw [follow?, narrowed]
      rfl
  | cons next legs inductionHypothesis =>
    rw [pieces, follow?, narrow?_onwardText, Option.bind_some]
    exact inductionHypothesis next (leg.found document reached)

end Leg

namespace Route

theorem toList_text (route : Route) : route.text.toList = route.first.text.toList ++ route.legs.flatMap Leg.text :=
  String.toList_ofList

theorem toList_text_ne_nil (route : Route) : route.text.toList ≠ [] := by
  rw [toList_text]
  exact fun empty => route.first.isTrimmed.ne_nil (List.append_eq_nil_iff.mp empty).1

/-- A route selects what its chains find. -/
theorem select?_eq_found (document : Document) (route : Route) :
    select? document route.text = some (route.found document) := by
  have trimmed := route.first.isTrimmed
  have some_text := route.toList_text_ne_nil
  have matched : Selector.matched ⟨[route.first.complex]⟩ document =
      document.elements.filter (route.first.complex.holds document none) :=
    congrArg (List.filter · document.elements) (funext fun node => holds_single document none node _)
  rw [select?_of_reach? some_text]
  rw [toList_text] at some_text ⊢
  rw [Leg.pieces_of_legs route.first.unfiltered some_text, Route.found]
  cases route.legs with
  | nil =>
    rw [Leg.pieces, List.isEmpty_eq_false_iff.mpr trimmed.ne_nil, if_neg Bool.false_ne_true, reach?,
      trimmed.trimChars_eq, route.first.reads.1, Option.bind_some, matched]
    rfl
  | cons leg legs =>
    rw [Leg.pieces, reach?, trimmed.trimChars_eq, route.first.reads.1, Option.bind_some, matched]
    exact Leg.follow?_pieces document legs leg _

theorem ordered_found (document : Document) (route : Route) : (route.found document).Pairwise (· < ·) := by
  have some_text := route.toList_text_ne_nil
  exact ordered_reach? some_text ((select?_of_reach? some_text).symm.trans (select?_eq_found document route))

end Route

/-! ### Where routes lead -/

namespace Leg

/-- The move to a chain goes on from the element kept to what stands to it as the chain does. -/
theorem next_move (document : Document) (kept : Option Nat) (tests : List Simple) (lead : Lead) :
    (lead.move tests).next document kept.toList =
      document.elements.filter fun node => meets document tests node && kept.any fun outer => lead.relates document outer node := by
  cases lead with
  | inside blank blanks => cases kept <;> simp [Lead.move, Move.next, Lead.relates]
  | directlyInside before after => cases kept <;> simp [Lead.move, Move.next, Lead.relates]
  | glued =>
    refine eq_filter_elements (Document.ordered_filter (ordered_of_single (by cases kept <;> simp)) _) fun node => ?_
    rw [List.mem_filter, Option.mem_toList, Bool.and_eq_true, Option.any_eq_true]
    constructor
    · rintro ⟨keeps, passes⟩
      exact ⟨(Bool.and_eq_true_iff.mp passes).1, passes, node, keeps, beq_self_eq_true node⟩
    · rintro ⟨_, passes, outer, keeps, same⟩
      obtain rfl := beq_iff_eq.mp same
      exact ⟨keeps, passes⟩

/-- A leg leads to what the steps of its chain lead to from the element kept. -/
theorem walk_moves (document : Document) (reached : List Nat) (leg : Leg) :
    walk document leg.moves reached = match leg.onward with
      | none => reached[leg.filter.index]?.toList
      | some (lead, chain) => document.elements.filter fun node => reached[leg.filter.index]?.any fun outer =>
        chain.complex.leadsFrom document (fun start => lead.relates document outer start) node := by
  unfold moves
  split
  · rfl
  · rename_i lead chain _
    have begins := next_move document reached[leg.filter.index]? chain.complex.first lead
    have leads := walk_complex document (fun start => reached[leg.filter.index]?.any fun outer =>
      lead.relates document outer start) chain.reads.2
    rw [← begins] at leads
    refine leads.trans (List.filter_congr fun node _ => ?_)
    cases reached[leg.filter.index]? with
    | none => exact leadsFrom_nowhere document chain.complex node
    | some outer => rfl

/-- A leg finds what it leads to exactly if it leads straight on from the element kept. -/
theorem found_eq_walk_iff (document : Document) (reached : List Nat) (leg : Leg) :
    leg.found document reached = walk document leg.moves reached ↔
      ∀ outer, reached[leg.filter.index]? = some outer → leg.IsStraight document outer := by
  rw [walk_moves]
  unfold found IsStraight
  cases leg.onward with
  | none => exact ⟨fun _ outer _ lead chain absent => (nomatch absent), fun _ => rfl⟩
  | some onward =>
    obtain ⟨lead, chain⟩ := onward
    cases reached[leg.filter.index]? with
    | none => exact ⟨fun _ outer absent => (nomatch absent), fun _ => rfl⟩
    | some kept =>
      -- both lists are of elements in document order, so they are the same if their tests are
      refine (filter_elements_eq_iff (fun node both => isElement_of_holds (Bool.and_eq_true_iff.mp both).2)
        fun node => isElement_of_leadsFrom).trans ?_
      constructor
      · intro same outer keeps lead' chain' behind node
        cases keeps
        cases behind
        exact Bool.and_eq_true_iff.symm.trans (same node)
      · intro straight node
        exact Bool.and_eq_true_iff.trans (straight kept rfl lead chain rfl node)

/-- A leg whose chain is one compound leads straight on. -/
theorem isStraight_of_single {document : Document} {outer : Nat} {leg : Leg} (single : leg.IsSingle) :
    leg.IsStraight document outer := by
  intro lead chain behind node
  obtain ⟨tests, alone, unscoped⟩ := single lead chain behind
  rw [alone, Complex.holds, Complex.leadsFrom, allHold_unscoped document _ node unscoped, Bool.and_eq_true (meets ..)]
  exact And.comm

end Leg

namespace Route

theorem walked_eq (document : Document) (route : Route) :
    route.walked document = route.legs.foldl (fun reached leg => walk document leg.moves reached)
      (document.elements.filter (route.first.complex.holds document none)) := by
  -- the first chain may begin anywhere, which is the reading from the front with a test that lets all through
  have begins : document.elements.filter (meets document route.first.complex.first) =
      document.elements.filter fun node => meets document route.first.complex.first node && true :=
    List.filter_congr fun node _ => (Bool.and_true _).symm
  rw [walked, moves, walk_append, walk_flatMap, begins, walk_complex document (fun _ => true) route.first.reads.2]
  congr 1
  exact List.filter_congr fun node _ => leadsFrom_anywhere document route.first.complex node

theorem ordered_walked (document : Document) (route : Route) : (route.walked document).Pairwise (· < ·) :=
  ordered_walk (Document.ordered_filter document.ordered_elements _) route.moves

end Route

/-- Two folds agree on all that a list begins with exactly if each step is the same where the second one stands. -/
theorem foldl_take_eq_iff {α β : Type} (step other : β → α → β) (start : β) (stages : List α) :
    (∀ count, (stages.take count).foldl step start = (stages.take count).foldl other start) ↔
      ∀ count stage, stages[count]? = some stage →
        step ((stages.take count).foldl other start) stage = other ((stages.take count).foldl other start) stage := by
  constructor
  · intro agree count stage found
    have next := agree (count + 1)
    rw [List.take_add_one, found, Option.toList_some, List.foldl_append, List.foldl_append, agree count] at next
    exact next
  · intro same count
    induction count with
    | zero => rfl
    | succ count inductionHypothesis =>
      rw [List.take_add_one, List.foldl_append, List.foldl_append, inductionHypothesis]
      cases found : stages[count]? with
      | none => rfl
      | some stage => exact same count stage found

namespace Route

/-- A route selects what its chains find, in document order, as it leads there step by step in document order. Both are
the same, for it and all that it begins with, exactly if each leg leads straight on from the element that its filter keeps. -/
theorem selects_as_walked_iff (document : Document) (route : Route) :
    select? document route.text = some (route.found document) ∧ (route.found document).Pairwise (· < ·) ∧
      (route.walked document).Pairwise (· < ·) ∧
      ((∀ count, select? document (route.upTo count).text = some ((route.upTo count).walked document)) ↔
        ∀ count leg outer, route.legs[count]? = some leg →
          ((route.upTo count).walked document)[leg.filter.index]? = some outer → leg.IsStraight document outer) := by
  refine ⟨select?_eq_found document route, ordered_found document route, ordered_walked document route, ?_⟩
  -- what is selected and what is led to are two folds over the legs from the same elements
  have folds := foldl_take_eq_iff (Leg.found document) (fun reached leg => walk document leg.moves reached)
    (document.elements.filter (route.first.complex.holds document none)) route.legs
  simp only [Leg.found_eq_walk_iff] at folds
  simp only [select?_eq_found, walked_eq, Option.some.injEq]
  exact folds.trans (forall_congr' fun count => forall_congr' fun leg => forall_comm)

def boxPage : Document :=
  .ofText "<div class='x'><div class='a'><p class='b'>b</p></div></div>"

def boxRoute : Route where
  first := ⟨".x", by decide +kernel, by decide +kernel, by decide +kernel⟩
  legs := [⟨⟨"0", 0, by decide, by decide⟩, some (.directlyInside [⟨' ', by decide⟩] [⟨' ', by decide⟩],
    ⟨".a .b", by decide +kernel, by decide +kernel, by decide +kernel⟩)⟩]

theorem boxRoute_selects : boxRoute.text = ".x:eq(0) > .a .b" ∧ boxRoute.walked boxPage = [6] ∧
    select? boxPage ".x:eq(0) > .a .b" = some [] := by
  decide +kernel

/-- The text is not directly inside the box, so nothing is selected where a card directly inside the box has a text. -/
theorem text_in_card_is_missed : boxRoute.text = ".x:eq(0) > .a .b" ∧ boxRoute.walked boxPage = [6] ∧
    select? boxPage boxRoute.text ≠ some (boxRoute.walked boxPage) := by
  obtain ⟨written, leads, selects⟩ := boxRoute_selects
  refine ⟨written, leads, ?_⟩
  rw [written, leads, selects]
  decide

/-- The leg from the box to the text does not lead straight on. -/
theorem boxRoute_turns : ∃ count leg outer, boxRoute.legs[count]? = some leg ∧
    ((boxRoute.upTo count).walked boxPage)[leg.filter.index]? = some outer ∧ ¬ leg.IsStraight boxPage outer := by
  obtain ⟨written, leads, selects⟩ := boxRoute_selects
  obtain ⟨_, _, _, agrees⟩ := selects_as_walked_iff boxPage boxRoute
  refine Classical.byContradiction fun straight => ?_
  have same := agrees.mpr (fun count leg outer found kept =>
    Classical.byContradiction fun turns => straight ⟨count, leg, outer, found, kept, turns⟩) 1
  rw [show boxRoute.upTo 1 = boxRoute from rfl, written, leads, selects] at same
  cases same

/-- A route of single compounds behind its filters selects what it leads to step by step. -/
theorem select?_eq_walked {document : Document} {route : Route} (single : ∀ leg ∈ route.legs, leg.IsSingle) :
    select? document route.text = some (route.walked document) := by
  rw [select?_eq_found, walked_eq]
  refine congrArg some (List.foldl_ext _ _ _ fun reached leg member => ?_)
  exact (Leg.found_eq_walk_iff document reached leg).mpr fun outer _ => Leg.isStraight_of_single (single leg member)

end Route

end Harvest.Selector
