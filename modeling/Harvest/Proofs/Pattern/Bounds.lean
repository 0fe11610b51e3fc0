import Harvest.Pattern.Basic

/-!
Contract: a match stands in its text.

A program accepts at its first instruction, which only the second goes to, and the second saves where the match
ends. So a thread that is accepted has saved its end last, and all places that it saved before are before that end.
Hence a match that a search finds begins no later than it ends, and ends in the text.
-/

namespace Harvest.Pattern

/-- An instruction inside a match: it goes on, and not to where the program accepts. -/
def Instruction.GoesOn : Instruction → Prop
  | .accept => False
  | .set _ next => next ≠ 0
  | .fork preferred other => preferred ≠ 0 ∧ other ≠ 0
  | .save _ next => next ≠ 0
  | .look _ next => next ≠ 0
  | .goto next => next ≠ 0

namespace Program

/-! ### Programs that are left in one way -/

/-- A program that is left by saving the end of the match, and in no other way. -/
structure Closed (program : Program) : Prop where
  accepts : program[0]? = some .accept
  saves : program[1]? = some (.save 1 0)
  inside : ∀ index, 2 ≤ index → ∀ instruction, program[index]? = some instruction → instruction.GoesOn

/-- What is laid out begins inside of the match, and leaves the program closed. -/
def Enclosed (laid : Nat × Program) : Prop :=
  laid.1 ≠ 0 ∧ laid.2.Closed

variable {program : Program}

namespace Closed

theorem two_le_size (closed : program.Closed) : 2 ≤ program.size := by
  obtain ⟨inside, _⟩ := Array.getElem?_eq_some_iff.mp closed.saves
  exact inside

theorem push {instruction : Instruction} (closed : program.Closed) (goesOn : instruction.GoesOn) :
    Closed (Array.push program instruction) := by
  have size := closed.two_le_size
  refine ⟨?_, ?_, ?_⟩
  · rw [Array.getElem?_push, if_neg (by omega), closed.accepts]
  · rw [Array.getElem?_push, if_neg (by omega), closed.saves]
  · intro index least other found
    rw [Array.getElem?_push] at found
    split at found
    next =>
      cases found
      exact goesOn
    next => exact closed.inside index least other found

theorem set {instruction : Instruction} (closed : program.Closed) {place : Nat} (least : 2 ≤ place)
    (goesOn : instruction.GoesOn) : Closed (Array.set! program place instruction) := by
  rw [Array.set!_eq_setIfInBounds]
  refine ⟨?_, ?_, ?_⟩
  · rw [Array.getElem?_setIfInBounds_ne (by omega), closed.accepts]
  · rw [Array.getElem?_setIfInBounds_ne (by omega), closed.saves]
  · intro index greater other found
    rw [Array.getElem?_setIfInBounds] at found
    split at found
    next =>
      split at found
      next =>
        cases found
        exact goesOn
      next => contradiction
    next => exact closed.inside index greater other found

theorem enclosed_push (closed : program.Closed) (instruction : Instruction) (goesOn : instruction.GoesOn) :
    Enclosed (program.size, Array.push program instruction) := by
  have size := closed.two_le_size
  exact ⟨Nat.ne_of_gt (by omega), closed.push goesOn⟩

end Closed

theorem goesOn_forkTo (greedy : Bool) {body after : Nat} (inside : body ≠ 0) (behind : after ≠ 0) :
    (forkTo greedy body after).GoesOn := by
  cases greedy with
  | true => exact ⟨inside, behind⟩
  | false => exact ⟨behind, inside⟩

/-! ### Programs that are laid out -/

mutual

theorem enclosed_layOut (expression : Expression) {next : Nat} {program : Program} (inside : next ≠ 0)
    (closed : program.Closed) : Enclosed (layOut expression next program) := by
  cases expression with
  | empty =>
    rw [layOut]
    exact ⟨inside, closed⟩
  | set ranges =>
    rw [layOut]
    exact closed.enclosed_push _ inside
  | look condition =>
    rw [layOut]
    exact closed.enclosed_push _ inside
  | sequence first second =>
    rw [layOut]
    obtain ⟨middle, later⟩ := enclosed_layOut second inside closed
    exact enclosed_layOut first middle later
  | choice first second =>
    rw [layOut]
    obtain ⟨left, closedLeft⟩ := enclosed_layOut first inside closed
    obtain ⟨right, closedRight⟩ := enclosed_layOut second inside closedLeft
    exact closedRight.enclosed_push _ ⟨left, right⟩
  | group index inner =>
    rw [layOut]
    obtain ⟨closing, closedEnd⟩ := closed.enclosed_push (.save (2 * index + 1) next) inside
    obtain ⟨start, closedInner⟩ := enclosed_layOut inner closing closedEnd
    exact closedInner.enclosed_push _ start
  | repeated least most greedy inner =>
    -- The place of a loop is reserved first, and its instruction written when the body is laid out.
    have reserved : 2 ≤ program.size := closed.two_le_size
    have ⟨loop, closedLoop⟩ := closed.enclosed_push (.goto next) inside
    have ⟨start, closedBody⟩ := enclosed_layOut inner loop closedLoop
    have written := closedBody.set reserved (goesOn_forkTo greedy start inside)
    cases most with
    | some most =>
      rw [layOut]
      split
      next => exact ⟨inside, closed⟩
      next =>
        obtain ⟨optional, closedOptional⟩ := enclosed_layOutOptional inner greedy inside (most - least) inside closed
        exact enclosed_layOutTimes inner least optional closedOptional
    | none =>
      rw [layOut]
      split
      next =>
        split
        next => exact ⟨loop, written⟩
        next => exact written.enclosed_push _ (goesOn_forkTo greedy start inside)
      next => exact enclosed_layOutTimes inner (least - 1) start written

theorem enclosed_layOutTimes (inner : Expression) (times : Nat) {next : Nat} {program : Program} (inside : next ≠ 0)
    (closed : program.Closed) : Enclosed (layOutTimes inner times next program) := by
  cases times with
  | zero =>
    rw [layOutTimes]
    exact ⟨inside, closed⟩
  | succ times =>
    rw [layOutTimes]
    split
    next => exact ⟨inside, closed⟩
    next =>
      obtain ⟨start, later⟩ := enclosed_layOut inner inside closed
      exact enclosed_layOutTimes inner times start later

theorem enclosed_layOutOptional (inner : Expression) (greedy : Bool) {exit : Nat} (left : exit ≠ 0) (times : Nat)
    {next : Nat} {program : Program} (inside : next ≠ 0) (closed : program.Closed) :
    Enclosed (layOutOptional inner greedy exit times next program) := by
  cases times with
  | zero =>
    rw [layOutOptional]
    exact ⟨inside, closed⟩
  | succ times =>
    rw [layOutOptional]
    split
    next => exact ⟨inside, closed⟩
    next =>
      obtain ⟨start, later⟩ := enclosed_layOut inner inside closed
      obtain ⟨fork, closedFork⟩ := later.enclosed_push _ (goesOn_forkTo greedy start left)
      exact enclosed_layOutOptional inner greedy left times fork closedFork

end

/-- The program of an expression is left in one way only, and begins inside of the match. -/
theorem enclosed_ofExpression (expression : Expression) : Enclosed (ofExpression expression) := by
  have closed : Closed #[.accept, .save 1 0] := by
    refine ⟨rfl, rfl, fun index least instruction found => ?_⟩
    rw [Array.getElem?_eq_none (by simpa using least)] at found
    contradiction
  rw [ofExpression, layOut]
  obtain ⟨start, closedInner⟩ := enclosed_layOut expression Nat.one_ne_zero closed
  exact closedInner.enclosed_push _ start

theorem Closed.eq_zero_of_accept (closed : program.Closed) {index : Nat} (found : program[index]? = some .accept) :
    index = 0 := by
  match index with
  | 0 => rfl
  | 1 =>
    rw [closed.saves] at found
    cases found
  | index + 2 => exact (closed.inside (index + 2) (by omega) .accept found).elim

theorem Closed.goesOn (closed : program.Closed) {index : Nat} {instruction : Instruction}
    (found : program[index]? = some instruction) (on : instruction ≠ .accept) (notLast : instruction ≠ .save 1 0) :
    instruction.GoesOn := by
  match index with
  | 0 =>
    rw [closed.accepts] at found
    exact absurd (Option.some.inj found).symm on
  | 1 =>
    rw [closed.saves] at found
    exact absurd (Option.some.inj found).symm notLast
  | index + 2 => exact closed.inside (index + 2) (by omega) instruction found

end Program

/-! ### Threads -/

variable {program : Program} {text : Array Char}

/-- A thread in a text: it has saved no place behind its own, and if it is where the program accepts, it has saved its own
place as the end of the match, and that last. -/
structure Thread.Sound (text : Array Char) (thread : Thread) : Prop where
  inside : thread.place ≤ text.size
  before : ∀ slot ∈ thread.slots, slot.2 ≤ thread.place
  ended : thread.instruction = 0 → ∃ earlier, thread.slots = (1, thread.place) :: earlier

/-- Slots of a match: its end was saved last, and stands in the text. -/
def EndsIn (text : Array Char) (slots : List (Nat × Nat)) : Prop :=
  ∃ place earlier, slots = (1, place) :: earlier ∧ place ≤ text.size ∧ ∀ slot ∈ earlier, slot.2 ≤ place

namespace Thread.Sound

variable {thread : Thread} (sound : thread.Sound text)

include sound

theorem move {next place : Nat} (goesOn : next ≠ 0) (further : thread.place ≤ place) (inside : place ≤ text.size) :
    Sound text ⟨next, place, thread.slots⟩ where
  inside := inside
  before := fun slot member => Nat.le_trans (sound.before slot member) further
  ended := fun accepts => absurd accepts goesOn

theorem save {slot next : Nat} (goesOn : next ≠ 0 ∨ slot = 1) :
    Sound text ⟨next, thread.place, (slot, thread.place) :: thread.slots⟩ where
  inside := sound.inside
  before := by
    intro saved member
    rcases List.mem_cons.mp member with rfl | earlier
    · exact Nat.le_refl _
    · exact sound.before saved earlier
  ended := by
    intro accepts
    rcases goesOn with goesOn | rfl
    · exact absurd accepts goesOn
    · exact ⟨thread.slots, rfl⟩

theorem endsIn (accepts : thread.instruction = 0) : EndsIn text thread.slots := by
  obtain ⟨earlier, shape⟩ := sound.ended accepts
  refine ⟨thread.place, earlier, shape, sound.inside, fun slot member => sound.before slot ?_⟩
  rw [shape]
  exact List.mem_cons_of_mem _ member

end Thread.Sound

/-- Sound threads stay sound, so what one of them ends with is the slots of a match. -/
theorem endsIn_of_runThreads (closed : program.Closed) {fuel : Nat} {tried : Array Bool} {threads : List Thread}
    (sound : ∀ thread ∈ threads, thread.Sound text) {slots : List (Nat × Nat)}
    (accepted : (runThreads program text fuel tried threads).1 = some slots) : EndsIn text slots := by
  induction fuel generalizing tried threads with
  | zero => exact nomatch accepted
  | succ fuel inductionHypothesis =>
    cases threads with
    | nil => exact nomatch accepted
    | cons thread threads =>
      have here : thread.Sound text := sound thread List.mem_cons_self
      have others : ∀ other ∈ threads, other.Sound text := fun other member => sound other (List.mem_cons_of_mem _ member)
      have goOn : ∀ {tried : Array Bool} {next : Thread}, next.Sound text →
          (runThreads program text fuel tried (next :: threads)).1 = some slots → EndsIn text slots :=
        fun further => inductionHypothesis (List.forall_mem_cons.mpr ⟨further, others⟩)
      rw [runThreads] at accepted
      dsimp only at accepted
      split at accepted
      next => exact inductionHypothesis others accepted
      next =>
        cases known : program[thread.instruction]? with
        | none =>
          rw [known] at accepted
          exact inductionHypothesis others accepted
        | some instruction =>
          rw [known] at accepted
          cases instruction with
          | accept =>
            cases accepted
            exact here.endsIn (closed.eq_zero_of_accept known)
          | set ranges next =>
            dsimp only at accepted
            split at accepted
            next character read =>
              obtain ⟨within, _⟩ := Array.getElem?_eq_some_iff.mp read
              split at accepted
              next => exact goOn (here.move (closed.goesOn known nofun nofun) (Nat.le_succ _) within) accepted
              next => exact inductionHypothesis others accepted
            next => exact inductionHypothesis others accepted
          | fork preferred other =>
            obtain ⟨goesOn, alsoOn⟩ : preferred ≠ 0 ∧ other ≠ 0 := closed.goesOn known nofun nofun
            have first := here.move goesOn (Nat.le_refl _) here.inside
            have second := here.move alsoOn (Nat.le_refl _) here.inside
            exact inductionHypothesis (List.forall_mem_cons.mpr ⟨first, List.forall_mem_cons.mpr ⟨second, others⟩⟩) accepted
          | save slot next =>
            have goesOn : next ≠ 0 ∨ slot = 1 := by
              by_cases last : Instruction.save slot next = .save 1 0
              · cases last
                exact .inr rfl
              · exact .inl (closed.goesOn known nofun last)
            exact goOn (here.save goesOn) accepted
          | look condition next =>
            dsimp only at accepted
            split at accepted
            next => exact goOn (here.move (closed.goesOn known nofun nofun) (Nat.le_refl _) here.inside) accepted
            next => exact inductionHypothesis others accepted
          | goto next => exact goOn (here.move (closed.goesOn known nofun nofun) (Nat.le_refl _) here.inside) accepted

/-! ### Matches -/

/-- A match stands in a text: it begins no later than it ends, and ends there. -/
structure Match.Within (found : Match) (text : List Char) : Prop where
  start_le_stop : found.start ≤ found.stop
  stop_le_length : found.stop ≤ text.length

/-- A pattern whose program is closed, and begins inside of the match. -/
def IsClosed (pattern : Pattern) : Prop :=
  Program.Enclosed (pattern.start, pattern.program)

theorem endsIn_of_searchPlaces {begin : Nat} (inside : begin ≠ 0) (closed : program.Closed) {count place : Nat}
    (small : count ≤ text.size + 1 - place) {tried : Array Bool} {slots : List (Nat × Nat)}
    (found : searchPlaces begin program text count place tried = some slots) : EndsIn text slots := by
  induction count generalizing place tried with
  | zero => exact nomatch found
  | succ count inductionHypothesis =>
    rw [searchPlaces] at found
    split at found
    next accepted tried ran =>
      have start : Thread.Sound text ⟨begin, place, []⟩ :=
        ⟨by show place ≤ text.size; omega, List.forall_mem_nil _, fun accepts => absurd accepts inside⟩
      rw [← Option.some.inj found]
      exact endsIn_of_runThreads closed (List.forall_mem_singleton.mpr start) (congrArg Prod.fst ran)
    next => exact inductionHypothesis (by omega) found

theorem EndsIn.start_le_stop {slots : List (Nat × Nat)} (ends : EndsIn text slots) {start stop : Nat}
    (whole : groupOf slots 0 = some (start, stop)) : start ≤ stop ∧ stop ≤ text.size := by
  obtain ⟨place, earlier, rfl, within, before⟩ := ends
  unfold groupOf slotOf at whole
  simp only [Option.bind_eq_bind, Option.bind_eq_some_iff] at whole
  obtain ⟨first, begins, last, closes, both⟩ := whole
  cases both
  have stops : place = stop := Option.some.inj closes
  have saved : (0, start) ∈ earlier := by
    obtain ⟨front, back, shape, _⟩ := List.lookup_eq_some_iff.mp (show earlier.lookup 0 = some start from begins)
    rw [shape]
    exact List.mem_append_right _ List.mem_cons_self
  rw [← stops]
  exact ⟨before (0, start) saved, within⟩

/-- A match that a search finds with a closed program stands in the text. -/
theorem within_of_searchFrom? {begin groupCount place : Nat} (enclosed : Program.Enclosed (begin, program))
    {found : Match} (searched : searchFrom? begin program groupCount text place = some found) :
    found.start ≤ found.stop ∧ found.stop ≤ text.size := by
  unfold searchFrom? at searched
  dsimp only at searched
  split at searched
  next => exact nomatch searched
  next slots ran =>
    split at searched
    next => exact nomatch searched
    next start stop whole =>
      cases searched
      exact (endsIn_of_searchPlaces enclosed.1 enclosed.2 (Nat.le_refl _) ran).start_le_stop whole

theorem within_of_mem_matchesFrom {pattern : Pattern} (closed : pattern.IsClosed) {fuel place : Nat} {ended : Option Nat}
    {found : Match} (member : found ∈ pattern.matchesFrom text fuel place ended) :
    found.start ≤ found.stop ∧ found.stop ≤ text.size := by
  induction fuel generalizing place ended with
  | zero => exact nomatch member
  | succ fuel inductionHypothesis =>
    rw [matchesFrom] at member
    split at member
    next => exact nomatch member
    next next searched =>
      split at member
      next => exact inductionHypothesis member
      next =>
        rcases List.mem_cons.mp member with rfl | later
        · exact within_of_searchFrom? closed searched
        · exact inductionHypothesis later

/-! ### Patterns that are described -/

theorem isClosed_of_compile? {flags : Flags} {isGlobal : Bool} {source : String} {pattern : Pattern}
    (compiled : compile? flags isGlobal source = some pattern) : pattern.IsClosed := by
  unfold compile? at compiled
  split at compiled
  next => exact nomatch compiled
  next expression names read =>
    have enclosed := Program.enclosed_ofExpression expression
    dsimp only at compiled
    split at compiled
    next => exact nomatch compiled
    next =>
      cases compiled
      exact enclosed

theorem isClosed_of_ofText {source flags : String} {pattern : Pattern} (read : ofText source flags = .ok pattern) :
    pattern.IsClosed := by
  unfold ofText at read
  dsimp only at read
  split at read
  next compiled =>
    cases read
    exact isClosed_of_compile? compiled
  next => exact nomatch read

theorem isClosed_of_ofJson {value : Json} {pattern : Pattern} (read : ofJson value = .ok pattern) : pattern.IsClosed := by
  unfold ofJson at read
  split at read
  next => exact isClosed_of_ofText read
  next => exact isClosed_of_ofText read
  next => exact isClosed_of_ofText read
  next => exact nomatch read
  next => exact nomatch read

/-- Each match of a pattern that is described stands in the text. -/
theorem within_of_mem_matchesIn {value : Json} {pattern : Pattern} (read : ofJson value = .ok pattern) {text : List Char}
    {found : Match} (member : found ∈ pattern.matchesIn text) : found.Within text := by
  obtain ⟨order, inside⟩ := within_of_mem_matchesFrom (isClosed_of_ofJson read) member
  exact ⟨order, by simpa using inside⟩

end Harvest.Pattern
