import Harvest.Text.Occurrence

/-!
Contract: places in a text, counted in the octets of UTF-8.

An offset falls on a boundary of characters, inside a character, or behind the end. A text can be
cut at a boundary only: elsewhere `upTo?`, `behind?` and `between?` give nothing.
-/

namespace Harvest.Text

def octets : List Char → Nat
  | [] => 0
  | character :: text => character.utf8Size + octets text

/-- A text cut in two at an offset. None if the offset is no boundary of the text. -/
def cutAt? (offset : Nat) : List Char → Option (List Char × List Char)
  | [] => if offset = 0 then some ([], []) else none
  | character :: text =>
    if offset = 0 then some ([], character :: text)
    else if character.utf8Size ≤ offset then
      (cutAt? (offset - character.utf8Size) text).map fun (front, back) => (character :: front, back)
    else none

def upTo? (offset : Nat) (text : List Char) : Option (List Char) :=
  (cutAt? offset text).map Prod.fst

def behind? (offset : Nat) (text : List Char) : Option (List Char) :=
  (cutAt? offset text).map Prod.snd

def between? (start stop : Nat) (text : List Char) : Option (List Char) :=
  (upTo? stop text).bind (behind? start)

/-- The offset of the leftmost occurrence of `needle`. -/
def findOffset? (needle text : List Char) : Option Nat :=
  (findFirst? needle text).map fun found => octets found.1

@[simp]
theorem octets_append (front back : List Char) : octets (front ++ back) = octets front + octets back := by
  induction front with
  | nil => simp [octets]
  | cons character front inductionHypothesis =>
    simp only [List.cons_append, octets, inductionHypothesis]
    omega

/-- The octets are those that the library counts. -/
theorem octets_eq (text : List Char) : octets text = (String.ofList text).utf8ByteSize := by
  induction text with
  | nil => rfl
  | cons character text inductionHypothesis =>
    rw [octets, inductionHypothesis, ← List.singleton_append, String.ofList_append, String.utf8ByteSize_append]
    simp

theorem cutAt?_zero (text : List Char) : cutAt? 0 text = some ([], text) := by
  cases text <;> rfl

/-- A text is cut where its second part begins. -/
@[simp]
theorem cutAt?_octets (front back : List Char) : cutAt? (octets front) (front ++ back) = some (front, back) := by
  induction front with
  | nil => exact cutAt?_zero back
  | cons character front inductionHypothesis =>
    have positive : 0 < character.utf8Size := character.utf8Size_pos
    rw [List.cons_append, octets, cutAt?, if_neg (by omega), if_pos (by omega), Nat.add_sub_cancel_left,
      inductionHypothesis]
    rfl

/-- A text that is cut is made of its two parts, and the offset counts the octets of the first. -/
theorem eq_of_cutAt? {offset : Nat} {text front back : List Char} (cut : cutAt? offset text = some (front, back)) :
    text = front ++ back ∧ offset = octets front := by
  induction text generalizing offset front with
  | nil =>
    rw [cutAt?] at cut
    split at cut
    next atFront =>
      cases cut
      exact ⟨rfl, atFront⟩
    next => exact nomatch cut
  | cons character text inductionHypothesis =>
    rw [cutAt?] at cut
    split at cut
    next atFront =>
      cases cut
      exact ⟨rfl, atFront⟩
    next =>
      split at cut
      next fits =>
        obtain ⟨⟨inner, rest⟩, later, same⟩ := Option.map_eq_some_iff.mp cut
        cases same
        obtain ⟨whole, count⟩ := inductionHypothesis later
        refine ⟨congrArg (character :: ·) whole, ?_⟩
        rw [octets]
        omega
      next => exact nomatch cut

@[simp]
theorem upTo?_octets (front back : List Char) : upTo? (octets front) (front ++ back) = some front := by
  rw [upTo?, cutAt?_octets]
  rfl

@[simp]
theorem behind?_octets (front back : List Char) : behind? (octets front) (front ++ back) = some back := by
  rw [behind?, cutAt?_octets]
  rfl

theorem between?_octets (front inside back : List Char) :
    between? (octets front) (octets (front ++ inside)) (front ++ (inside ++ back)) = some inside := by
  rw [between?, ← List.append_assoc, upTo?_octets, Option.bind_some, behind?_octets]

/-- What stands behind an offset is a text with a front of so many octets. -/
theorem exists_front_of_behind? {offset : Nat} {text back : List Char} (found : behind? offset text = some back) :
    ∃ front, text = front ++ back ∧ offset = octets front := by
  obtain ⟨⟨front, _⟩, cut, rfl⟩ := Option.map_eq_some_iff.mp found
  exact ⟨front, eq_of_cutAt? cut⟩

theorem le_octets_of_behind? {offset : Nat} {text back : List Char} (found : behind? offset text = some back) :
    offset ≤ octets text := by
  obtain ⟨front, rfl, rfl⟩ := exists_front_of_behind? found
  rw [octets_append]
  exact Nat.le_add_right _ _

/-- Less stands behind an offset that is not at the front. -/
theorem length_lt_of_behind? {offset : Nat} {text back : List Char} (found : behind? offset text = some back)
    (positive : 0 < offset) : back.length < text.length := by
  obtain ⟨front, rfl, rfl⟩ := exists_front_of_behind? found
  cases front with
  | nil => exact absurd positive (Nat.lt_irrefl 0)
  | cons character front =>
    rw [List.length_append, List.length_cons]
    omega

end Harvest.Text
