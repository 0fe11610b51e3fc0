import Harvest.Text.Occurrence

/-!
Contract: cutting a text apart that was put together.

A separator does not occur in a text that lacks its first character. So behind such a text it occurs where it
was put and nowhere before, whatever follows, also one that overlaps itself. Hence pieces that lack that
character, with a separator between any two, are the pieces between the occurrences of the separator.
-/

namespace Harvest.Text

variable {first : Char} {others : List Char}

theorem dropFront?_of_ne {character : Char} (other : first ≠ character) (text : List Char) :
    dropFront? (first :: others) (character :: text) = none :=
  if_neg other

theorem findFirst?_of_not_mem {text : List Char} (absent : first ∉ text) :
    findFirst? (first :: others) text = none := by
  induction text with
  | nil => rfl
  | cons character text inductionHypothesis =>
    have other : first ≠ character := List.ne_of_not_mem_cons absent
    rw [findFirst?, dropFront?_of_ne other, inductionHypothesis (List.not_mem_of_not_mem_cons absent)]
    rfl

theorem findFirst?_append {before : List Char} (absent : first ∉ before) (after : List Char) :
    findFirst? (first :: others) (before ++ (first :: others ++ after)) = some (before, after) := by
  induction before with
  | nil =>
    rw [List.nil_append, List.cons_append, findFirst?, ← List.cons_append, dropFront?_append]
  | cons character before inductionHypothesis =>
    have other : first ≠ character := List.ne_of_not_mem_cons absent
    rw [List.cons_append, findFirst?, dropFront?_of_ne other, inductionHypothesis (List.not_mem_of_not_mem_cons absent)]
    rfl

theorem splitOn_of_not_mem {text : List Char} (absent : first ∉ text) : splitOn (first :: others) text = [text] := by
  have missing : findFirst? (first :: others) text = none := findFirst?_of_not_mem absent
  rw [splitOn]
  split
  next => rfl
  next before after found =>
    rw [missing] at found
    contradiction

theorem splitOn_append {piece : List Char} (absent : first ∉ piece) (rest : List Char) :
    splitOn (first :: others) (piece ++ (first :: others ++ rest)) = piece :: splitOn (first :: others) rest := by
  have leftmost : findFirst? (first :: others) (piece ++ (first :: others ++ rest)) = some (piece, rest) :=
    findFirst?_append absent rest
  rw [splitOn]
  split
  next missing =>
    rw [leftmost] at missing
    contradiction
  next before after found =>
    rw [leftmost] at found
    cases found
    rfl

/-- Pieces without the first character of a separator are found again between its occurrences. -/
theorem splitOn_intercalate {pieces : List (List Char)} (filled : pieces ≠ [])
    (absent : ∀ piece ∈ pieces, first ∉ piece) :
    splitOn (first :: others) ((first :: others).intercalate pieces) = pieces := by
  induction pieces with
  | nil => exact absurd rfl filled
  | cons piece pieces inductionHypothesis =>
    have here : first ∉ piece := absent piece List.mem_cons_self
    cases pieces with
    | nil =>
      rw [List.intercalate_singleton, splitOn_of_not_mem here]
    | cons next pieces =>
      have later := inductionHypothesis (List.cons_ne_nil next pieces) fun later member =>
        absent later (List.mem_cons_of_mem _ member)
      rw [List.intercalate_cons_cons, List.append_assoc, splitOn_append here, later]

end Harvest.Text
