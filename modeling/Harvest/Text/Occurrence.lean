/-!
Contract: occurrences of one text in another.

`dropFront?` removes a given beginning, `findFirst?` finds the leftmost
occurrence, and `splitOn` cuts a text at its leftmost occurrences, each search
starting behind the occurrence before it.
-/

namespace Harvest.Text

/-- What follows `front` in a text that begins with it. -/
def dropFront? : (front text : List Char) → Option (List Char)
  | [], text => some text
  | _ :: _, [] => none
  | expected :: front, actual :: text =>
    if expected = actual then dropFront? front text else none

theorem dropFront?_eq_some {front text rest : List Char}
    (found : dropFront? front text = some rest) : text = front ++ rest := by
  induction front generalizing text with
  | nil => simpa [dropFront?] using found
  | cons head tail inductionHypothesis =>
    cases text with
    | nil => simp [dropFront?] at found
    | cons first others =>
      by_cases same : head = first
      · simp only [dropFront?, same, if_true] at found
        simp [inductionHypothesis found, same]
      · simp [dropFront?, same] at found

@[simp]
theorem dropFront?_append (front rest : List Char) :
    dropFront? front (front ++ rest) = some rest := by
  induction front with
  | nil => rfl
  | cons head tail inductionHypothesis => simp [dropFront?, inductionHypothesis]

/-- The leftmost occurrence of `needle`, as the text before it and the text after it. -/
def findFirst? (needle : List Char) : List Char → Option (List Char × List Char)
  | [] => if needle.isEmpty then some ([], []) else none
  | character :: text =>
    match dropFront? needle (character :: text) with
    | some after => some ([], after)
    | none => (findFirst? needle text).map fun found => (character :: found.1, found.2)

theorem findFirst?_eq_some {needle text before after : List Char}
    (found : findFirst? needle text = some (before, after)) :
    text = before ++ needle ++ after := by
  induction text generalizing before with
  | nil =>
    by_cases empty : needle = []
    · simp_all [findFirst?]
    · simp_all [findFirst?]
  | cons character text inductionHypothesis =>
    cases here : dropFront? needle (character :: text) with
    | some rest =>
      simp only [findFirst?, here, Option.some.injEq, Prod.mk.injEq] at found
      obtain ⟨rfl, rfl⟩ := found
      simpa using dropFront?_eq_some here
    | none =>
      simp only [findFirst?, here, Option.map_eq_some_iff, Prod.mk.injEq] at found
      obtain ⟨⟨front, rest⟩, later, rfl, rfl⟩ := found
      simp [inductionHypothesis later]

/-- The text after the leftmost occurrence is no longer than the whole. -/
theorem length_after_le {needle text before after : List Char}
    (found : findFirst? needle text = some (before, after)) :
    after.length + needle.length ≤ text.length := by
  have whole := findFirst?_eq_some found
  simp [whole]
  omega

/-- The pieces between the leftmost, non-overlapping occurrences of a separator. An empty
separator cuts nothing. -/
def splitOn (separator text : List Char) : List (List Char) :=
  match separator with
  | [] => [text]
  | first :: others =>
    match found : findFirst? (first :: others) text with
    | none => [text]
    | some (before, after) =>
      have : after.length < text.length := by
        have := length_after_le found
        simp at this
        omega
      before :: splitOn (first :: others) after
termination_by text.length

def splitAt (separator : Char) : List Char → List (List Char)
  | [] => [[]]
  | character :: text =>
    if character = separator then
      [] :: splitAt separator text
    else
      match splitAt separator text with
      | [] => [[character]]
      | piece :: pieces => (character :: piece) :: pieces

end Harvest.Text
