import Harvest.Json.View

/-!
Contract: dotted paths, one behind another.

A path that is put together of two by a dot has the segments of both, whatever they are; so it leads
where the second leads from the value to which the first does, and nowhere if one of them leads nowhere.
That takes both paths to be filled: the empty path leads to the value itself.
-/

namespace Harvest

/-! ### Segments -/

namespace Text

theorem splitAt_ne_nil (separator : Char) (text : List Char) : splitAt separator text ≠ [] := by
  cases text with
  | nil => exact List.cons_ne_nil _ _
  | cons character text =>
    rw [splitAt]
    split
    · exact List.cons_ne_nil _ _
    · split <;> exact List.cons_ne_nil _ _

/-- The pieces on both sides of a separator are found apart. -/
theorem splitAt_append (separator : Char) (front back : List Char) :
    splitAt separator (front ++ separator :: back) = splitAt separator front ++ splitAt separator back := by
  induction front with
  | nil => exact if_pos rfl
  | cons character front inductionHypothesis =>
    rw [List.cons_append, splitAt, splitAt, inductionHypothesis]
    by_cases same : character = separator
    · rw [if_pos same, if_pos same, List.cons_append]
    · obtain ⟨piece, pieces, shape⟩ := List.exists_cons_of_ne_nil (splitAt_ne_nil separator front)
      rw [if_neg same, if_neg same, shape]
      rfl

end Text

namespace Json

theorem pathSegments_append (front back : String) :
    pathSegments (front ++ "." ++ back) = pathSegments front ++ pathSegments back := by
  have written : (front ++ "." ++ back).toList = front.toList ++ '.' :: back.toList := by simp
  unfold pathSegments
  rw [written, Text.splitAt_append, List.map_append]

/-! ### Where paths lead -/

theorem descend?_append (front back : List String) (value : Json) :
    value.descend? (front ++ back) = (value.descend? front).bind (descend? back) := by
  induction front generalizing value with
  | nil => rfl
  | cons segment front inductionHypothesis =>
    rw [List.cons_append, descend?, descend?, Option.bind_assoc]
    congr 1
    funext below
    exact inductionHypothesis below

variable {front back : String}

theorem lookup?_append (filledFront : front ≠ "") (filledBack : back ≠ "") (value : Json) :
    value.lookup? (front ++ "." ++ back) = (value.lookup? front).bind (lookup? back) := by
  have filled : front ++ "." ++ back ≠ "" := by simp
  have onward : lookup? back = descend? (pathSegments back) := by
    funext below
    exact if_neg filledBack
  rw [lookup?, lookup?, if_neg filled, if_neg filledFront, onward, pathSegments_append, descend?_append]

/-- No path leads on from null. -/
theorem lookup?_null (filledBack : back ≠ "") : null.lookup? back = none := by
  have some_segments : pathSegments back ≠ [] := fun none_found =>
    Text.splitAt_ne_nil '.' back.toList (List.map_eq_nil_iff.mp none_found)
  obtain ⟨segment, segments, shape⟩ := List.exists_cons_of_ne_nil some_segments
  rw [lookup?, if_neg filledBack, shape]
  rfl

/-- A default counts in the end only: null stands in for what the first path does not find, and leads nowhere. -/
theorem lookup?_getD (filledFront : front ≠ "") (filledBack : back ≠ "") (value : Json) :
    ((value.lookup? front).getD null).lookup? back = value.lookup? (front ++ "." ++ back) := by
  rw [lookup?_append filledFront filledBack]
  cases value.lookup? front with
  | none => exact lookup?_null filledBack
  | some below => rfl

end Json

end Harvest
