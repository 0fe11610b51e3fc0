import Harvest.Text.Blank

/-!
Contract: trimmed texts.

A text is trimmed if a visible character stands at each of its ends, so there is something in it and nothing
to trim. Trimming takes blanks away from both ends and stops in front of what is visible.
-/

namespace Harvest.Text

/-! ### Blanks at one end -/

theorem trimStart_append {blanks : List Char} (blank : ∀ character ∈ blanks, isBlank character = true)
    (text : List Char) : trimStart (blanks ++ text) = trimStart text :=
  List.dropWhile_append_of_pos blank

theorem trimEnd_append {blanks : List Char} (blank : ∀ character ∈ blanks, isBlank character = true)
    (text : List Char) : trimEnd (text ++ blanks) = trimEnd text := by
  unfold trimEnd
  rw [List.reverse_append,
    List.dropWhile_append_of_pos fun character member => blank character (List.mem_reverse.mp member)]

theorem trimStart_cons {first : Char} (visible : isBlank first = false) (text : List Char) :
    trimStart (first :: text) = first :: text :=
  List.dropWhile_cons_of_neg (by rw [visible]; exact Bool.false_ne_true)

theorem trimEnd_concat {last : Char} (visible : isBlank last = false) (text : List Char) :
    trimEnd (text ++ [last]) = text ++ [last] := by
  unfold trimEnd
  rw [List.reverse_append, List.reverse_singleton, List.singleton_append,
    List.dropWhile_cons_of_neg (by rw [visible]; exact Bool.false_ne_true), List.reverse_cons, List.reverse_reverse]

/-- A text is blank, or it is blanks in front of something visible. -/
theorem blank_or_visible (text : List Char) : (∀ character ∈ text, isBlank character = true) ∨
    ∃ blanks first rest, text = blanks ++ first :: rest ∧ (∀ character ∈ blanks, isBlank character = true) ∧
      isBlank first = false := by
  induction text with
  | nil => exact .inl fun character member => nomatch member
  | cons first text inductionHypothesis =>
    cases visible : isBlank first with
    | false => exact .inr ⟨[], first, text, rfl, List.forall_mem_nil _, visible⟩
    | true =>
      rcases inductionHypothesis with all | ⟨blanks, next, rest, rfl, blank, stops⟩
      · refine .inl fun character member => ?_
        rcases List.mem_cons.mp member with rfl | later
        · exact visible
        · exact all character later
      · refine .inr ⟨first :: blanks, next, rest, rfl, fun character member => ?_, stops⟩
        rcases List.mem_cons.mp member with rfl | later
        · exact visible
        · exact blank character later

/-! ### Blanks at both ends -/

/-- A text with a visible character at each end. -/
structure Trimmed (text : List Char) : Prop where
  starts : ∃ first rest, text = first :: rest ∧ isBlank first = false
  ends : ∃ front last, text = front ++ [last] ∧ isBlank last = false

theorem Trimmed.ne_nil {text : List Char} (trimmed : Trimmed text) : text ≠ [] := by
  obtain ⟨first, rest, rfl, _⟩ := trimmed.starts
  exact List.cons_ne_nil first rest

/-- A text in which nothing is blank is trimmed. -/
theorem Trimmed.of_visible {text : List Char} (some_text : text ≠ [])
    (visible : ∀ character ∈ text, isBlank character = false) : Trimmed text where
  starts := by
    obtain ⟨first, rest, shape⟩ := List.exists_cons_of_ne_nil some_text
    exact ⟨first, rest, shape, visible first (by rw [shape]; exact List.mem_cons_self)⟩
  ends := by
    obtain ⟨front, last, shape⟩ := (List.eq_nil_or_concat text).resolve_left some_text
    exact ⟨front, last, by rw [shape, List.concat_eq_append], visible last (by rw [shape]; simp)⟩

theorem Trimmed.append {front back : List Char} (first : Trimmed front) (last : Trimmed back) (middle : List Char) :
    Trimmed (front ++ middle ++ back) where
  starts := by
    obtain ⟨initial, rest, rfl, visible⟩ := first.starts
    exact ⟨initial, rest ++ middle ++ back, by simp, visible⟩
  ends := by
    obtain ⟨rest, final, rfl, visible⟩ := last.ends
    exact ⟨front ++ middle ++ rest, final, by simp, visible⟩

/-- Blanks around a trimmed text are trimmed away. -/
theorem Trimmed.trimChars_between {text before after : List Char} (trimmed : Trimmed text)
    (blankBefore : ∀ character ∈ before, isBlank character = true)
    (blankAfter : ∀ character ∈ after, isBlank character = true) : trimChars (before ++ text ++ after) = text := by
  obtain ⟨first, rest, shape, starts⟩ := trimmed.starts
  obtain ⟨front, last, same, ends⟩ := trimmed.ends
  unfold trimChars
  rw [List.append_assoc, trimStart_append blankBefore, shape, List.cons_append, trimStart_cons starts, ← List.cons_append,
    ← shape, trimEnd_append blankAfter, same, trimEnd_concat ends]

theorem Trimmed.trimChars_eq {text : List Char} (trimmed : Trimmed text) : trimChars text = text := by
  have between : trimChars ([] ++ text ++ []) = text := trimmed.trimChars_between (by simp) (by simp)
  rwa [List.nil_append, List.append_nil] at between

theorem trimChars_of_blank {text : List Char} (blank : ∀ character ∈ text, isBlank character = true) :
    trimChars text = [] := by
  unfold trimChars
  rw [← List.append_nil text, trimStart_append blank]
  rfl

/-- What is not blank is a trimmed text between blanks, and trimming leaves that text. -/
theorem exists_trimmed {text : List Char} (visible : ¬ ∀ character ∈ text, isBlank character = true) :
    ∃ before after, text = before ++ trimChars text ++ after ∧ Trimmed (trimChars text) ∧
      (∀ character ∈ before, isBlank character = true) ∧ (∀ character ∈ after, isBlank character = true) := by
  obtain ⟨before, first, rest, shape, blankBefore, starts⟩ := (blank_or_visible text).resolve_left visible
  have backwards : ¬ ∀ character ∈ (first :: rest).reverse, isBlank character = true := by
    intro blank
    have := blank first (by simp)
    rw [starts] at this
    exact nomatch this
  obtain ⟨after, last, front, mirrored, blankAfter, ends⟩ := (blank_or_visible _).resolve_left backwards
  have core : first :: rest = front.reverse ++ [last] ++ after.reverse := by
    rw [← List.reverse_inj, mirrored]
    simp
  have trimmed : Trimmed (front.reverse ++ [last]) := by
    refine ⟨?_, front.reverse, last, rfl, ends⟩
    cases inner : front.reverse ++ [last] with
    | nil => simp at inner
    | cons initial others =>
      rw [inner] at core
      rw [(List.cons.inj core).1] at starts
      exact ⟨initial, others, rfl, starts⟩
  have blankBehind : ∀ character ∈ after.reverse, isBlank character = true :=
    fun character member => blankAfter character (List.mem_reverse.mp member)
  have whole : text = before ++ (front.reverse ++ [last]) ++ after.reverse := by
    rw [shape, core]
    simp
  have middle : trimChars text = front.reverse ++ [last] := by
    rw [whole]
    exact trimmed.trimChars_between blankBefore blankBehind
  rw [middle]
  exact ⟨before, after.reverse, whole, trimmed, blankBefore, blankBehind⟩

theorem trimmed_or_nil (text : List Char) : Trimmed (trimChars text) ∨ trimChars text = [] := by
  by_cases blank : ∀ character ∈ text, isBlank character = true
  · exact .inr (trimChars_of_blank blank)
  · obtain ⟨_, _, _, trimmed, _⟩ := exists_trimmed blank
    exact .inl trimmed

@[simp]
theorem trimChars_trimChars (text : List Char) : trimChars (trimChars text) = trimChars text := by
  rcases trimmed_or_nil text with trimmed | none
  · exact trimmed.trimChars_eq
  · rw [none]
    rfl

@[simp]
theorem trim_trim (text : String) : trim (trim text) = trim text := by
  unfold trim
  rw [String.toList_ofList, trimChars_trimChars]

/-- Trimming does not see blanks behind a text. -/
theorem trimChars_append {blanks : List Char} (blank : ∀ character ∈ blanks, isBlank character = true)
    (text : List Char) : trimChars (text ++ blanks) = trimChars text := by
  by_cases all : ∀ character ∈ text, isBlank character = true
  · rw [trimChars_of_blank all]
    refine trimChars_of_blank fun character member => ?_
    rcases List.mem_append.mp member with old | new
    · exact all character old
    · exact blank character new
  · obtain ⟨before, after, shape, trimmed, blankBefore, blankAfter⟩ := exists_trimmed all
    calc trimChars (text ++ blanks) = trimChars (before ++ trimChars text ++ (after ++ blanks)) := by
          rw [← List.append_assoc, ← shape]
      _ = trimChars text := by
          refine trimmed.trimChars_between blankBefore fun character member => ?_
          rcases List.mem_append.mp member with old | new
          · exact blankAfter character old
          · exact blank character new

/-- Trimming keeps all that is visible. -/
theorem mem_trimChars {text : List Char} {character : Char} (member : character ∈ text)
    (visible : isBlank character = false) : character ∈ trimChars text := by
  have seen : ¬ ∀ character ∈ text, isBlank character = true := by
    intro blank
    rw [blank character member] at visible
    exact nomatch visible
  obtain ⟨before, after, shape, _, blankBefore, blankAfter⟩ := exists_trimmed seen
  rw [shape] at member
  rcases List.mem_append.mp member with (front | inside)
  · rcases List.mem_append.mp front with outside | inside
    · rw [blankBefore character outside] at visible
      exact nomatch visible
    · exact inside
  · rw [blankAfter character inside] at visible
    exact nomatch visible

/-- What ends with something visible is trimmed in front only. -/
theorem exists_trimmed_front {last : Char} (visible : isBlank last = false) (front : List Char) :
    ∃ before, front ++ [last] = before ++ trimChars (front ++ [last]) ∧ Trimmed (trimChars (front ++ [last])) ∧
      ∀ character ∈ before, isBlank character = true := by
  have seen : ¬ ∀ character ∈ front ++ [last], isBlank character = true := by
    intro blank
    rw [blank last (by simp)] at visible
    exact nomatch visible
  obtain ⟨before, after, shape, trimmed, blankBefore, blankAfter⟩ := exists_trimmed seen
  rcases List.eq_nil_or_concat after with none | ⟨others, final, concat⟩
  · rw [none, List.append_nil] at shape
    exact ⟨before, shape, trimmed, blankBefore⟩
  · rw [concat, List.concat_eq_append, ← List.append_assoc] at shape
    have same : last = final := (List.cons.inj (List.append_inj_right' shape rfl)).1
    rw [same, blankAfter final (by rw [concat]; simp)] at visible
    exact nomatch visible

/-- What begins with something visible is trimmed behind only. -/
theorem exists_trimmed_behind {first : Char} (visible : isBlank first = false) (rest : List Char) :
    ∃ after, first :: rest = trimChars (first :: rest) ++ after ∧ Trimmed (trimChars (first :: rest)) ∧
      ∀ character ∈ after, isBlank character = true := by
  have seen : ¬ ∀ character ∈ first :: rest, isBlank character = true := by
    intro blank
    rw [blank first List.mem_cons_self] at visible
    exact nomatch visible
  obtain ⟨before, after, shape, trimmed, blankBefore, blankAfter⟩ := exists_trimmed seen
  cases before with
  | nil => exact ⟨after, shape, trimmed, blankAfter⟩
  | cons initial others =>
    have same : first = initial := (List.cons.inj shape).1
    rw [same, blankBefore initial List.mem_cons_self] at visible
    exact nomatch visible

/-- A text that ends visibly and one that begins visibly are trimmed apart, with what stands between them. -/
theorem trimChars_joint {last first : Char} (ends : isBlank last = false) (starts : isBlank first = false)
    (front middle rest : List Char) :
    trimChars (front ++ [last] ++ middle ++ first :: rest) =
      trimChars (front ++ [last]) ++ middle ++ trimChars (first :: rest) := by
  obtain ⟨before, shape, trimmed, blankBefore⟩ := exists_trimmed_front ends front
  obtain ⟨after, same, trimmedBehind, blankAfter⟩ := exists_trimmed_behind starts rest
  have whole : front ++ [last] ++ middle ++ first :: rest =
      before ++ (trimChars (front ++ [last]) ++ middle ++ trimChars (first :: rest)) ++ after :=
    calc front ++ [last] ++ middle ++ first :: rest
        = (before ++ trimChars (front ++ [last])) ++ middle ++ (trimChars (first :: rest) ++ after) := by
          rw [← shape, ← same]
      _ = before ++ (trimChars (front ++ [last]) ++ middle ++ trimChars (first :: rest)) ++ after := by simp
  rw [whole]
  exact (trimmed.append trimmedBehind middle).trimChars_between blankBefore blankAfter

theorem isBlankText_iff (text : String) : isBlankText text = true ↔ trimChars text.toList = [] := by
  unfold isBlankText
  rw [List.all_eq_true]
  constructor
  · exact trimChars_of_blank
  · intro none
    refine Classical.byContradiction fun visible => ?_
    obtain ⟨_, _, _, trimmed, _⟩ := exists_trimmed visible
    exact trimmed.ne_nil none

section Visible

variable {text : String} (visible : isBlankText text = false)

include visible

theorem not_blank_of_visible : ¬ ∀ character ∈ text.toList, isBlank character = true := by
  rw [← List.all_eq_true]
  exact fun blank => Bool.false_ne_true (visible.symm.trans blank)

theorem trimChars_ne_nil_of_visible : trimChars text.toList ≠ [] := fun none =>
  Bool.false_ne_true (visible.symm.trans ((isBlankText_iff text).mpr none))

end Visible

end Harvest.Text
