import Harvest.Transform.Chain

/-!
Contract: the six operators of a comparison ask about one order.

Two values are ordered by number if both denote one, and by text otherwise. The order of texts is total and so is
that of numbers, but for NaN, which a text can spell. Where there is an order exactly one of less, equal and
greater holds, the other operators say the opposite of these, and no other name is an operator; where there is none,
no operator holds. Exchanging the values turns the order round.
-/

namespace Harvest

namespace Binary64

theorem place?_eq_none_iff {number : Binary64} : number.place? = none ↔ number = .nan := by
  cases number <;> simp [place?]

theorem order?_eq_none_iff {left right : Binary64} : left.order? right = none ↔ left = .nan ∨ right = .nan := by
  rw [← place?_eq_none_iff, ← place?_eq_none_iff]
  unfold order?
  cases left.place? <;> cases right.place? <;> simp

theorem order?_swap (left right : Binary64) : right.order? left = (left.order? right).map Ordering.swap := by
  unfold order?
  cases left.place? with
  | none => cases right.place? <;> rfl
  | some leftPlace =>
    cases right.place? with
    | none => rfl
    | some rightPlace =>
      have whole : compare rightPlace.1 leftPlace.1 = (compare leftPlace.1 rightPlace.1).swap := Std.OrientedCmp.eq_swap
      have scaled : compare rightPlace.2 leftPlace.2 = (compare leftPlace.2 rightPlace.2).swap := Std.OrientedCmp.eq_swap
      show some ((compare rightPlace.1 leftPlace.1).then (compare rightPlace.2 leftPlace.2)) = _
      rw [whole, scaled, ← Ordering.swap_then]
      rfl

end Binary64

namespace Transform

/-! ### The order of two values -/

/-- Two values have an order, unless both denote numbers and one of these is a NaN. -/
def Ordered (left right : Json) : Prop :=
  ∀ first second, left.asNumber = some first → right.asNumber = some second → first ≠ .nan ∧ second ≠ .nan

theorem order?_isSome_iff (left right : Json) : (order? left right).isSome = true ↔ Ordered left right := by
  unfold order? Ordered
  cases left.asNumber with
  | none => exact ⟨fun _ _ _ absent => (nomatch absent), fun _ => rfl⟩
  | some first =>
    cases right.asNumber with
    | none => exact ⟨fun _ _ _ _ absent => (nomatch absent), fun _ => rfl⟩
    | some second =>
      show (first.order? second).isSome = true ↔ _
      rw [Option.isSome_iff_ne_none, ne_eq, Binary64.order?_eq_none_iff, not_or]
      constructor
      · rintro ordered _ _ ⟨⟩ ⟨⟩
        exact ordered
      · intro ordered
        exact ordered first second rfl rfl

theorem order?_swap (left right : Json) : order? right left = (order? left right).map Ordering.swap := by
  have texts : compareOfLessAndEq right.asText left.asText = (compareOfLessAndEq left.asText right.asText).swap :=
    (Std.OrientedCmp.eq_swap : Ord.compare right.asText left.asText = (Ord.compare left.asText right.asText).swap)
  unfold order?
  cases left.asNumber with
  | none => cases right.asNumber <;> exact congrArg some texts
  | some first =>
    cases right.asNumber with
    | none => exact congrArg some texts
    | some second => exact Binary64.order?_swap first second

/-! ### What a comparison answers -/

def operatorNames : List String := ["eq", "ne", "gt", "gte", "lt", "lte"]

theorem ofName?_eq_none_iff {name : String} : Operator.ofName? name = none ↔ name ∉ operatorNames := by
  unfold Operator.ofName? operatorNames
  grind

def Step.asking (step : Step) (name : String) : Step :=
  step.withOption "operator" (.string name)

variable (step : Step) (storage : Storage) (value : Json)

/-- A comparison answers a question under an operator. -/
def Answers (name : String) (answer : Bool) : Prop :=
  (Transform.builtIn .compare).apply (step.asking name) storage value = .ok (.bool answer, storage)

theorem operator_asking (name : String) : (step.asking name).text? "operator" = some name := by
  unfold Step.asking Step.withOption Step.text? Step.option?
  rw [Fields.find?_insert_same]
  rfl

theorem option?_asking {option : String} (other : option ≠ "operator") (name : String) :
    (step.asking name).option? option = step.option? option := by
  unfold Step.asking Step.withOption Step.option?
  rw [Fields.find?_insert_other other]

theorem operand_asking (name : String) : operand (step.asking name) storage = operand step storage := by
  unfold operand Step.text?
  rw [option?_asking step (by decide), option?_asking step (by decide)]

theorem compare_asking (name : String) : compare (step.asking name) storage value =
    match order? value (operand step storage) with
    | none => .ok (.bool false)
    | some order =>
      match Operator.ofName? name with
      | some operator => .ok (.bool (operator.holds order))
      | none => .error (.unknownOperator name) := by
  unfold compare
  rw [operand_asking, operator_asking]
  rfl

variable {step storage value}

theorem answers_of_compare {name : String} {answer : Bool}
    (answered : compare (step.asking name) storage value = .ok (.bool answer)) : Answers step storage value name answer := by
  have ruled : BuiltIn.compare.rule (step.asking name) storage value = .ok (.bool answer) := answered
  unfold Answers
  simp only [apply, ruled]

theorem answers_of_order {name : String} {order : Ordering} (ordered : order? value (operand step storage) = some order)
    (operator : Operator) (known : Operator.ofName? name = some operator) :
    Answers step storage value name (operator.holds order) := by
  apply answers_of_compare
  rw [compare_asking, ordered]
  simp only [known]

theorem answers_of_disorder (disordered : order? value (operand step storage) = none) (name : String) :
    Answers step storage value name false := by
  apply answers_of_compare
  rw [compare_asking, disordered]

theorem refuses_of_order {name : String} {order : Ordering}
    (ordered : order? value (operand step storage) = some order) (unknown : Operator.ofName? name = none) :
    (Transform.builtIn .compare).apply (step.asking name) storage value =
      .error (.invalidTransform step.kind (.unknownOperator name)) := by
  have refused : BuiltIn.compare.rule (step.asking name) storage value = .error (.unknownOperator name) := by
    show compare (step.asking name) storage value = _
    rw [compare_asking, ordered]
    simp only [unknown]
  simp only [apply, refused]
  rfl

theorem Answers.unique {name : String} {answer other : Bool} (answered : Answers step storage value name answer)
    (also : Answers step storage value name other) : answer = other := by
  unfold Answers at answered also
  rw [answered] at also
  cases also
  rfl

/-- Under an operator the answer is what the order says; without an order it is no. -/
theorem answers_iff {name : String} (operator : Operator) (known : Operator.ofName? name = some operator) {answer : Bool} :
    Answers step storage value name answer ↔
      answer = ((order? value (operand step storage)).map operator.holds).getD false := by
  have answered : Answers step storage value name
      (((order? value (operand step storage)).map operator.holds).getD false) := by
    cases ordered : order? value (operand step storage) with
    | none => exact answers_of_disorder ordered name
    | some order => exact answers_of_order ordered operator known
  constructor
  · intro given
    exact given.unique answered
  · rintro rfl
    exact answered

/-! ### The operators together -/

variable (step storage value)

/-- The operators agree about an input and its operand: exactly one of three holds, each of the others is the negation
of one of them, and no other name is taken for an operator. -/
structure Consistent : Prop where
  one : ∃ less same greater, Answers step storage value "lt" less ∧ Answers step storage value "eq" same ∧
    Answers step storage value "gt" greater ∧ [less, same, greater].count true = 1
  negations : ∀ pair ∈ [("eq", "ne"), ("lt", "gte"), ("gt", "lte")],
    ∃ answer, Answers step storage value pair.1 answer ∧ Answers step storage value pair.2 !answer
  known : ∀ name ∉ operatorNames, (Transform.builtIn .compare).apply (step.asking name) storage value =
    .error (.invalidTransform step.kind (.unknownOperator name))

variable {step storage value}

theorem consistent_of_order {order : Ordering} (ordered : order? value (operand step storage) = some order) :
    Consistent step storage value where
  one := by
    refine ⟨order == .lt, order == .eq, order == .gt, answers_of_order ordered .lt rfl, answers_of_order ordered .eq rfl,
      answers_of_order ordered .gt rfl, ?_⟩
    cases order <;> rfl
  negations := by
    intro pair member
    simp only [List.mem_cons, List.not_mem_nil, or_false] at member
    rcases member with rfl | rfl | rfl
    · exact ⟨order == .eq, answers_of_order ordered .eq rfl, answers_of_order ordered .ne rfl⟩
    · exact ⟨order == .lt, answers_of_order ordered .lt rfl, answers_of_order ordered .gte rfl⟩
    · exact ⟨order == .gt, answers_of_order ordered .gt rfl, answers_of_order ordered .lte rfl⟩
  known := fun _ unknown => refuses_of_order ordered (ofName?_eq_none_iff.mpr unknown)

theorem not_consistent_of_disorder (disordered : order? value (operand step storage) = none) :
    ¬ Consistent step storage value := by
  intro consistent
  obtain ⟨less, same, greater, isLess, isSame, isGreater, count⟩ := consistent.one
  rw [isLess.unique (answers_of_disorder disordered _), isSame.unique (answers_of_disorder disordered _),
    isGreater.unique (answers_of_disorder disordered _)] at count
  contradiction

/-- The operators agree exactly where the two values have an order. Where they have none, no operator holds. In any case
an exchange of the two, however they are given, exchanges less and greater. -/
theorem operators_agree_iff_ordered (step : Step) (storage : Storage) (value : Json) :
    (Consistent step storage value ↔ Ordered value (operand step storage)) ∧
    ((∀ name ∈ operatorNames, Answers step storage value name false) ↔ ¬ Ordered value (operand step storage)) ∧
    (∀ other otherStorage, operand other otherStorage = value →
      ∀ answer, Answers step storage value "lt" answer ↔ Answers other otherStorage (operand step storage) "gt" answer) := by
  rw [← order?_isSome_iff]
  refine ⟨?_, ?_, ?_⟩
  · cases ordered : order? value (operand step storage) with
    | none => simpa using not_consistent_of_disorder ordered
    | some order => simpa using consistent_of_order ordered
  · cases ordered : order? value (operand step storage) with
    | none => simpa using fun name _ => answers_of_disorder ordered name
    | some order =>
      have consistent := consistent_of_order ordered
      obtain ⟨answer, same, different⟩ := consistent.negations ("eq", "ne") (by decide)
      simp only [Option.isSome_some, not_true_eq_false, iff_false]
      intro none_holds
      have isFalse := same.unique (none_holds "eq" (by decide))
      have isTrue := different.unique (none_holds "ne" (by decide))
      rw [isFalse] at isTrue
      contradiction
  · intro other otherStorage exchanged answer
    rw [answers_iff .lt rfl, answers_iff .gt rfl, exchanged, order?_swap value, Option.map_map]
    cases order? value (operand step storage) with
    | none => rfl
    | some order => cases order <;> rfl

/-- A number against a stored text that spells one between blanks, and the text against the number. -/
theorem agree_on_storedPrice :
    operand ⟨"compare", [("value", .int 100)]⟩ {} = .int 100 ∧
      Consistent ⟨"compare", [("field", .string "price")]⟩ ⟨[("price", .string " 12.5 ")]⟩ (.int 100) ∧
      ∀ answer, Answers ⟨"compare", [("field", .string "price")]⟩ ⟨[("price", .string " 12.5 ")]⟩ (.int 100) "lt" answer ↔
        Answers ⟨"compare", [("value", .int 100)]⟩ {} (.string " 12.5 ") "gt" answer := by
  have agreed := operators_agree_iff_ordered ⟨"compare", [("field", .string "price")]⟩
    ⟨[("price", .string " 12.5 ")]⟩ (.int 100)
  have ordered : Ordered (.int 100) (.string " 12.5 ") := (order?_isSome_iff _ _).mp (by decide)
  exact ⟨rfl, agreed.1.mpr ordered, agreed.2.2 ⟨"compare", [("value", .int 100)]⟩ {} rfl⟩

/-- A text that spells NaN is no number among numbers: no operator holds, and an unknown one is passed over. -/
theorem nan_satisfies_no_operator :
    ¬ Consistent ⟨"compare", [("value", .int 1)]⟩ {} (.string "nan") ∧
      Answers ⟨"compare", [("value", .int 1)]⟩ {} (.string "nan") "near" false := by
  have disordered : order? (.string "nan") (operand ⟨"compare", [("value", .int 1)]⟩ {}) = none := by decide
  exact ⟨not_consistent_of_disorder disordered, answers_of_disorder disordered "near"⟩

end Transform

end Harvest
