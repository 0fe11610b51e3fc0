import Mathlib
import Harvest.Transform.Chain

/-!
Contract: the modes of finding agree.

All that is found of a pattern without the flag for all matches is the list of the groups of the first match, with null
for each that took no part, or null where there is no match. The other modes read that list: a number one of its entries,
no number the first one, several numbers the first entry that is there, and the question for any match whether there is a
list. With the flag, the list is that of the matches instead, and the first of these is the whole of the first match.
-/

namespace Harvest

namespace Pattern

/-- The description of a pattern without the flag for all matches. -/
def singly : Json → Json
  | .array (.string source :: .string flags :: others) =>
    .array (.string source :: .string (String.ofList (flags.toList.filter (· != 'g'))) :: others)
  | description => description

theorem compile?_singly {flags : Flags} {isGlobal : Bool} {source : String} {pattern : Pattern}
    (compiled : compile? flags isGlobal source = some pattern) :
    compile? flags false source = some { pattern with isGlobal := false } := by
  unfold compile? at compiled ⊢
  split at compiled
  case h_1 => exact nomatch compiled
  case h_2 =>
    dsimp only at compiled ⊢
    split at compiled
    case isTrue => exact nomatch compiled
    case isFalse fits =>
      cases compiled
      rw [if_neg fits]

theorem ofText_singly {source flags : String} {pattern : Pattern} (read : ofText source flags = .ok pattern) :
    ofText source (String.ofList (flags.toList.filter (· != 'g'))) = .ok { pattern with isGlobal := false } := by
  have kept : ∀ letter : Char, letter ≠ 'g' →
      (flags.toList.filter (· != 'g')).contains letter = flags.toList.contains letter := by
    intro letter other
    simp [other]
  have dropped : (flags.toList.filter (· != 'g')).contains 'g' = false := by simp
  unfold ofText at read ⊢
  simp only [String.toList_ofList, kept 'i' (by decide), kept 'm' (by decide), kept 's' (by decide), dropped] at read ⊢
  split at read
  case h_1 compiled =>
    cases read
    rw [compile?_singly compiled]
  case h_2 => exact nomatch read

/-- Without the flag for all matches a description is that of the same pattern, which then is not global. -/
theorem ofJson_singly {description : Json} {pattern : Pattern} (described : ofJson description = .ok pattern) :
    ofJson (singly description) = .ok { pattern with isGlobal := false } := by
  have unflagged : ∀ source, ofText source "" = .ok pattern → ofText source "" = .ok { pattern with isGlobal := false } := by
    intro source read
    have single := ofText_singly read
    rwa [show String.ofList ("".toList.filter (· != 'g')) = "" by decide] at single
  unfold singly
  split
  case h_1 => exact ofText_singly described
  case h_2 description other =>
    unfold ofJson at described
    split at described
    case h_1 => exact unflagged _ described
    case h_2 => exact absurd rfl (other _ _ _)
    case h_3 bare =>
      rw [ofJson]
      · exact unflagged _ described
      · exact bare
    case h_4 => exact nomatch described
    case h_5 => exact nomatch described

theorem head?_matchesIn (pattern : Pattern) (text : List Char) : (pattern.matchesIn text).head? = pattern.search? text := by
  unfold matchesIn search?
  rw [matchesFrom]
  cases pattern.searchAt? text.toArray 0 <;> simp

end Pattern

namespace Transform

/-! ### Entries -/

/-- An entry of a list, null where the list is too short or there is none. -/
def entryAt (found : Json) (index : Nat) : Json :=
  match found with
  | .array entries => Json.optional entries[index]?
  | _ => .null

/-- The first entry that is there among those with the given numbers, null without one. -/
def firstEntry (found : Json) (indices : List Nat) : Json :=
  Json.optional ((indices.map (entryAt found)).find? fun entry => !entry.isNull)

/-- The groups of the first match, null without one. -/
def listOfGroups (groups : Option (List (Option String))) : Json :=
  match groups with
  | some groups => .array (groups.map groupValue)
  | none => .null

variable (groups : Option (List (Option String)))

theorem entryAt_groups (index : Nat) :
    entryAt (listOfGroups groups) index = groupValue (groupAt (groups.getD []) index) := by
  cases groups with
  | none => rfl
  | some groups =>
    show Json.optional (groups.map groupValue)[index]? = groupValue ((groups[index]?).bind id)
    rw [List.getElem?_map]
    cases groups[index]? <;> rfl

theorem isNull_groups : (listOfGroups groups).isNull = groups.isNone := by
  cases groups <;> rfl

theorem firstEntry_groups (indices : List Nat) :
    firstEntry (listOfGroups groups) indices = groupValue (indices.findSome? (groupAt (groups.getD []))) := by
  unfold firstEntry
  induction indices with
  | nil => rfl
  | cons index indices inductionHypothesis =>
    rw [List.map_cons, List.find?_cons, List.findSome?_cons, entryAt_groups]
    cases groupAt (groups.getD []) index with
    | none => exact inductionHypothesis
    | some text => rfl

/-! ### What each mode answers -/

theorem findAll_of_single {pattern : Pattern} (single : pattern.isGlobal = false) (text : List Char) :
    findAll pattern text = listOfGroups (firstGroups? pattern text) := by
  unfold findAll
  rw [if_neg (by rw [single]; exact Bool.false_ne_true)]
  rfl

def matchTexts (pattern : Pattern) (text : List Char) : List Json :=
  (pattern.matchesIn text).map fun found => .string (String.ofList (Pattern.between text found.start found.stop))

theorem findAll_of_global {pattern : Pattern} (global : pattern.isGlobal = true) (text : List Char) :
    findAll pattern text = .array (matchTexts pattern text) := by
  unfold findAll
  rw [if_pos global]
  rfl

/-- The first of all matches is the whole of the first match. -/
theorem head?_matchTexts (pattern : Pattern) (text : List Char) : (matchTexts pattern text).head? =
    (firstGroups? pattern text).map fun groups => groupValue (groupAt groups 0) := by
  unfold matchTexts firstGroups?
  rw [List.head?_map, Pattern.head?_matchesIn, Option.map_map]
  refine congrArg (Option.map · _) (funext fun found => ?_)
  simp [groupsOf, groupAt, Pattern.Match.group?, groupValue, Json.optional]

theorem entryAt_matchTexts (pattern : Pattern) (text : List Char) :
    entryAt (.array (matchTexts pattern text)) 0 = groupValue (groupAt ((firstGroups? pattern text).getD []) 0) := by
  show Json.optional (matchTexts pattern text)[0]? = _
  rw [← List.head?_eq_getElem?, head?_matchTexts]
  cases firstGroups? pattern text <;> rfl

theorem isEmpty_matchTexts (pattern : Pattern) (text : List Char) :
    (matchTexts pattern text).isEmpty = (firstGroups? pattern text).isNone := by
  have first : (matchTexts pattern text).isEmpty = (matchTexts pattern text).head?.isNone := by
    cases matchTexts pattern text <;> rfl
  rw [first, head?_matchTexts]
  cases firstGroups? pattern text <;> rfl

variable (description : Json) (storage : Storage) (value : Json)

/-- Finding with a pattern gives an answer under an index, whatever else the step says. -/
def Finds (index : Option Json) (answer : Json) : Prop :=
  ∀ step : Step, step.option? "re" = some description → step.option? "index" = index →
    (Transform.builtIn .find).apply step storage value = .ok (answer, storage)

section

variable {description storage value} {pattern : Pattern} (described : Pattern.ofJson description = .ok pattern)

include described

theorem finds_of_find {index : Option Json} {answer : Json}
    (found : ∀ step : Step, step.pattern "re" = .ok pattern → step.option? "index" = index →
      find step storage value = .ok answer) : Finds description storage value index answer := by
  intro step given asked
  have read : step.pattern "re" = .ok pattern := by
    unfold Step.pattern
    simp only [given, described]
  have ruled : BuiltIn.find.rule step storage value = .ok answer := found step read asked
  simp only [apply, ruled]

theorem finds_group {index : Json} {number : Nat} (natural : index.nat? = some number) :
    Finds description storage value (some index)
      (groupValue (groupAt ((firstGroups? pattern value.asText.toList).getD []) number)) := by
  refine finds_of_find described fun step read asked => ?_
  cases index with
  | int index =>
    simp only [find, read, asked, natural, bind, Except.bind]
    rfl
  | _ => exact nomatch natural

theorem finds_whole : Finds description storage value none
    (groupValue (groupAt ((firstGroups? pattern value.asText.toList).getD []) 0)) := by
  refine finds_of_find described fun step read asked => ?_
  simp only [find, read, asked, bind, Except.bind]
  rfl

theorem finds_listed (indices : List Json) : Finds description storage value (some (.array indices))
    (groupValue ((indices.filterMap Json.nat?).findSome?
      (groupAt ((firstGroups? pattern value.asText.toList).getD [])))) := by
  refine finds_of_find described fun step read asked => ?_
  simp only [find, read, asked, bind, Except.bind]
  rfl

theorem finds_any : Finds description storage value (some (.string "any"))
    (.bool (firstGroups? pattern value.asText.toList).isSome) := by
  refine finds_of_find described fun step read asked => ?_
  simp only [find, read, asked, bind, Except.bind, if_pos, firstGroups?, Option.isSome_map]
  rfl

theorem finds_all : Finds description storage value (some (.string "all"))
    (findAll pattern value.asText.toList) := by
  refine finds_of_find described fun step read asked => ?_
  simp only [find, read, asked, bind, Except.bind, show ¬ "all" = "any" by decide, if_pos]
  rfl

end

variable {description}

/-- Without the flag for all matches, all that is found is a list that the other modes read, with or without the flag, or
null. With the flag it is a list that begins with the whole match, and that is empty where there is no match. -/
theorem modes_agree {pattern : Pattern} (described : Pattern.ofJson description = .ok pattern) :
    ∃ all, Finds (Pattern.singly description) storage value (some (.string "all")) all ∧
      (all = .null ∨ ∃ entries, all = .array entries) ∧
      (∀ index number, index.nat? = some number → Finds description storage value (some index) (entryAt all number)) ∧
      Finds description storage value none (entryAt all 0) ∧
      (∀ indices, Finds description storage value (some (.array indices))
        (firstEntry all (indices.filterMap Json.nat?))) ∧
      Finds description storage value (some (.string "any")) (.bool !all.isNull) ∧
      (pattern.isGlobal = false → Finds description storage value (some (.string "all")) all) ∧
      (pattern.isGlobal = true → ∃ matched, Finds description storage value (some (.string "all")) (.array matched) ∧
        Finds description storage value none (entryAt (.array matched) 0) ∧
        Finds description storage value (some (.string "any")) (.bool !matched.isEmpty)) := by
  have single : Finds (Pattern.singly description) storage value (some (.string "all"))
      (findAll { pattern with isGlobal := false } value.asText.toList) := finds_all (Pattern.ofJson_singly described)
  have groups : findAll { pattern with isGlobal := false } value.asText.toList =
      listOfGroups (firstGroups? pattern value.asText.toList) := findAll_of_single rfl _
  rw [groups] at single
  refine ⟨_, single, ?_, fun index number natural => ?_, ?_, fun indices => ?_, ?_, fun alone => ?_, fun global => ?_⟩
  · cases firstGroups? pattern value.asText.toList with
    | none => exact .inl rfl
    | some groups => exact .inr ⟨_, rfl⟩
  · rw [entryAt_groups]
    exact finds_group described natural
  · rw [entryAt_groups]
    exact finds_whole described
  · rw [firstEntry_groups]
    exact finds_listed described indices
  · rw [isNull_groups, Option.not_isNone]
    exact finds_any described
  · rw [← findAll_of_single alone]
    exact finds_all described
  · refine ⟨matchTexts pattern value.asText.toList, ?_, ?_, ?_⟩
    · rw [← findAll_of_global global]
      exact finds_all described
    · rw [entryAt_matchTexts]
      exact finds_whole described
    · rw [isEmpty_matchTexts, Option.not_isNone]
      exact finds_any described

/-- Two letters, each in a group of its own, and all matches asked for. -/
def letters : Json :=
  .array [.string "(a)|(b)", .string "g"]

/-- The first match is of the second group: the first group took no part, and there is no third one. -/
theorem found_in_letters : ∃ pattern, Pattern.ofJson letters = .ok pattern ∧ pattern.isGlobal = true ∧
    Finds letters {} (.string "ba") (some (.int 1)) .null ∧
    Finds letters {} (.string "ba") (some (.array [.int 3, .real (.zero false), .int 1, .int 2])) (.string "b") ∧
    Finds letters {} (.string "ba") (some (.string "any")) (.bool true) := by
  have isGlobal : (Pattern.ofJson letters).toOption.map (·.isGlobal) = some true := by cbv
  cases described : Pattern.ofJson letters with
  | error fault =>
    rw [described] at isGlobal
    contradiction
  | ok pattern =>
    rw [described] at isGlobal
    obtain ⟨all, single, _, numbered, _, listed, any, _⟩ := modes_agree {} (.string "ba") described
    have computed : (Transform.builtIn .find).apply
        ⟨"match", [("index", .string "all"), ("re", Pattern.singly letters)]⟩ {} (.string "ba") =
        .ok (.array [.string "b", .null, .string "b"], {}) := by cbv
    rw [single _ rfl rfl] at computed
    cases computed
    have second : firstEntry (.array [.string "b", .null, .string "b"])
        ([.int 3, .real (.zero false), .int 1, .int 2].filterMap Json.nat?) = .string "b" := by cbv
    refine ⟨pattern, rfl, Option.some.inj isGlobal, numbered (.int 1) 1 rfl, ?_, any⟩
    rw [← second]
    exact listed _

end Transform

end Harvest
