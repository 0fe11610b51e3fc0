import Harvest.Run.Evaluate

/-!
Contract: which rules the classification of a rule keeps.

An evaluation sees the members of a rule only as the kind of the rule shows them (`evaluateRule_eq`), so a rule that the
kind does not hold is never evaluated. A collection holds all its members, and refuses rows. A grid takes the first row
and never looks behind it: whatever rules and rows stand there are lost.
-/

namespace Harvest

/-! ### What a kind holds -/

def Member.held : Member → List Rule
  | .rule single => [single]
  | .row rules => rules

def RuleKind.rules : RuleKind → List Rule
  | .simple => []
  | .collection rules => rules
  | .grid row => row

/-- Rules stand beside rows. -/
def Member.AreMixed (members : List Member) : Prop :=
  (∃ rule, Member.rule rule ∈ members) ∧ ∃ row, Member.row row ∈ members

/-- A rule is classified without loss: its kind holds all rules that stand among its members, in their order, and there is
no kind where rules stand beside rows or where nothing stands among the members. -/
structure Rule.IsKeptWhole (rule : Rule) : Prop where
  keeps : ∀ kind, rule.kind = .ok kind → kind.rules = (rule.members.getD []).flatMap Member.held
  refusesMixed : ∀ members, rule.members = some members → Member.AreMixed members →
    ∃ fault, rule.kind = .error (.invalidRule fault)
  refusesEmpty : rule.members = some [] → ∃ fault, rule.kind = .error (.invalidRule fault)

theorem Member.rules?_eq_some_iff {members : List Member} {rules : List Rule} :
    rules? members = some rules ↔ members = rules.map Member.rule := by
  induction members generalizing rules with
  | nil => cases rules <;> simp [rules?]
  | cons member members inductionHypothesis =>
    cases member with
    | rule first =>
      rw [rules?, Option.map_eq_some_iff]
      constructor
      · rintro ⟨others, found, rfl⟩
        rw [List.map_cons, inductionHypothesis.mp found]
      · intro shape
        cases rules with
        | nil => cases shape
        | cons given others =>
          rw [List.map_cons] at shape
          cases shape
          exact ⟨others, inductionHypothesis.mpr rfl, rfl⟩
    | row rules' => cases rules <;> simp [rules?]

theorem Member.rules?_of_row {members : List Member} {row : List Rule} (among : Member.row row ∈ members) :
    rules? members = none := by
  cases found : rules? members with
  | none => rfl
  | some rules =>
    rw [rules?_eq_some_iff.mp found] at among
    obtain ⟨_, _, same⟩ := List.mem_map.mp among
    cases same

theorem Member.held_rules (rules : List Rule) : (rules.map Member.rule).flatMap held = rules := by
  rw [List.flatMap_map]
  exact List.flatMap_singleton' rules

namespace RuleKind

variable {head : RuleHead} {kind : RuleKind} {members : List Member}

/-- A rule whose first member is a rule has a kind where all its members are rules, and then it is a collection of them. -/
theorem ofMembers_rule_eq_ok_iff {rule : Rule} : ofMembers head (some (.rule rule :: members)) = .ok kind ↔
    ∃ rules, Member.rule rule :: members = rules.map Member.rule ∧ kind = .collection rules := by
  rw [ofMembers]
  constructor
  · intro known
    cases found : Member.rules? members with
    | none =>
      rw [found] at known
      cases known
    | some rules =>
      rw [found] at known
      cases known
      exact ⟨rule :: rules, by rw [List.map_cons, Member.rules?_eq_some_iff.mp found], rfl⟩
  · rintro ⟨rules, same, rfl⟩
    cases rules with
    | nil => cases same
    | cons first others =>
      cases same
      rw [Member.rules?_eq_some_iff.mpr rfl]

theorem ofMembers_rule_mixed {rule : Rule} {row : List Rule} (among : Member.row row ∈ members) :
    ofMembers head (some (.rule rule :: members)) = .error (.invalidRule (.mixedCollection head.describe)) := by
  rw [ofMembers, Member.rules?_of_row among]

end RuleKind

namespace Rule

variable {rule : Rule}

/-- Without members there is nothing to lose. -/
theorem isKeptWhole_of_simple (bare : rule.members = none) : rule.IsKeptWhole := by
  obtain ⟨head, members, actions⟩ := rule
  have bare : members = none := bare
  subst bare
  exact {
    keeps := by
      rintro kind ⟨⟩
      rfl
    refusesMixed := fun members shape => nomatch shape
    refusesEmpty := fun shape => nomatch shape }

theorem isKeptWhole_of_nil (empty : rule.members = some []) : rule.IsKeptWhole := by
  obtain ⟨head, members, actions⟩ := rule
  have empty : members = some [] := empty
  subst empty
  exact {
    keeps := fun kind known => nomatch known
    refusesMixed := by
      rintro _ ⟨⟩ ⟨⟨_, among⟩, _⟩
      cases among
    refusesEmpty := fun _ => ⟨_, rfl⟩ }

theorem isKeptWhole_of_rule {first : Rule} {others : List Member}
    (shape : rule.members = some (.rule first :: others)) : rule.IsKeptWhole := by
  obtain ⟨head, members, actions⟩ := rule
  have shape : members = some (.rule first :: others) := shape
  subst shape
  exact {
    keeps := by
      intro kind known
      obtain ⟨rules, same, rfl⟩ := RuleKind.ofMembers_rule_eq_ok_iff.mp known
      show rules = (Member.rule first :: others).flatMap Member.held
      rw [same, Member.held_rules]
    refusesMixed := by
      rintro _ ⟨⟩ ⟨_, row, among⟩
      cases among with
      | tail _ among => exact ⟨_, RuleKind.ofMembers_rule_mixed among⟩
    refusesEmpty := fun shape => nomatch shape }

/-- A first row decides for a grid, whatever stands behind it. -/
theorem isKeptWhole_iff_of_row {row : List Rule} {others : List Member}
    (shape : rule.members = some (.row row :: others)) :
    rule.IsKeptWhole ↔ others.flatMap Member.held = [] := by
  obtain ⟨head, members, actions⟩ := rule
  have shape : members = some (.row row :: others) := shape
  subst shape
  constructor
  · intro whole
    have keeps : row = row ++ others.flatMap Member.held := whole.keeps (.grid row) rfl
    exact List.append_right_eq_self.mp keeps.symm
  · intro nothing
    exact {
      keeps := by
        rintro _ ⟨⟩
        show row = row ++ others.flatMap Member.held
        rw [nothing, List.append_nil]
      refusesMixed := by
        rintro _ ⟨⟩ ⟨⟨behind, among⟩, _⟩
        cases among with
        | tail _ among =>
          have held : behind ∈ others.flatMap Member.held := List.mem_flatMap.mpr ⟨_, among, List.mem_singleton_self _⟩
          rw [nothing] at held
          cases held
      refusesEmpty := fun shape => nomatch shape }

end Rule

/-! ### What is evaluated -/

theorem Scoped.settled_bind_congr {α β : Type} {outcome : Except Failure α} {first second : α → Scoped β}
    (same : ∀ value, outcome = .ok value → first value = second value) :
    Scoped.settled outcome >>= first = Scoped.settled outcome >>= second := by
  cases outcome with
  | error failure => rfl
  | ok value => exact same value rfl

namespace Run

def evaluateKind (setup : Setup) (head : RuleHead) (offset : Nat) : RuleKind → Scoped Json
  | .simple => evaluateSimple head
  | .collection rules => do
    let fields ← inside head (evaluateRules setup rules [])
    Scoped.ofScript (convertWhole head fields)
  | .grid row => do
    let rows ← evaluateGrid head offset (evaluateRules setup row [])
    Scoped.ofScript (convertWhole head rows)

variable (setup : Setup)

theorem evaluateMembers_rules (rules : List Rule) (fields : Fields) :
    evaluateMembers setup (rules.map Member.rule) fields = evaluateRules setup rules fields := by
  induction rules generalizing fields with
  | nil => rw [List.map_nil, evaluateMembers, evaluateRules]
  | cons rule rules inductionHypothesis =>
    rw [List.map_cons, evaluateMembers, evaluateRules]
    exact bind_congr fun fields => inductionHypothesis fields

/-- A rule is classified, then its actions are performed, and then its kind is evaluated: of its members an evaluation
sees no more than the kind holds. -/
theorem evaluateRule_eq (rule : Rule) (offset : Nat) :
    evaluateRule setup rule offset = (do
      let kind ← Scoped.settled rule.kind
      performFirst rule.actions fun parent => performAll setup rule.actions parent .null
      evaluateKind setup rule.head offset kind) := by
  obtain ⟨head, members, actions⟩ := rule
  unfold evaluateRule
  apply Scoped.settled_bind_congr
  intro kind known
  apply bind_congr
  intro _
  match members, known with
  | none, rfl => rfl
  | some (.row row :: _), rfl => rfl
  | some (.rule first :: others), known =>
    obtain ⟨rules, same, rfl⟩ := RuleKind.ofMembers_rule_eq_ok_iff.mp known
    have fields : evaluateMembers setup (.rule first :: others) [] = evaluateRules setup rules [] := by
      rw [same, evaluateMembers_rules]
    exact congrArg (inside head · >>= fun fields => Scoped.ofScript (convertWhole head fields)) fields

end Run

/-! ### What is lost -/

namespace Rule

/-- Classification keeps all rules of a rule exactly if no rule stands behind a first row, and an evaluation sees of the
members only what has been kept. -/
theorem classification_keeps_all_iff (rule : Rule) :
    (rule.IsKeptWhole ↔ ∀ row others, rule.members = some (.row row :: others) → others.flatMap Member.held = []) ∧
      ∀ (setup : Setup) (offset : Nat), Run.evaluateRule setup rule offset = (do
        let kind ← Scoped.settled rule.kind
        Run.performFirst rule.actions fun parent => Run.performAll setup rule.actions parent .null
        Run.evaluateKind setup rule.head offset kind) := by
  refine ⟨?_, fun setup offset => Run.evaluateRule_eq setup rule offset⟩
  match shape : rule.members with
  | none => exact iff_of_true (isKeptWhole_of_simple shape) fun _ _ behind => nomatch behind
  | some [] => exact iff_of_true (isKeptWhole_of_nil shape) fun _ _ behind => nomatch behind
  | some (.rule _ :: _) => exact iff_of_true (isKeptWhole_of_rule shape) fun _ _ behind => nomatch behind
  | some (.row _ :: _) =>
    rw [isKeptWhole_iff_of_row shape]
    constructor
    · rintro nothing _ _ ⟨⟩
      exact nothing
    · intro nothing
      exact nothing _ _ rfl

def rowBeforeRule : Rule :=
  .mk { scope := some ".row" }
    (some [.row [.mk { name := some "x", scope := some ".x" } none []],
      .rule (.mk { name := some "y", scope := some ".y" } none [])]) []

/-- The rule behind the row is lost without a word. -/
theorem rule_behind_row_is_lost :
    (∀ members, rowBeforeRule.members = some members → Member.AreMixed members) ∧
      rowBeforeRule.kind = .ok (.grid [.mk { name := some "x", scope := some ".x" } none []]) ∧
      ¬ rowBeforeRule.IsKeptWhole := by
  refine ⟨?_, rfl, fun whole => ?_⟩
  · rintro _ ⟨⟩
    exact ⟨⟨_, .tail _ (.head _)⟩, ⟨_, .head _⟩⟩
  · have keeps := whole.keeps _ rfl
    exact absurd (congrArg List.length keeps) (by decide)

end Rule

end Harvest
