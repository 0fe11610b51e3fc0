import Harvest.Proofs.Rule.Inside
import Harvest.Proofs.Run.Tour

/-!
Contract: what the evaluation of a rule without actions asks for.

Such an evaluation queries and counts, converts by the steps of the rules inside, and keeps values under their
names. Whatever its requests are answered, it makes no request of another kind: `Tour.asksOnly_rule` is
the induction over the rule.
-/

namespace Harvest

/-! ### Jobs that make some requests only -/

namespace Job

variable {α β : Type} {allowed : Request → Prop}

/-- All requests that a job can ever make are allowed, however they are answered. -/
def AsksOnly (allowed : Request → Prop) : Job α → Prop
  | .done _ => True
  | .request asked next => allowed asked ∧ ∀ answer, AsksOnly allowed (next answer)

theorem AsksOnly.andThen {job : Job α} {next : α → Job β} (first : job.AsksOnly allowed)
    (last : ∀ value, (next value).AsksOnly allowed) : (job.andThen next).AsksOnly allowed := by
  induction job with
  | done value => exact last value
  | request request following inductionHypothesis =>
    exact ⟨first.1, fun answer => inductionHypothesis answer (first.2 answer)⟩

theorem AsksOnly.imp {other : Request → Prop} {job : Job α} (asks : job.AsksOnly allowed)
    (weaker : ∀ request, allowed request → other request) : job.AsksOnly other := by
  induction job with
  | done value => trivial
  | request request next inductionHypothesis =>
    exact ⟨weaker request asks.1, fun answer => inductionHypothesis answer (asks.2 answer)⟩

/-- On each trail of a job there are only requests that it can make, and what remains behind it can make no others. -/
theorem AsksOnly.trail {job rest : Job α} {trail : List Exchange} (asks : job.AsksOnly allowed)
    (way : Trail job trail rest) : (∀ exchange ∈ trail, allowed exchange.request) ∧ rest.AsksOnly allowed := by
  induction way with
  | stay => exact ⟨List.forall_mem_nil _, asks⟩
  | step _ inductionHypothesis =>
    obtain ⟨later, remains⟩ := inductionHypothesis (asks.2 _)
    exact ⟨List.forall_mem_cons.mpr ⟨asks.1, later⟩, remains⟩

end Job

/-- All requests that a script can ever make are allowed. -/
def Script.AsksOnly {α : Type} (allowed : Request → Prop) (script : Script α) : Prop :=
  script.run.AsksOnly allowed

namespace Script

variable {α β : Type} {allowed : Request → Prop}

theorem asksOnly_settled (outcome : Except Failure α) : (settled outcome).AsksOnly allowed :=
  trivial

theorem asksOnly_pure (value : α) : (pure value : Script α).AsksOnly allowed :=
  trivial

theorem asksOnly_fail (failure : Failure) : (throw failure : Script α).AsksOnly allowed :=
  trivial

theorem AsksOnly.bind {script : Script α} {next : α → Script β} (first : script.AsksOnly allowed)
    (last : ∀ value, (next value).AsksOnly allowed) : (script >>= next).AsksOnly allowed := by
  refine Job.AsksOnly.andThen first fun outcome => ?_
  cases outcome with
  | ok value => exact last value
  | error failure => trivial

theorem AsksOnly.outcome {script : Script α} (asks : script.AsksOnly allowed) :
    (Script.outcome script).AsksOnly allowed :=
  Job.AsksOnly.andThen asks fun _ => trivial

theorem asksOnly_always {request : Request} (may : allowed request) :
    (always (Job.perform request)).AsksOnly allowed :=
  ⟨may, fun _ => trivial⟩

theorem asksOnly_call {call : PageCall} (may : allowed (.ask (.call call))) : (Script.call call).AsksOnly allowed :=
  ⟨may, fun _ => trivial⟩

theorem asksOnly_convert {steps : List Transform.Step} {value : Json} (may : allowed (.convert steps value)) :
    (Script.convert steps value).AsksOnly allowed :=
  ⟨may, fun _ => trivial⟩

theorem asksOnly_keep {name : String} {value : Json} (may : allowed (.keep name value)) :
    (Script.keep name value).AsksOnly allowed :=
  ⟨may, fun _ => trivial⟩

end Script

/-! ### Rules without actions -/

/-- Nothing inside a rule is an action, and what the rules inside need to ask for is allowed: to query and to count,
to convert by their steps, and to keep under their names. -/
structure Rule.MayAsk (allowed : Request → Prop) (rule : Rule) : Prop where
  idle : rule.IsIdle
  query : ∀ selector attr property, allowed (.ask (.call (.query selector attr property)))
  count : ∀ selector, allowed (.ask (.call (.count selector)))
  convert : ∀ inner : Rule, inner.Inside rule → ∀ value, allowed (.convert inner.head.transforms value)
  keep : ∀ name, rule.Names name → ∀ value, allowed (.keep name value)

namespace Rule.MayAsk

variable {allowed : Request → Prop}

/-- What lies inside a rule may ask for what the rule may ask for. -/
theorem inside {inner outer : Rule} (may : outer.MayAsk allowed) (lies : ∀ rule : Rule, rule.Inside inner → rule.Inside outer) :
    inner.MayAsk allowed where
  idle rule within := may.idle rule (lies rule within)
  query := may.query
  count := may.count
  convert rule within := may.convert rule (lies rule within)
  keep name named := may.keep name (named.imp fun rule named => ⟨lies rule named.1, named.2⟩)

theorem member {head : RuleHead} {members : List Member} {actions : List Action}
    (may : (Rule.mk head (some members) actions).MayAsk allowed) {rule : Rule} (among : Member.rule rule ∈ members) :
    rule.MayAsk allowed :=
  may.inside fun _ => .member among

theorem row {head : RuleHead} {members : List Member} {actions : List Action}
    (may : (Rule.mk head (some members) actions).MayAsk allowed) {template : List Rule}
    (among : Member.row template ∈ members) {rule : Rule} (within : rule ∈ template) : rule.MayAsk allowed :=
  may.inside fun _ => .row among within

end Rule.MayAsk

namespace Run

open Script

variable {allowed : Request → Prop}

theorem asksOnly_convertEach {steps : List Transform.Step} (may : ∀ value, allowed (.convert steps value))
    (texts : List String) : (convertEach steps texts).AsksOnly allowed := by
  induction texts with
  | nil => exact asksOnly_pure []
  | cons text texts inductionHypothesis =>
    rw [convertEach]
    exact (asksOnly_convert (may _)).bind fun _ => inductionHypothesis.bind fun _ => asksOnly_pure _

theorem asksOnly_readSimple {rule : Rule} (may : rule.MayAsk allowed) (selector : String) :
    (readSimple rule.head selector).AsksOnly allowed := by
  have converts := may.convert rule .self
  unfold readSimple
  refine (asksOnly_call (may.query _ _ _)).bind fun answer => (asksOnly_settled _).bind fun texts => ?_
  cases rule.head.shape with
  | array => exact (asksOnly_convertEach converts texts).bind fun _ => asksOnly_pure _
  | text => exact asksOnly_convert (converts _)

end Run

namespace Tour

open Script Run

variable {allowed : Request → Prop} (setup : Setup) (start : ScopeStack)

theorem asksOnly_whole {head : RuleHead} (may : ∀ value, allowed (.convert head.transforms value)) (value : Json) :
    (whole head value).AsksOnly allowed := by
  unfold whole
  split
  · exact asksOnly_pure value
  · exact asksOnly_convert (may value)

theorem asksOnly_field {rule : Rule} (may : rule.MayAsk allowed) {value : Script Json} (asks : value.AsksOnly allowed)
    (fields : Fields) : (field rule.head value fields).AsksOnly allowed := by
  unfold field
  cases named : rule.head.name with
  | none => exact asksOnly_fail _
  | some name =>
    refine asks.bind fun value => ?_
    exact (asksOnly_keep (may.keep name ⟨rule, .self, named⟩ value)).bind fun _ => asksOnly_pure _

theorem asksOnly_rows {row : Nat → Script Json} (asks : ∀ index, (row index).AsksOnly allowed) (index remaining : Nat) :
    (rows row index remaining).AsksOnly allowed := by
  induction remaining generalizing index with
  | zero => exact asksOnly_pure []
  | succ remaining inductionHypothesis =>
    rw [rows]
    refine (asks index).outcome.bind fun outcome => ?_
    cases outcome with
    | ok value => exact (inductionHypothesis (index + 1)).bind fun _ => asksOnly_pure _
    | error failure =>
      dsimp only
      split
      · exact asksOnly_fail _
      · exact asksOnly_pure []

theorem asksOnly_grid {rule : Rule} (may : rule.MayAsk allowed) {row : Path → Script Json}
    (asks : ∀ path, (row path).AsksOnly allowed) (path : Path) (offset : Nat) :
    (grid (.inside setup start) rule.head path offset row).AsksOnly allowed := by
  unfold grid
  cases rule.head.scope with
  | none => exact asksOnly_fail _
  | some scope =>
    refine (asksOnly_call (may.count _)).bind fun answer => ?_
    exact (asksOnly_rows (fun index => asks _) _ _).bind fun _ => asksOnly_pure _

mutual

/-- The visit of a rule asks for what the rule may ask for. -/
theorem asksOnly_rule : ∀ (rule : Rule), rule.MayAsk allowed → ∀ (path : Path) (offset : Nat),
    (Tour.rule (.inside setup start) rule path offset).AsksOnly allowed
  | .mk head members actions, may, path, offset => by
    have idle : actions = [] := may.idle _ .self
    subst idle
    unfold Tour.rule
    refine (asksOnly_settled _).bind fun _ => (asksOnly_pure ()).bind fun _ => ?_
    match members with
    | none =>
      rw [read_inside]
      exact asksOnly_readSimple may _
    | some [] => exact (asksOnly_pure _).bind fun value => asksOnly_whole (may.convert _ .self) value
    | some (.row template :: others) =>
      have rows := fun path => asksOnly_rules template (fun _ within => may.row List.mem_cons_self within) path []
      exact (asksOnly_grid setup start may rows path offset).bind fun value => asksOnly_whole (may.convert _ .self) value
    | some (.rule first :: others) =>
      have whole := asksOnly_members (.rule first :: others) (fun _ among => may.member among)
        (.collection head :: path) []
      exact whole.bind fun value => asksOnly_whole (may.convert _ .self) value

theorem asksOnly_members : ∀ (members : List Member), (∀ rule, Member.rule rule ∈ members → rule.MayAsk allowed) →
    ∀ (path : Path) (fields : Fields), (Tour.members (.inside setup start) members path fields).AsksOnly allowed
  | [], _, _, _ => by
    unfold Tour.members
    exact asksOnly_pure _
  | .rule member :: others, may, path, fields => by
    have here : member.MayAsk allowed := may member List.mem_cons_self
    unfold Tour.members
    refine (asksOnly_field here (asksOnly_rule member here path 0) fields).bind fun fields => ?_
    exact asksOnly_members others (fun rule among => may rule (List.mem_cons_of_mem _ among)) path fields
  | .row _ :: others, may, path, fields => by
    unfold Tour.members
    exact asksOnly_members others (fun rule among => may rule (List.mem_cons_of_mem _ among)) path fields

theorem asksOnly_rules : ∀ (template : List Rule), (∀ rule ∈ template, rule.MayAsk allowed) →
    ∀ (path : Path) (fields : Fields), (Tour.rules (.inside setup start) template path fields).AsksOnly allowed
  | [], _, _, _ => by
    unfold Tour.rules
    exact asksOnly_pure _
  | first :: others, may, path, fields => by
    have here : first.MayAsk allowed := may first List.mem_cons_self
    unfold Tour.rules
    refine (asksOnly_field here (asksOnly_rule first here path 0) fields).bind fun fields => ?_
    exact asksOnly_rules others (fun rule among => may rule (List.mem_cons_of_mem _ among)) path fields

end

end Tour

theorem Run.asksOnly_evaluateWithin {allowed : Request → Prop} (setup : Setup) {rule : Rule} (may : rule.MayAsk allowed)
    (stack : ScopeStack) (offset : Nat) : (evaluateWithin setup rule stack offset).AsksOnly allowed := by
  rw [evaluateWithin_eq]
  exact Tour.asksOnly_rule setup stack rule may [] offset

end Harvest
