import Harvest.Proofs.Run.GridRows
import Harvest.Proofs.Run.Settle

/-!
Contract: independent members of a collection can be exchanged.

Two members are independent if no name is given inside both, and what is read inside one is not kept
inside the other. Then each comes to the same, whichever is evaluated first, and what they keep is stored
whichever keeps it first. `Script.Reaches.exchange` says so of scripts that stay within names,
and the members of a collection are such scripts.
-/

namespace Harvest

open World

namespace Storage

variable {name : String} {value : Json} {fields others : Fields}

theorem insert_keepAll (other : ∀ field ∈ fields, field.1 ≠ name) (storage : Storage) :
    (storage.insert name value).keepAll fields = (storage.keepAll fields).insert name value := by
  induction fields generalizing storage with
  | nil => rfl
  | cons field fields inductionHypothesis =>
    obtain ⟨here, later⟩ := List.forall_mem_cons.mp other
    have exchanged : (storage.insert name value).insert field.1 field.2 =
        (storage.insert field.1 field.2).insert name value :=
      congrArg Storage.mk (Fields.insert_comm here field.2 value storage.values)
    show ((storage.insert name value).insert field.1 field.2).keepAll fields = _
    rw [exchanged]
    exact inductionHypothesis later _

/-- Of fields with different names, it does not matter which are kept first. -/
theorem keepAll_comm (different : ∀ field ∈ fields, ∀ other ∈ others, field.1 ≠ other.1) (storage : Storage) :
    (storage.keepAll fields).keepAll others = (storage.keepAll others).keepAll fields := by
  induction others generalizing storage with
  | nil => rfl
  | cons other others inductionHypothesis =>
    have here : ∀ field ∈ fields, field.1 ≠ other.1 := fun field among => different field among other List.mem_cons_self
    have later := inductionHypothesis fun field among next member =>
      different field among next (List.mem_cons_of_mem _ member)
    show ((storage.keepAll fields).insert other.1 other.2).keepAll others = _
    rw [← insert_keepAll here]
    exact later _

end Storage

namespace Script

variable {α β γ : Type} {transforms : Registry Transform} {view : View}

/-- From a storage, a script comes to a value and another storage. -/
def Reaches (transforms : Registry Transform) (view : View) (script : Script α) (storage : Storage) (value : α)
    (stored : Storage) : Prop :=
  script.run.settle? transforms view storage = some (.ok value, stored)

theorem reaches_bind {script : Script α} {next : α → Script β} {storage stored : Storage} {value : β} :
    (script >>= next).Reaches transforms view storage value stored ↔
      ∃ reached between, script.Reaches transforms view storage reached between ∧
        (next reached).Reaches transforms view between value stored := by
  have cut := Job.settle?_andThen transforms view script.run (ExceptT.bindCont next) storage
  show (script.run.andThen (ExceptT.bindCont next)).settle? transforms view storage = _ ↔ _
  rw [cut]
  unfold Reaches
  cases script.run.settle? transforms view storage with
  | none => simp
  | some result =>
    obtain ⟨outcome, between⟩ := result
    cases outcome with
    | error failure => simp [ExceptT.bindCont, Job.settle?, pure]
    | ok reached => simp [ExceptT.bindCont, ExceptT.run]

/-- Scripts whose footprints are apart can be exchanged: where one order comes to a value, the other one comes to the same
value, and the same is stored. -/
theorem Reaches.exchange {first : Script α} {second : Script β} {next : α → β → Script γ}
    {firstPrint secondPrint : Footprint} (asksFirst : first.AsksOnly (Request.StaysWithin transforms firstPrint))
    (asksSecond : second.AsksOnly (Request.StaysWithin transforms secondPrint)) (apart : firstPrint.Apart secondPrint)
    {storage stored : Storage} {value : γ}
    (reaches : (first >>= fun one => second >>= fun other => next one other).Reaches transforms view storage value
      stored) :
    (second >>= fun other => first >>= fun one => next one other).Reaches transforms view storage value stored := by
  obtain ⟨one, middle, reachesOne, rest⟩ := reaches_bind.mp reaches
  obtain ⟨other, last, reachesOther, goesOn⟩ := reaches_bind.mp rest
  obtain ⟨firstOutcome, firstKept, firstNamed, firstSettles⟩ := Job.AsksOnly.settles asksFirst view storage
  obtain ⟨secondOutcome, secondKept, secondNamed, secondSettles⟩ := Job.AsksOnly.settles asksSecond view storage
  have behindFirst : storage.Agree secondPrint.reads (storage.keepAll firstKept) :=
    Storage.agree_keepAll (fun field among read => apart.secondReads _ read (firstNamed field among)) storage
  have behindSecond : storage.Agree firstPrint.reads (storage.keepAll secondKept) :=
    Storage.agree_keepAll (fun field among read => apart.firstReads _ read (secondNamed field among)) storage
  -- the first script has kept its fields where the second one begins, which therefore comes to what it comes to alone
  have firstHere := reachesOne.symm.trans (firstSettles storage (.refl _ _))
  cases firstHere
  have secondHere := reachesOther.symm.trans (secondSettles _ behindFirst)
  cases secondHere
  have different : ∀ field ∈ firstKept, ∀ other ∈ secondKept, field.1 ≠ other.1 := by
    intro field among other also same
    exact apart.keeps _ (firstNamed field among) (same ▸ secondNamed other also)
  rw [Storage.keepAll_comm different] at goesOn
  refine reaches_bind.mpr ⟨other, storage.keepAll secondKept, secondSettles storage (.refl _ _), ?_⟩
  exact reaches_bind.mpr ⟨one, _, firstSettles _ behindSecond, goesOn⟩

end Script

/-! ### Members of a collection -/

/-- The mapping with the value of a named rule in it, unless the rule is virtual. -/
def RuleHead.put (head : RuleHead) (value : Json) (fields : Fields) : Fields :=
  match head.name with
  | none => fields
  | some name => if head.isVirtual then fields else Fields.insert name value fields

theorem RuleHead.put_comm {first second : RuleHead}
    (different : ∀ name, first.name = some name → second.name ≠ some name) (one other : Json) (fields : Fields) :
    second.put other (first.put one fields) = first.put one (second.put other fields) := by
  unfold put
  cases firstNamed : first.name with
  | none => rfl
  | some firstName =>
    cases secondNamed : second.name with
    | none => rfl
    | some secondName =>
      have apart : secondName ≠ firstName := fun same => different firstName firstNamed (same ▸ secondNamed)
      cases first.isVirtual <;> cases second.isVirtual <;> simp [Fields.insert_comm apart]

namespace Tour

/-- Visits a named rule and keeps its value. -/
def kept (head : RuleHead) (value : Script Json) : Script Json :=
  match head.name with
  | none => throw (.invalidRule (.unnamedMember head.describe))
  | some name => do
    let value ← value
    Script.keep name value
    return value

variable {workers : Workers} {first second : Rule} {behind : List Member} {path : Path} {fields : Fields}

/-- The first member is visited, its value is kept and added to the fields, and then the others are visited. -/
theorem members_cons : Tour.members workers (.rule first :: behind) path fields =
    kept first.head (rule workers first path 0) >>= fun value =>
      Tour.members workers behind path (first.head.put value fields) := by
  rw [Tour.members]
  unfold field kept RuleHead.put
  cases first.head.name with
  | none => rfl
  | some name =>
    show ((rule workers first path 0).run.andThen _).andThen _ = ((rule workers first path 0).run.andThen _).andThen _
    simp only [Job.andThen_assoc]
    congr 1
    funext outcome
    cases outcome <;> rfl

variable {transforms : Registry Transform} {view : View} {firstPrint secondPrint : Footprint}

theorem asksOnly_kept {allowed : Request → Prop} (may : first.MayAsk allowed) (setup : Setup) (start : ScopeStack) :
    (kept first.head (rule (.inside setup start) first path 0)).AsksOnly allowed := by
  unfold kept
  cases named : first.head.name with
  | none => exact Script.asksOnly_fail _
  | some name =>
    refine (asksOnly_rule setup start first may path 0).bind fun value => ?_
    exact (Script.asksOnly_keep (may.keep name ⟨first, .self, named⟩ value)).bind fun _ => Script.asksOnly_pure _

section

variable (mayFirst : first.MayAsk (Request.StaysWithin transforms firstPrint))
  (maySecond : second.MayAsk (Request.StaysWithin transforms secondPrint)) (apart : firstPrint.Apart secondPrint)
  (setup : Setup) (start : ScopeStack) {storage stored : Storage} {value : Json}

include mayFirst maySecond apart

/-- Independent members can be exchanged, whatever members stand in front of them. -/
theorem reaches_members_exchange (front : List Member)
    (reaches : (Tour.members (.inside setup start) (front ++ .rule first :: .rule second :: behind) path fields).Reaches
      transforms view storage value stored) :
    (Tour.members (.inside setup start) (front ++ .rule second :: .rule first :: behind) path fields).Reaches
      transforms view storage value stored := by
  induction front generalizing fields storage with
  | nil =>
    have different : ∀ name, first.head.name = some name → second.head.name ≠ some name := by
      intro name firstNamed secondNamed
      have firstKeeps := mayFirst.keep name ⟨first, .self, firstNamed⟩ .null
      exact apart.keeps name firstKeeps (maySecond.keep name ⟨second, .self, secondNamed⟩ .null)
    rw [List.nil_append] at reaches ⊢
    simp only [members_cons] at reaches ⊢
    have exchanged := reaches.exchange (asksOnly_kept mayFirst setup start) (asksOnly_kept maySecond setup start) apart
    simp only [RuleHead.put_comm different] at exchanged
    exact exchanged
  | cons member front inductionHypothesis =>
    cases member with
    | rule member =>
      rw [List.cons_append, members_cons] at reaches ⊢
      obtain ⟨reached, between, here, later⟩ := Script.reaches_bind.mp reaches
      exact Script.reaches_bind.mpr ⟨reached, between, here, inductionHypothesis later⟩
    | row template => exact inductionHypothesis reaches

end

end Tour

/-! ### Collections -/

theorem Member.isSome_rules?_exchange (front behind : List Member) (first second : Rule) :
    (Member.rules? (front ++ .rule first :: .rule second :: behind)).isSome =
      (Member.rules? (front ++ .rule second :: .rule first :: behind)).isSome := by
  induction front with
  | nil => simp [Member.rules?]
  | cons member front inductionHypothesis =>
    cases member with
    | rule member => simpa [Member.rules?] using inductionHypothesis
    | row template => rfl

/-- A first member that is a rule makes a collection if the others are rules, too. -/
theorem RuleKind.exists_ofMembers_iff {head : RuleHead} {rule : Rule} {members : List Member} :
    (∃ kind, RuleKind.ofMembers head (some (.rule rule :: members)) = .ok kind) ↔ (Member.rules? members).isSome := by
  rw [RuleKind.ofMembers]
  cases Member.rules? members <;> simp

theorem RuleKind.exchange_ofMembers {head : RuleHead} {front behind : List Member} {first second : Rule} {kind : RuleKind}
    (known : RuleKind.ofMembers head (some (front ++ .rule first :: .rule second :: behind)) = .ok kind) :
    ∃ other, RuleKind.ofMembers head (some (front ++ .rule second :: .rule first :: behind)) = .ok other := by
  cases front with
  | nil =>
    have rules := RuleKind.exists_ofMembers_iff.mp ⟨kind, known⟩
    exact RuleKind.exists_ofMembers_iff.mpr (by simpa [Member.rules?] using rules)
  | cons member front =>
    cases member with
    | row template => exact ⟨_, rfl⟩
    | rule member =>
      have rules := RuleKind.exists_ofMembers_iff.mp ⟨kind, known⟩
      exact RuleKind.exists_ofMembers_iff.mpr (Member.isSome_rules?_exchange front behind first second ▸ rules)

theorem Script.reaches_settled {α : Type} {transforms : Registry Transform} {view : View} {outcome : Except Failure α}
    {storage stored : Storage} {value : α} :
    (Script.settled outcome).Reaches transforms view storage value stored ↔ outcome = .ok value ∧ storage = stored := by
  unfold Script.Reaches
  show some (outcome, storage) = some (.ok value, stored) ↔ _
  simp

namespace Tour

variable {transforms : Registry Transform} {view : View} {firstPrint secondPrint : Footprint} {first second : Rule}
  (mayFirst : first.MayAsk (Request.StaysWithin transforms firstPrint))
  (maySecond : second.MayAsk (Request.StaysWithin transforms secondPrint)) (apart : firstPrint.Apart secondPrint)

include mayFirst maySecond apart

/-- A collection comes to the same when two independent members of it are exchanged. -/
theorem reaches_collection_exchange (setup : Setup) (start : ScopeStack) {head : RuleHead} {front behind : List Member}
    {path : Path} {offset : Nat} {storage stored : Storage} {value : Json}
    (reaches : (rule (.inside setup start) (.mk head (some (front ++ .rule first :: .rule second :: behind)) []) path
      offset).Reaches transforms view storage value stored) :
    (rule (.inside setup start) (.mk head (some (front ++ .rule second :: .rule first :: behind)) []) path
      offset).Reaches transforms view storage value stored := by
  unfold rule at reaches ⊢
  obtain ⟨kind, before, classified, rest⟩ := Script.reaches_bind.mp reaches
  obtain ⟨known, rfl⟩ := Script.reaches_settled.mp classified
  obtain ⟨other, knownToo⟩ := RuleKind.exchange_ofMembers known
  refine Script.reaches_bind.mpr ⟨other, storage, Script.reaches_settled.mpr ⟨knownToo, rfl⟩, ?_⟩
  obtain ⟨_, still, idle, rest⟩ := Script.reaches_bind.mp rest
  refine Script.reaches_bind.mpr ⟨(), still, idle, ?_⟩
  have collection : ∀ {visited : Json} {between : Storage},
      (Tour.members (.inside setup start) (front ++ .rule first :: .rule second :: behind) (.collection head :: path)
        []).Reaches transforms view still visited between →
      (Tour.members (.inside setup start) (front ++ .rule second :: .rule first :: behind) (.collection head :: path)
        []).Reaches transforms view still visited between :=
    fun visited => reaches_members_exchange mayFirst maySecond apart setup start front visited
  cases front with
  | nil =>
    obtain ⟨visited, between, here, whole⟩ := Script.reaches_bind.mp rest
    exact Script.reaches_bind.mpr ⟨visited, between, collection here, whole⟩
  | cons member front =>
    cases member with
    | rule member =>
      obtain ⟨visited, between, here, whole⟩ := Script.reaches_bind.mp rest
      exact Script.reaches_bind.mpr ⟨visited, between, collection here, whole⟩
    | row template => exact rest

end Tour

/-! ### Evaluations -/

/-- The names under which the built-in steps inside a rule read, and those that are given inside it. -/
def Rule.footprint (transforms : Registry Transform) (rule : Rule) : Footprint where
  reads name := ∃ step kind, rule.HasStep step ∧ transforms.find? step.kind = some (.builtIn kind) ∧
    name ∈ kind.reads step
  keeps := rule.Names

/-- No step inside a rule applies a custom transform. -/
def Rule.IsBuiltIn (transforms : Registry Transform) (rule : Rule) : Prop :=
  ∀ step, rule.HasStep step → ∀ run, transforms.find? step.kind ≠ some (.custom run)

/-- A rule without actions and custom transforms stays within its footprint. -/
theorem Rule.mayAsk_footprint {transforms : Registry Transform} {rule : Rule} (idle : rule.IsIdle)
    (builtIn : rule.IsBuiltIn transforms) : rule.MayAsk (Request.StaysWithin transforms (rule.footprint transforms)) where
  idle := idle
  query _ _ _ := trivial
  count _ := trivial
  convert := by
    intro inner inside value step member transform known
    have has : rule.HasStep step := ⟨inner, inside, member⟩
    cases transform with
    | builtIn kind => exact ⟨kind, rfl, fun name among => ⟨step, kind, has, known, among⟩⟩
    | custom run => exact absurd known (builtIn step has run)
  keep _ named _ := named

namespace Run

variable {surroundings : Surroundings Stage} (serves : surroundings.serve = Stage.serve) {world : World Stage}
  (unfixed : world.state.fixed = []) {records : Records} (known : records.storage < world.storages.size)

include serves unfixed known

/-- A rule without actions and custom transforms is evaluated at once, and nothing but the storage changes: the run comes to
a value if the evaluation reaches it from what is stored. -/
theorem run_evaluateWithin_iff {rule : Rule} (idle : rule.IsIdle) (builtIn : rule.IsBuiltIn surroundings.transforms)
    (stack : ScopeStack) (offset : Nat) {later : World Stage} {value : Json} :
    world.run surroundings records (evaluateWithin surroundings.setup rule stack offset) = (later, .ok value) ↔
      ∃ stored, (evaluateWithin surroundings.setup rule stack offset).Reaches surroundings.transforms
        world.state.page.view (world.storage records) value stored ∧ later = world.withStorage records stored := by
  have asks := asksOnly_evaluateWithin surroundings.setup (Rule.mayAsk_footprint idle builtIn) stack offset
  obtain ⟨outcome, kept, _, settles⟩ := Job.AsksOnly.settles asks world.state.page.view (world.storage records)
  have settled := settles _ (.refl _ _)
  have ran := @runJob_of_settle? surroundings serves records world (Except Failure Json) none _ _ _ unfixed known settled
  have ended : world.run surroundings records (evaluateWithin surroundings.setup rule stack offset) =
      (world.withStorage records ((world.storage records).keepAll kept), outcome) :=
    run_of_runJob ran
  rw [ended]
  constructor
  · intro same
    cases same
    exact ⟨_, settled, rfl⟩
  · rintro ⟨stored, reaches, rfl⟩
    have same := settled.symm.trans reaches
    cases same
    rfl

/-- Two adjacent members of a collection without actions and custom transforms can be exchanged if no name is given inside
both and no step inside one reads a field that is named inside the other: whatever is stored to begin with, if the evaluation
succeeds in one order, then it does in the other, with the same mapping and with the same stored in the end. -/
theorem independent_members_commute {head : RuleHead} {front behind : List Member} {first second : Rule}
    (idle : Rule.IsIdle (.mk head (some (front ++ .rule first :: .rule second :: behind)) []))
    (builtIn : Rule.IsBuiltIn surroundings.transforms
      (.mk head (some (front ++ .rule first :: .rule second :: behind)) []))
    (apart : (first.footprint surroundings.transforms).Apart (second.footprint surroundings.transforms))
    (stack : ScopeStack) (offset : Nat) {later : World Stage} {value : Json} :
    world.run surroundings records (evaluateWithin surroundings.setup
        (.mk head (some (front ++ .rule first :: .rule second :: behind)) []) stack offset) = (later, .ok value) ↔
      world.run surroundings records (evaluateWithin surroundings.setup
        (.mk head (some (front ++ .rule second :: .rule first :: behind)) []) stack offset) = (later, .ok value) := by
  have perm : (front ++ .rule first :: .rule second :: behind).Perm (front ++ .rule second :: .rule first :: behind) :=
    .append_left front (.swap _ _ behind)
  have idleToo := idle.of_members fun member among => perm.mem_iff.mpr among
  have builtInToo : Rule.IsBuiltIn surroundings.transforms
      (.mk head (some (front ++ .rule second :: .rule first :: behind)) []) :=
    fun step has => builtIn step (has.of_members fun member among => perm.mem_iff.mpr among)
  have firstAmong : Member.rule first ∈ front ++ .rule first :: .rule second :: behind := by simp
  have secondAmong : Member.rule second ∈ front ++ .rule first :: .rule second :: behind := by simp
  have mayFirst := Rule.mayAsk_footprint (idle.member firstAmong) fun step has => builtIn step (has.member firstAmong)
  have maySecond := Rule.mayAsk_footprint (idle.member secondAmong) fun step has => builtIn step (has.member secondAmong)
  rw [run_evaluateWithin_iff serves unfixed known idle builtIn, run_evaluateWithin_iff serves unfixed known idleToo
    builtInToo]
  have visits : ∀ rule, evaluateWithin surroundings.setup rule stack offset =
      Tour.rule (.inside surroundings.setup stack) rule [] offset :=
    fun rule => (actsAs_evaluateRule surroundings.setup stack rule [] offset).within_eq
  simp only [visits]
  constructor
  · rintro ⟨stored, reaches, same⟩
    exact ⟨stored, Tour.reaches_collection_exchange mayFirst maySecond apart surroundings.setup stack reaches, same⟩
  · rintro ⟨stored, reaches, same⟩
    exact ⟨stored, Tour.reaches_collection_exchange maySecond mayFirst apart.symm surroundings.setup stack reaches, same⟩

omit serves unfixed known

def offer : World Stage where
  state := { page := { source := .ofText "<h1>Cup</h1><p>5</p>" } }
  channel := Channel.ofCapacity 1
  storages := #[{ values := [("currency", .string "EUR")] }]
  ledgers := #[{}]

def titleRule : Rule :=
  .mk { name := some "title", scope := some "h1" } none []

def currencyRule : Rule :=
  .mk { name := some "unit", scope := some "p", transforms := [
    { kind := "combine", options := [("fields", .texts ["currency"])] }] } none []

def summaryRule : Rule :=
  .mk { name := some "summary", transforms := [
    { kind := "combine", options := [("fields", .texts ["title", "unit"])] }] } none []

theorem isIdle_offer :
    Rule.IsIdle (.mk {} (some [.rule titleRule, .rule currencyRule, .rule summaryRule]) []) := by
  refine @Rule.isIdle_collection {} [titleRule, currencyRule, summaryRule] fun rule member => ?_
  simp only [List.mem_cons, List.not_mem_nil, or_false] at member
  rcases member with rfl | rfl | rfl <;> exact Rule.isIdle_simple _

theorem apart_titleRule : (titleRule.footprint Transform.standard).Apart (currencyRule.footprint Transform.standard) := by
  have title : ∀ name, titleRule.Names name → name = "title" :=
    fun name named => (Option.some.inj (Rule.names_simple_iff.mp named)).symm
  have unit : ∀ name, currencyRule.Names name → name = "unit" :=
    fun name named => (Option.some.inj (Rule.names_simple_iff.mp named)).symm
  refine ⟨fun name first second => ?_, ?_, ?_⟩
  · have same := (title name first).symm.trans (unit name second)
    exact absurd same (by decide)
  · rintro name ⟨step, kind, has, _⟩
    cases Rule.hasStep_simple_iff.mp has
  · rintro name ⟨step, kind, has, found, among⟩ first
    cases List.mem_singleton.mp (Rule.hasStep_simple_iff.mp has)
    have combines : Transform.standard.find? "combine" = some (.builtIn .combine) := by rfl
    cases found.symm.trans combines
    have read : name ∈ ["currency"] := among
    have same := (List.mem_singleton.mp read).symm.trans (title name first)
    exact absurd same (by decide)

/-- The title and the currency are read in either order, with what depends on both behind them. -/
theorem offer_exchanged : ∃ later value,
    offer.run plainSurroundings ⟨0, 0⟩ (evaluateWithin plainSurroundings.setup
      (.mk {} (some [.rule titleRule, .rule currencyRule, .rule summaryRule]) []) [] 0) = (later, .ok value) ∧
    offer.run plainSurroundings ⟨0, 0⟩ (evaluateWithin plainSurroundings.setup
      (.mk {} (some [.rule currencyRule, .rule titleRule, .rule summaryRule]) []) [] 0) = (later, .ok value) := by
  have succeeds : Except.isOk (offer.run plainSurroundings ⟨0, 0⟩ (evaluateWithin plainSurroundings.setup
      (.mk {} (some [.rule titleRule, .rule currencyRule, .rule summaryRule]) []) [] 0)).2 = true := by
    decide +kernel
  rcases ran : offer.run plainSurroundings ⟨0, 0⟩ (evaluateWithin plainSurroundings.setup
      (.mk {} (some [.rule titleRule, .rule currencyRule, .rule summaryRule]) []) [] 0) with ⟨later, outcome⟩
  cases outcome with
  | error failure =>
    rw [ran] at succeeds
    cases succeeds
  | ok value =>
    have exchanged := @independent_members_commute plainSurroundings rfl offer rfl ⟨0, 0⟩ (by decide) {} []
      [.rule summaryRule] titleRule currencyRule isIdle_offer (fun _ _ run => Transform.find?_standard _ run)
      apart_titleRule [] 0 later value
    exact ⟨later, value, rfl, exchanged.mp ran⟩

end Run

end Harvest
