import Harvest.Proofs.Json.Fields
import Harvest.Transform.Chain

/-!
Contract: what chains of built-in transforms read of what is stored.

Only `combine`, `compare` and `equal` read stored values, and their options say under which names. Chains
of built-in transforms make the same of a value where the same is stored under these names, and change
nothing there. `Step.namesRead` gives these names for a step as it is written, by the transform that it names.
-/

namespace Harvest

namespace Storage

/-- The same is stored under some names. -/
def Agree (names : String → Prop) (storage other : Storage) : Prop :=
  ∀ name, names name → storage.get? name = other.get? name

variable {names : String → Prop} {storage other : Storage}

/-- What is stored in both in addition is the same in both. -/
theorem Agree.insert (agree : Agree names storage other) (name : String) (value : Json) :
    Agree names (storage.insert name value) (other.insert name value) := by
  intro key among
  by_cases same : key = name
  · subst same
    exact (Fields.find?_insert_same _ _ _).trans (Fields.find?_insert_same _ _ _).symm
  · have before := agree key among
    exact (Fields.find?_insert_other same _ _).trans (before.trans (Fields.find?_insert_other same _ _).symm)

end Storage

namespace Transform

/-- The names under which a built-in transform reads what is stored. -/
def BuiltIn.reads (step : Step) : BuiltIn → List String
  | .combine =>
    match step.option? "fields" with
    | some (.array fields) => fields.filterMap Json.text?
    | _ => []
  | .compare => (step.text? "field").toList
  | .equal => (step.text? "field").toList
  | _ => []

variable {step : Step} {storage other : Storage}

theorem operand_congr (same : ∀ name ∈ step.text? "field", storage.get? name = other.get? name) :
    operand step storage = operand step other := by
  unfold operand
  cases field : step.text? "field" with
  | none => rfl
  | some name =>
    show (storage.get? name).getD .null = (other.get? name).getD .null
    rw [same name field]

theorem castField_congr (typeName : String) (field : Json)
    (same : ∀ name ∈ field.text?, storage.get? name = other.get? name) :
    castField storage typeName field = castField other typeName field := by
  unfold castField
  cases named : field.text? with
  | none => rfl
  | some name =>
    have stored : storage.get name = other.get name := congrArg (fun found => found.getD .null) (same name named)
    simp only [stored]

theorem mapM_castField_congr (typeName : String) {fields : List Json}
    (same : ∀ name ∈ fields.filterMap Json.text?, storage.get? name = other.get? name) :
    fields.mapM (castField storage typeName) = fields.mapM (castField other typeName) := by
  induction fields with
  | nil => rfl
  | cons field fields inductionHypothesis =>
    have here : castField storage typeName field = castField other typeName field := by
      refine castField_congr typeName field fun name named => same name ?_
      exact List.mem_filterMap.mpr ⟨field, List.mem_cons_self, named⟩
    have later := inductionHypothesis fun name among => same name (by
      obtain ⟨given, member, named⟩ := List.mem_filterMap.mp among
      exact List.mem_filterMap.mpr ⟨given, List.mem_cons_of_mem _ member, named⟩)
    rw [List.mapM_cons, List.mapM_cons, here, later]

/-- A built-in transform makes the same of a value where the same is stored under the names that it reads. -/
theorem BuiltIn.rule_congr (kind : BuiltIn) (same : ∀ name ∈ kind.reads step, storage.get? name = other.get? name)
    (value : Json) : kind.rule step storage value = kind.rule step other value := by
  cases kind with
  | combine =>
    show Transform.combine step storage value = Transform.combine step other value
    unfold Transform.combine
    unfold reads at same
    split
    next fields given =>
      rw [given] at same
      rw [mapM_castField_congr _ same]
    next => rfl
  | compare =>
    have operands := operand_congr fun name among => same name (Option.mem_toList.mpr among)
    show Transform.compare step storage value = Transform.compare step other value
    unfold Transform.compare
    rw [operands]
  | equal =>
    have operands := operand_congr fun name among => same name (Option.mem_toList.mpr among)
    show Transform.equal step storage value = Transform.equal step other value
    unfold Transform.equal
    rw [operands]
  | _ => rfl

/-- Nothing but built-in transforms is registered to begin with. -/
theorem find?_standard (name : String) (run : Step → Storage → Json → Except Failure (Json × Storage)) :
    standard.find? name ≠ some (.custom run) := by
  intro found
  have all : standard.entries.all (fun entry => entry.2 matches .builtIn _) = true := by decide
  have custom := List.all_eq_true.mp all (name, .custom run) (Registry.mem_entries_of_find? found)
  cases custom

/-- A step applies a built-in transform, if any, and that reads under some names only. -/
def Step.ReadsOnly (transforms : Registry Transform) (names : String → Prop) (step : Step) : Prop :=
  ∀ transform, transforms.find? step.kind = some transform →
    ∃ kind, transform = .builtIn kind ∧ ∀ name ∈ kind.reads step, names name

theorem applyAll_congr {transforms : Registry Transform} {names : String → Prop} {steps : List Step}
    (reads : ∀ step ∈ steps, step.ReadsOnly transforms names) (agree : storage.Agree names other) (value : Json) :
    applyAll transforms steps other value = ((applyAll transforms steps storage value).1, other) := by
  induction steps generalizing value with
  | nil => rfl
  | cons step steps inductionHypothesis =>
    have later := inductionHypothesis fun step member => reads step (List.mem_cons_of_mem _ member)
    cases known : transforms.find? step.kind with
    | none => simp only [applyAll, known]
    | some transform =>
      obtain ⟨kind, rfl, only⟩ := reads step List.mem_cons_self transform known
      have same := kind.rule_congr (fun name among => agree name (only name among)) value
      simp only [applyAll, known, apply, same]
      cases kind.rule step other value with
      | error fault => rfl
      | ok result => exact later result

/-- A chain of built-in transforms makes the same of a value where the same is stored under the names that it reads, and
leaves what is stored as it is. -/
theorem produce_congr {transforms : Registry Transform} {names : String → Prop} {steps : List Step}
    (reads : ∀ step ∈ steps, step.ReadsOnly transforms names) (agree : storage.Agree names other) (value : Json) :
    produce transforms steps other value = ((produce transforms steps storage value).1, other) :=
  applyAll_congr reads agree (begin value)

/-! ### Footprints by the names of transforms -/

/-- The names under which a step reads what is stored, by the transform that it names: `combine` those of its fields,
`equal` and `compare` that of the field with which they compare. -/
def Step.namesRead (step : Step) : List String :=
  if step.kind = "combine" then
    match step.option? "fields" with
    | some (.array fields) => fields.filterMap Json.text?
    | _ => []
  else if step.kind = "equal" ∨ step.kind = "compare" then (step.text? "field").toList
  else []

/-- Whether an entry of a registry reads what is stored under the names that `Step.namesRead` says. -/
def readsAsNamed : String × Transform → Bool
  | (name, .builtIn .combine) => name == "combine"
  | (name, .builtIn .compare) => name == "compare"
  | (name, .builtIn .equal) => name == "equal"
  | (_, .builtIn _) => true
  | (_, .custom _) => false

theorem readsAsNamed_standard {name : String} {transform : Transform} (found : standard.find? name = some transform) :
    readsAsNamed (name, transform) = true := by
  have all : standard.entries.all readsAsNamed = true := by decide
  exact List.all_eq_true.mp all (name, transform) (Registry.mem_entries_of_find? found)

theorem Step.readsOnly_namesRead {transforms : Registry Transform} {names : String → Prop}
    (known : transforms.find? step.kind = standard.find? step.kind) (among : ∀ name ∈ step.namesRead, names name) :
    step.ReadsOnly transforms names := by
  intro transform found
  rw [known] at found
  have named := readsAsNamed_standard found
  cases transform with
  | custom run => exact nomatch named
  | builtIn kind =>
    refine ⟨kind, rfl, ?_⟩
    cases kind with
    | combine =>
      have called : step.kind = "combine" := eq_of_beq named
      rwa [namesRead, if_pos called] at among
    | compare =>
      have called : step.kind = "compare" := eq_of_beq named
      rwa [namesRead, if_neg (by rw [called]; decide), if_pos (.inr called)] at among
    | equal =>
      have called : step.kind = "equal" := eq_of_beq named
      rwa [namesRead, if_neg (by rw [called]; decide), if_pos (.inl called)] at among
    | _ => exact fun name reads => nomatch reads

/-- A chain of built-in transforms comes to the same over any two storages that have the same under the names that its
steps read, whether it gives a value or fails, and changes neither of them. -/
theorem chain_reads_only_named {transforms : Registry Transform} {steps : List Step}
    (known : ∀ step ∈ steps, transforms.find? step.kind = standard.find? step.kind)
    (agree : ∀ step ∈ steps, ∀ name ∈ step.namesRead, storage.get? name = other.get? name) (value : Json) :
    ∃ outcome, produce transforms steps storage value = (outcome, storage) ∧
      produce transforms steps other value = (outcome, other) := by
  have reads : ∀ step ∈ steps, step.ReadsOnly transforms fun name => ∃ step ∈ steps, name ∈ step.namesRead :=
    fun step member => step.readsOnly_namesRead (known step member) fun name among => ⟨step, member, among⟩
  have agrees : storage.Agree (fun name => ∃ step ∈ steps, name ∈ step.namesRead) other :=
    fun name ⟨step, member, among⟩ => agree step member name among
  exact ⟨_, produce_congr reads (fun _ _ => rfl) value, produce_congr reads agrees value⟩

/-- A chain that writes a price and asks whether it is the limit. -/
def priceSteps : List Step :=
  [⟨"combine", [("dataType", .string "int"), ("fields", .texts ["price"])]⟩, ⟨"get", [("path", .string "0")]⟩,
    ⟨"compare", [("field", .string "limit"), ("operator", .string "lte")]⟩]

/-- The price and the limit decide, whatever else is stored. -/
theorem priceSteps_read_price_and_limit :
    (∀ step ∈ priceSteps, ∀ name ∈ step.namesRead,
      (Storage.ofFields [("price", .string "12"), ("limit", .int 20)]).get? name =
        (Storage.ofFields [("color", .string "red"), ("limit", .int 20), ("price", .string "12")]).get? name) ∧
    ∃ outcome,
      produce standard priceSteps (.ofFields [("price", .string "12"), ("limit", .int 20)]) .null =
        (outcome, .ofFields [("price", .string "12"), ("limit", .int 20)]) ∧
      produce standard priceSteps (.ofFields [("color", .string "red"), ("limit", .int 20), ("price", .string "12")]) .null =
        (outcome, .ofFields [("color", .string "red"), ("limit", .int 20), ("price", .string "12")]) := by
  have agree : ∀ step ∈ priceSteps, ∀ name ∈ step.namesRead,
      (Storage.ofFields [("price", .string "12"), ("limit", .int 20)]).get? name =
        (Storage.ofFields [("color", .string "red"), ("limit", .int 20), ("price", .string "12")]).get? name := by
    intro step member name among
    have reads : name ∈ priceSteps.flatMap Step.namesRead := List.mem_flatMap.mpr ⟨step, member, among⟩
    rw [show priceSteps.flatMap Step.namesRead = ["price", "limit"] from rfl] at reads
    simp only [List.mem_cons, List.not_mem_nil, or_false] at reads
    rcases reads with rfl | rfl <;> rfl
  exact ⟨agree, chain_reads_only_named (fun _ _ => rfl) agree .null⟩

end Transform

end Harvest
