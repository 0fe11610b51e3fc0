import Harvest.Description.Config
import Harvest.Proofs.Description.Parts
import Harvest.Rule.Kind

/-!
Contract: the places in a description at which rules, steps and actions stand.

A path leads through a value by fields and items. What is shown at a place is what the claim
that nothing is lost is about: the kind of a rule, and the options or parameters of a step or an
action, that is, all its fields that have no meaning of their own. Two values are alike if the
same is shown at the end of every path.
-/

namespace Harvest.Description

inductive Site where
  | config | rule | members | member | row | steps | step | actions | action | cases

/-- How a place lies in another: in the field of a name, or as the item at an index. -/
inductive Branch where
  | field (name : String)
  | item (index : Nat)

/-- What a place shows: the kind that a rule has, or the fields that have no meaning of their own. -/
inductive Shown where
  | kind (kind : Except Failure RuleKind)
  | free (fields : Fields)

namespace Site

/-- What stands in the field of a name. -/
def inField? : Site → String → Option Site
  | config, "rules" => some rule
  | config, "actions" => some actions
  | rule, "collection" => some members
  | rule, "transform" => some steps
  | rule, "actions" => some actions
  | action, "actions" => some actions
  | action, "conditions" => some actions
  | action, "elseActions" => some actions
  | action, "cases" => some cases
  | action, "rules" => some rule
  | _, _ => none

def inItems? : Site → Option Site
  | members => some member
  | row => some rule
  | steps => some step
  | actions => some action
  | cases => some actions
  | _ => none

theorem inField?_config {name : String} {inner : Site} (there : config.inField? name = some inner) :
    (name = "rules" ∧ inner = rule) ∨ (name = "actions" ∧ inner = actions) := by
  unfold inField? at there
  split at there <;> simp_all

theorem inField?_rule {name : String} {inner : Site} (there : rule.inField? name = some inner) :
    (name = "collection" ∧ inner = members) ∨ (name = "transform" ∧ inner = steps) ∨
      (name = "actions" ∧ inner = actions) := by
  unfold inField? at there
  split at there <;> simp_all

theorem inField?_action {name : String} {inner : Site} (there : action.inField? name = some inner) :
    (name = "actions" ∧ inner = actions) ∨ (name = "conditions" ∧ inner = actions) ∨
      (name = "elseActions" ∧ inner = actions) ∨ (name = "cases" ∧ inner = cases) ∨
        (name = "rules" ∧ inner = rule) := by
  unfold inField? at there
  split at there <;> simp_all

/-- The names of the fields, where these can stand in an array. -/
def names : Site → List String
  | config => ["rules", "actions", "pagination"]
  | rule => ruleNames
  | _ => []

/-- A member is a row if its items can be read as rules, and a rule if not. -/
def settled : Site → Json → Site
  | member, .array items => if (items.mapM readRule).toBool then row else rule
  | member, _ => rule
  | site, _ => site

/-- The place that a branch leads to. -/
def child? (site : Site) (value : Json) : Branch → Option (Site × Json)
  | .field name => (site.inField? name).bind fun inner =>
    (Fields.find? name (entriesOf site.names value)).map fun child => (inner, child)
  | .item index => site.inItems?.bind fun inner =>
    (value.items?.bind fun items => items[index]?).map fun child => (inner, child)

def shows : Site → Json → Option Shown
  | rule, value => (readRule value).toOption.map fun rule => .kind rule.kind
  | step, .object fields => some (.free (FieldReader.free (· == "type") fields))
  | action, .object fields => some (.free (FieldReader.free actionFields.contains fields))
  | _, _ => none

end Site

def shownAt : List Branch → Site → Json → Option Shown
  | [], site, value => (site.settled value).shows value
  | branch :: path, site, value =>
    ((site.settled value).child? value branch).bind fun (inner, child) => shownAt path inner child

/-- Two values show the same at the end of every path. -/
def AlikeAt (site : Site) (value other : Json) : Prop :=
  ∀ path, shownAt path site value = shownAt path site other

/-- Null shows nothing. -/
@[simp]
theorem shownAt_null (path : List Branch) (site : Site) : shownAt path site .null = none := by
  cases path with
  | nil => cases site <;> rfl
  | cons branch path =>
    have barren : (site.settled .null).child? .null branch = none := by
      cases branch with
      | field name =>
        rw [Site.child?]
        cases (site.settled .null).inField? name <;> rfl
      | item index =>
        rw [Site.child?]
        cases (site.settled .null).inItems? <;> rfl
    rw [shownAt, barren]
    rfl

theorem settled_settled (site : Site) (value : Json) : (site.settled value).settled value = site.settled value := by
  cases site with
  | member =>
    cases value with
    | array items =>
      rw [Site.settled]
      split <;> rfl
    | _ => rfl
  | _ => rfl

/-- Values are alike if they are alike as what they turn out to be. -/
theorem alikeAt_of_settled {site settled : Site} {value other : Json} (here : site.settled value = settled)
    (there : site.settled other = settled) (alike : AlikeAt settled value other) : AlikeAt site value other := by
  have unsettled : ∀ path value, shownAt path (site.settled value) value = shownAt path site value := by
    intro path value
    cases path <;> rw [shownAt, shownAt, settled_settled]
  intro path
  rw [← unsettled, ← unsettled, here, there]
  exact alike path

/-- Records are alike if they show the same and what stands in their fields is alike. -/
theorem alikeAt_record {site : Site} {value other : Json} (settled : ∀ value, site.settled value = site)
    (unordered : site.inItems? = none) (shown : site.shows value = site.shows other)
    (fields : ∀ name inner, site.inField? name = some inner → ∀ path,
      (Fields.find? name (entriesOf site.names value)).bind (shownAt path inner) =
        (Fields.find? name (entriesOf site.names other)).bind (shownAt path inner)) :
    AlikeAt site value other := by
  intro path
  match path with
  | [] => rw [shownAt, shownAt, settled, settled, shown]
  | .item index :: path =>
    rw [shownAt, shownAt, settled, settled, Site.child?, Site.child?, unordered]
    rfl
  | .field name :: path =>
    rw [shownAt, shownAt, settled, settled, Site.child?, Site.child?]
    cases known : site.inField? name with
    | none => rfl
    | some inner =>
      have below : ∀ found : Option Json, ((found.map fun child => (inner, child)).bind fun (inner, child) =>
          shownAt path inner child) = found.bind (shownAt path inner) := by
        intro found
        cases found <;> rfl
      exact (below _).trans ((fields name inner known path).trans (below _).symm)

/-! ### Arrays -/

/-- Sites that are arrays of other sites and nothing else. -/
structure Site.IsArrayOf (site inner : Site) : Prop where
  items : site.inItems? = some inner
  fields : ∀ name, site.inField? name = none
  settled : ∀ value, site.settled value = site
  barren : ∀ value, site.shows value = none

theorem shownAt_array {site inner : Site} (isArray : site.IsArrayOf inner) (items : List Json) (path : List Branch) :
    shownAt path site (.array items) = match path with
      | .item index :: path => items[index]?.bind (shownAt path inner)
      | _ => none := by
  match path with
  | [] => rw [shownAt, isArray.settled, isArray.barren]
  | .field name :: path =>
    rw [shownAt, isArray.settled, Site.child?, isArray.fields]
    rfl
  | .item index :: path =>
    rw [shownAt, isArray.settled, Site.child?, isArray.items]
    simp only [Json.items?, Option.bind_some]
    cases items[index]? <;> rfl

theorem alikeAt_array {site inner : Site} (isArray : site.IsArrayOf inner) {items others : List Json}
    (alike : List.Forall₂ (AlikeAt inner) items others) : AlikeAt site (.array items) (.array others) := by
  intro path
  rw [shownAt_array isArray, shownAt_array isArray]
  match path with
  | [] => rfl
  | .field name :: path => rfl
  | .item index :: path =>
    simp only
    rcases Nat.lt_or_ge index items.length with inside | outside
    · have also : index < others.length := alike.length_eq ▸ inside
      rw [List.getElem?_eq_getElem inside, List.getElem?_eq_getElem also]
      exact alike.get inside also path
    · rw [List.getElem?_eq_none outside, List.getElem?_eq_none (alike.length_eq ▸ outside)]

end Harvest.Description
