import Harvest.Proofs.Json.Fields
import Harvest.Rule.Kind

/-!
Contract: what a rule tree declares about its value.

An outline says what a value looks like: a text, some texts, a mapping, or an array of mappings that
are all alike. `Rule.outline` reads it off the tree, whatever actions are in it. A virtual rule is
left out of the mapping in which it stands, as is one without a name.
-/

namespace Harvest

/-- What a value looks like. The fields of a mapping are listed with the outlines of their values. -/
inductive Outline where
  | text
  | texts
  | mapping (declared : List (String × Outline))
  | table (declared : List (String × Outline))

namespace Outline

mutual

/-- Whether a value looks like that. -/
def fits : Outline → Json → Bool
  | .text, .string _ => true
  | .texts, .array items => items.all fun item => item.text?.isSome
  | .mapping declared, .object fields => (fields.map Prod.fst).isPerm (declared.map Prod.fst) && eachFits declared fields
  | .table declared, .array rows => rows.all fun
    | .object fields => (fields.map Prod.fst).isPerm (declared.map Prod.fst) && eachFits declared fields
    | _ => false
  | _, _ => false

/-- Whether each declared field is there and its value looks as declared. -/
def eachFits : List (String × Outline) → Fields → Bool
  | [], _ => true
  | (name, outline) :: declared, fields =>
    (match Fields.find? name fields with
      | some value => outline.fits value
      | none => false) && eachFits declared fields

end

/-- Whether a mapping has just the declared fields, each with a value that looks as declared. -/
def fitsFields (declared : List (String × Outline)) (fields : Fields) : Bool :=
  (fields.map Prod.fst).isPerm (declared.map Prod.fst) && eachFits declared fields

variable {declared : List (String × Outline)} {fields : Fields} {value : Json}

theorem eachFits_iff : eachFits declared fields = true ↔
    ∀ entry ∈ declared, ∃ value, Fields.find? entry.1 fields = some value ∧ entry.2.fits value = true := by
  induction declared with
  | nil => simp [eachFits]
  | cons entry declared inductionHypothesis =>
    obtain ⟨name, outline⟩ := entry
    rw [eachFits, Bool.and_eq_true, inductionHypothesis, List.forall_mem_cons]
    cases Fields.find? name fields <;> simp

theorem fitsFields_iff : fitsFields declared fields = true ↔
    (fields.map Prod.fst).Perm (declared.map Prod.fst) ∧
      ∀ entry ∈ declared, ∃ value, Fields.find? entry.1 fields = some value ∧ entry.2.fits value = true := by
  rw [fitsFields, Bool.and_eq_true, List.isPerm_iff, eachFits_iff]

theorem fits_mapping : (mapping declared).fits (.object fields) = fitsFields declared fields := by
  rw [fits, fitsFields]

/-- A mapping that fits goes on to fit when a field is added and declared that is new. -/
theorem fitsFields_insert {name : String} {outline : Outline} (fit : fitsFields declared fields = true)
    (new : name ∉ declared.map Prod.fst) (fits : outline.fits value = true) :
    fitsFields (declared ++ [(name, outline)]) (Fields.insert name value fields) = true := by
  obtain ⟨keys, each⟩ := fitsFields_iff.mp fit
  refine fitsFields_iff.mpr ⟨?_, ?_⟩
  · rw [List.map_append]
    exact (Fields.perm_keys_insert fun known => new (keys.mem_iff.mp known)).trans
      ((keys.cons name).trans (List.perm_append_singleton _ _).symm)
  · rw [List.forall_mem_append, List.forall_mem_singleton]
    refine ⟨fun entry member => ?_, value, Fields.find?_insert_same _ _ _, fits⟩
    have other : entry.1 ≠ name := fun same => new (same ▸ List.mem_map_of_mem member)
    obtain ⟨given, found, looks⟩ := each entry member
    exact ⟨given, (Fields.find?_insert_other other _ _).trans found, looks⟩

theorem fits_texts (items : List String) : texts.fits (.array (items.map .string)) = true := by
  rw [fits, List.all_map, List.all_eq_true]
  exact fun _ _ => rfl

theorem fits_table {rows : List Json} (each : ∀ row ∈ rows, (mapping declared).fits row = true) :
    (table declared).fits (.array rows) = true := by
  rw [fits, List.all_eq_true]
  intro row member
  have fit := each row member
  cases row with
  | object fields =>
    rw [fits] at fit
    exact fit
  | _ => cases fit

end Outline

def RuleHead.outline (head : RuleHead) : Outline :=
  match head.shape with
  | .text => .text
  | .array => .texts

/-- What a named rule adds to the outline of the mapping in which it stands. -/
def RuleHead.declares (head : RuleHead) (outline : Outline) : List (String × Outline) :=
  match head.name with
  | none => []
  | some name => if head.isVirtual then [] else [(name, outline)]

mutual

def Rule.outline : Rule → Outline
  | .mk head none _ => head.outline
  | .mk _ (some (.row template :: _)) _ => .table (Rule.outlines template)
  | .mk _ (some members) _ => .mapping (Member.outlines members)

def Member.outlines : List Member → List (String × Outline)
  | [] => []
  | .rule rule :: members => rule.head.declares rule.outline ++ Member.outlines members
  | .row _ :: members => Member.outlines members

def Rule.outlines : List Rule → List (String × Outline)
  | [] => []
  | rule :: rules => rule.head.declares rule.outline ++ Rule.outlines rules

end

def Member.names : List Member → List String
  | [] => []
  | .rule first :: members => first.head.name.toList ++ names members
  | .row _ :: members => names members

def Rule.names : List Rule → List String
  | [] => []
  | rule :: rules => rule.head.name.toList ++ names rules

/-- No rule in the tree has a transform, and the members of each collection and of each row have distinct names. -/
inductive Rule.IsPlain : Rule → Prop where
  | simple {head : RuleHead} {actions : List Action} (untransformed : head.transforms = []) :
      IsPlain (.mk head none actions)
  | composed {head : RuleHead} {members : List Member} {actions : List Action} (untransformed : head.transforms = [])
      (distinct : (Member.names members).Nodup)
      (rowsDistinct : ∀ row, Member.row row ∈ members → (Rule.names row).Nodup)
      (rules : ∀ rule, Member.rule rule ∈ members → IsPlain rule)
      (rows : ∀ row, Member.row row ∈ members → ∀ rule ∈ row, IsPlain rule) :
      IsPlain (.mk head (some members) actions)

theorem RuleHead.names_declares (head : RuleHead) (outline : Outline) :
    ((head.declares outline).map Prod.fst).Sublist head.name.toList := by
  unfold declares
  cases head.name with
  | none => exact .refl _
  | some name => cases head.isVirtual <;> simp

end Harvest
