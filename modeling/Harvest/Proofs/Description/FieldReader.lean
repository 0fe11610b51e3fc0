import Harvest.Description.Record
import Harvest.Proofs.Json.Fields

/-!
Contract: what reading the fields of a record one by one comes to.

A part of a record that one field alone determines is in the end what that field reads to, or
what it was in the beginning if the field is absent. Where the fields stand makes no
difference, nor whether they stand in a mapping or, in the order of their names, in an array.
-/

namespace Harvest.Description

variable {ρ α : Type}

/-- How the fields of a record are read: which names it knows, and what each field does to a record under
construction. -/
structure FieldReader (ρ : Type) where
  knows : String → Bool
  read : String → Json → ρ → Reading ρ

def readOr (default : α) (read : Json → Reading α) : Option Json → Reading α
  | none => .ok default
  | some value => read value

/-- The fields of a record: those of a mapping, or the items of an array under names in their order. -/
def entriesOf (names : List String) : Json → Fields
  | .object fields => fields
  | .array items => names.zip items
  | _ => []

theorem exists_of_map_eq_ok {β : Type} {reading : Reading α} {make : α → β} {made : β}
    (done : reading.map make = .ok made) : ∃ value, reading = .ok value ∧ make value = made := by
  cases reading with
  | error problem => exact nomatch done
  | ok value => exact ⟨value, rfl, Except.ok.inj done⟩

theorem exists_of_bind_eq_ok {β : Type} {reading : Reading α} {next : α → Reading β} {made : β}
    (done : reading.bind next = .ok made) : ∃ value, reading = .ok value ∧ next value = .ok made := by
  cases reading with
  | error problem => exact nomatch done
  | ok value => exact ⟨value, rfl, done⟩

namespace FieldReader

variable {reader : FieldReader ρ} {seen after : List String} {fields : Fields} {start result : ρ} {name : String}

/-- Reads fields in the order in which they stand, each known one at most once. -/
def walk (reader : FieldReader ρ) : (seen : List String) → Fields → ρ → Reading (List String × ρ)
  | seen, [], record => .ok (seen, record)
  | seen, (name, value) :: rest, record =>
    if seen.contains name then .error (.repeatedField name)
    else (reader.read name value record).bind fun record =>
      walk reader (if reader.knows name then name :: seen else seen) rest record

/-- A walk over fields reads the first of them, and then the others. -/
theorem walk_cons {value : Json} (walked : reader.walk seen ((name, value) :: fields) start = .ok (after, result)) :
    name ∉ seen ∧ ∃ changed, reader.read name value start = .ok changed ∧
      reader.walk (if reader.knows name then name :: seen else seen) fields changed = .ok (after, result) := by
  rw [walk] at walked
  split at walked
  case isTrue => exact nomatch walked
  case isFalse fresh =>
    exact ⟨fun member => fresh (List.contains_iff_mem.mpr member), exists_of_bind_eq_ok walked⟩

/-- A name that has been seen does not stand among the fields that are read afterwards. -/
theorem find?_of_seen (walked : reader.walk seen fields start = .ok (after, result)) (old : name ∈ seen) :
    Fields.find? name fields = none := by
  induction fields generalizing seen start with
  | nil => rfl
  | cons field fields inductionHypothesis =>
    obtain ⟨key, value⟩ := field
    obtain ⟨fresh, changed, _, later⟩ := walk_cons walked
    have different : key ≠ name := fun same => fresh (same ▸ old)
    rw [Fields.find?, if_neg different]
    refine inductionHypothesis later ?_
    split
    · exact List.mem_cons_of_mem _ old
    · exact old

/-- The known names of the fields that were read have been seen. -/
theorem mem_after (walked : reader.walk seen fields start = .ok (after, result)) (known : reader.knows name = true) :
    name ∈ after ↔ name ∈ seen ∨ name ∈ fields.map Prod.fst := by
  induction fields generalizing seen start with
  | nil =>
    cases walked
    simp
  | cons field fields inductionHypothesis =>
    obtain ⟨key, value⟩ := field
    obtain ⟨_, changed, _, later⟩ := walk_cons walked
    rw [inductionHypothesis later, List.map_cons, List.mem_cons]
    by_cases same : name = key
    · subst same
      simp [known]
    · cases knows : reader.knows key <;> simp [same]

/-- What has not been seen before a field has not been seen behind it, if it has another name. -/
theorem fresh_of_cons {key : String} {names : List String} (distinct : key ∉ names)
    (fresh : ∀ name ∈ key :: names, name ∉ seen) (name : String) (member : name ∈ names) :
    name ∉ if reader.knows key then key :: seen else seen := by
  intro old
  split at old
  · rcases List.mem_cons.mp old with rfl | old
    · exact distinct member
    · exact fresh name (List.mem_cons_of_mem _ member) old
  · exact fresh name (List.mem_cons_of_mem _ member) old

/-- Fields with different names are read to the end if each of them can be read. -/
theorem exists_walk (distinct : (fields.map Prod.fst).Nodup) (fresh : ∀ name ∈ fields.map Prod.fst, name ∉ seen)
    (reads : ∀ field ∈ fields, ∀ record, ∃ changed, reader.read field.1 field.2 record = .ok changed) (start : ρ) :
    ∃ after result, reader.walk seen fields start = .ok (after, result) := by
  induction fields generalizing seen start with
  | nil => exact ⟨_, _, rfl⟩
  | cons field fields inductionHypothesis =>
    obtain ⟨key, value⟩ := field
    rw [List.map_cons, List.nodup_cons] at distinct
    obtain ⟨changed, read⟩ := reads _ List.mem_cons_self start
    have unseen : ¬seen.contains key = true := fun contained =>
      fresh key List.mem_cons_self (List.contains_iff_mem.mp contained)
    rw [walk, if_neg unseen]
    simp only [read]
    exact inductionHypothesis distinct.2 (fresh_of_cons distinct.1 fresh)
      (fun field member => reads field (List.mem_cons_of_mem _ member)) changed

/-! ### Parts of a record -/

/-- What no field that stands there changes is in the end what it was in the beginning. -/
theorem eq_of_unchanged {part : ρ → α} (unchanged : ∀ name ∈ fields.map Prod.fst, ∀ value record changed,
      reader.read name value record = .ok changed → part changed = part record)
    (walked : reader.walk seen fields start = .ok (after, result)) : part result = part start := by
  induction fields generalizing seen start with
  | nil =>
    cases walked
    rfl
  | cons field fields inductionHypothesis =>
    obtain ⟨key, value⟩ := field
    obtain ⟨_, changed, reads, later⟩ := walk_cons walked
    have others := inductionHypothesis (fun name member => unchanged name (List.mem_cons_of_mem _ member)) later
    rw [others, unchanged key List.mem_cons_self value start changed reads]

/-- A part of a record is determined by the field of one name: what that field reads to. -/
structure Determines (reader : FieldReader ρ) (name : String) (read : Json → Reading α) (part : ρ → α) : Prop where
  known : reader.knows name = true
  own : ∀ value record, (reader.read name value record).map part = read value
  other : ∀ field value record changed, field ≠ name → reader.read field value record = .ok changed →
    part changed = part record

variable {read : Json → Reading α} {part : ρ → α}

namespace Determines

theorem eq_of_absent (determines : reader.Determines name read part)
    (walked : reader.walk seen fields start = .ok (after, result)) (absent : Fields.find? name fields = none) :
    part result = part start := by
  refine eq_of_unchanged (fun field member value record changed => ?_) walked
  exact determines.other field value record changed fun same => Fields.find?_eq_none_iff.mp absent (same ▸ member)

/-- In the end the part is what its field reads to, or what it was if there is no such field. -/
theorem readOr_find? (determines : reader.Determines name read part)
    (walked : reader.walk seen fields start = .ok (after, result)) (fresh : name ∉ seen) :
    readOr (part start) read (Fields.find? name fields) = .ok (part result) := by
  induction fields generalizing seen start with
  | nil =>
    cases walked
    rfl
  | cons field fields inductionHypothesis =>
    obtain ⟨key, value⟩ := field
    obtain ⟨_, changed, reads, later⟩ := walk_cons walked
    by_cases same : key = name
    · subst same
      rw [determines.known, if_pos rfl] at later
      have own := determines.own value start
      rw [reads] at own
      rw [Fields.find?, if_pos rfl, determines.eq_of_absent later (find?_of_seen later List.mem_cons_self)]
      exact own.symm
    · rw [Fields.find?, if_neg same, ← determines.other key value start changed same reads]
      refine inductionHypothesis later ?_
      split
      · exact fun old => (List.mem_cons.mp old).elim (fun equal => same equal.symm) fresh
      · exact fresh

theorem exists_read_of_readOr (determines : reader.Determines name read part) {default value : α} {field : Json}
    (reads : readOr default read (some field) = .ok value) (record : ρ) :
    ∃ changed, reader.read name field record = .ok changed := by
  have own := determines.own field record
  rw [show read field = .ok value from reads] at own
  obtain ⟨changed, done, _⟩ := exists_of_map_eq_ok own
  exact ⟨changed, done⟩

end Determines

/-- The parts of a record, each determined by a field of its own. -/
structure Parts (reader : FieldReader ρ) where
  Index : Type
  Value : Index → Type
  field : Index → String
  read : (index : Index) → Json → Reading (Value index)
  of : (index : Index) → ρ → Value index
  determines : ∀ index, reader.Determines (field index) (read index) (of index)
  covers : ∀ name, reader.knows name = true → ∃ index, field index = name
  passes : ∀ name value record, reader.knows name = false → ∃ changed, reader.read name value record = .ok changed

namespace Parts

variable {parts : reader.Parts} {record : ρ}

/-- The parts of a record are what these fields read to, or else those of another record. -/
def ReadFrom (parts : reader.Parts) (fields : Fields) (start record : ρ) : Prop :=
  ∀ index, readOr (parts.of index start) (parts.read index) (Fields.find? (parts.field index) fields) =
    .ok (parts.of index record)

theorem readFrom_of_walk (parts : reader.Parts) (walked : reader.walk [] fields start = .ok (after, result)) :
    parts.ReadFrom fields start result :=
  fun index => (parts.determines index).readOr_find? walked List.not_mem_nil

/-- Fields from which a record is read are read to the end, and give a record with the same parts. -/
theorem ReadFrom.exists_walk (reads : parts.ReadFrom fields start record) (distinct : (fields.map Prod.fst).Nodup) :
    ∃ after result, reader.walk [] fields start = .ok (after, result) ∧
      ∀ index, parts.of index result = parts.of index record := by
  have each : ∀ field ∈ fields, ∀ record, ∃ changed, reader.read field.1 field.2 record = .ok changed := by
    rintro ⟨name, value⟩ member record
    cases known : reader.knows name with
    | false => exact parts.passes name value record known
    | true =>
      obtain ⟨index, rfl⟩ := parts.covers name known
      have own := reads index
      rw [(Fields.find?_eq_some_iff distinct).mpr member] at own
      exact (parts.determines index).exists_read_of_readOr own record
  obtain ⟨after, result, walked⟩ := FieldReader.exists_walk distinct (fun _ _ => List.not_mem_nil) each start
  refine ⟨after, result, walked, fun index => ?_⟩
  have again := parts.readFrom_of_walk walked index
  rw [reads index] at again
  exact (Except.ok.inj again).symm

end Parts

/-- A part of a record keeps the fields that it does not know, in normal form. -/
structure Collects (reader : FieldReader ρ) (part : ρ → Fields) : Prop where
  unknown : ∀ name value record changed, reader.knows name = false → reader.read name value record = .ok changed →
    part changed = Fields.insert name value.normal (part record)
  known : ∀ name value record changed, reader.knows name = true → reader.read name value record = .ok changed →
    part changed = part record

/-- The fields of a mapping that a reader does not know, sorted and in normal form. -/
def free (knows : String → Bool) (fields : Fields) : Fields :=
  Fields.ofList (Json.normalFields (fields.filter fun field => !knows field.1))

theorem Collects.eq_foldl {part : ρ → Fields} (collects : reader.Collects part)
    (walked : reader.walk seen fields start = .ok (after, result)) :
    part result = (Json.normalFields (fields.filter fun field => !reader.knows field.1)).foldl
      (fun sorted field => Fields.insert field.1 field.2 sorted) (part start) := by
  induction fields generalizing seen start with
  | nil =>
    cases walked
    rfl
  | cons field fields inductionHypothesis =>
    obtain ⟨key, value⟩ := field
    obtain ⟨_, changed, reads, later⟩ := walk_cons walked
    rw [inductionHypothesis later]
    cases knows : reader.knows key with
    | true => rw [List.filter_cons_of_neg (by simp [knows]), collects.known key value start changed knows reads]
    | false =>
      rw [List.filter_cons_of_pos (by simp [knows]), collects.unknown key value start changed knows reads]
      rfl

theorem Collects.eq_free {part : ρ → Fields} (collects : reader.Collects part)
    (walked : reader.walk seen fields start = .ok (after, result)) (empty : part start = []) :
    part result = free reader.knows fields := by
  rw [collects.eq_foldl walked, empty]
  rfl

/-! ### Fields that have no meaning of their own -/

variable {knows : String → Bool}

theorem isSorted_free (knows : String → Bool) (fields : Fields) : (free knows fields).IsSorted :=
  Fields.isSorted_ofList _

theorem find?_free (knows : String → Bool) (fields : Fields) (name : String) :
    Fields.find? name (free knows fields) = if knows name then none else
      (Fields.find? name fields.reverse).map Json.normal := by
  rw [free, Fields.find?_ofList, Json.normalFields_eq_map, ← List.map_reverse, ← Json.normalFields_eq_map,
    Json.find?_normalFields, ← List.filter_reverse, Fields.find?_filter fun name => !knows name]
  cases knows name <;> rfl

theorem normal_of_find?_free {fields : Fields} {name : String} {value : Json}
    (found : Fields.find? name (free knows fields) = some value) : value.normal = value := by
  rw [find?_free] at found
  split at found
  · exact nomatch found
  · obtain ⟨former, _, rfl⟩ := Option.map_eq_some_iff.mp found
    exact Json.normal_normal former

/-- Beside fields that are known, free fields do not hide anything. -/
theorem find?_beside_free {known fields : Fields} {name : String} (knowsName : knows name = true) :
    Fields.find? name (Fields.ofList (known ++ free knows fields)) = Fields.find? name known.reverse := by
  rw [Fields.find?_ofList, List.reverse_append, Fields.find?_append, Fields.find?_reverse
    (isSorted_free _ _).nodup_keys,
    find?_free, if_pos knowsName]
  rfl

/-- What was written beside known fields is what is free of all that was written. -/
theorem free_beside_free {known fields : Fields} (all : ∀ name ∈ known.map Prod.fst, knows name = true) :
    free knows (Fields.ofList (known ++ free knows fields)) = free knows fields := by
  refine (isSorted_free _ _).ext (isSorted_free _ _) fun name => ?_
  rw [find?_free knows (Fields.ofList _), Fields.find?_reverse (Fields.isSorted_ofList _).nodup_keys]
  cases knowsName : knows name with
  | true => rw [if_pos rfl, find?_free, if_pos knowsName]
  | false =>
    have absent : Fields.find? name known.reverse = none := by
      refine Fields.find?_eq_none_iff.mpr fun member => ?_
      rw [List.map_reverse, List.mem_reverse] at member
      exact absurd (all name member) (by simp [knowsName])
    rw [if_neg Bool.false_ne_true, Fields.find?_ofList, List.reverse_append, Fields.find?_append, absent,
      Option.or_none,
      Fields.find?_reverse (isSorted_free _ _).nodup_keys]
    cases found : Fields.find? name (free knows fields) with
    | none => rfl
    | some value => exact congrArg some (normal_of_find?_free found)

end FieldReader

end Harvest.Description
