import Harvest.Proofs.Description.RoundTrip

/-!
Contract: what is to be parsed is read back from what it is written as.

A configuration is a record of a rule, actions and a pagination. The first two are kept, as all
descriptions are; the numbers of a pagination are below the limits of their fields, which is all
that reading it again needs.
-/

namespace Harvest.Description

open FieldReader

variable {ρ : Type} {fields : List (RecordField ρ)} {start result : ρ} {claim : ρ → Prop}

/-! ### Records -/

theorem exists_of_readAsMapping {entries : Fields} (read : readAsMapping fields start entries = .ok result) :
    ∃ after, readFields fields [] entries start = .ok (after, result) ∧ missing? fields after = none := by
  rw [readAsMapping] at read
  obtain ⟨⟨after, record⟩, parts, complete⟩ := exists_of_bind_eq_ok read
  dsimp only at complete
  split at complete
  · exact nomatch complete
  case h_2 present =>
    cases complete
    exact ⟨after, parts, present⟩

/-- Items are read to a record only if none of them is left. -/
theorem eq_ok_of_noneLeft {parts : Reading (List Json × ρ)} {problem : Problem}
    (read : (parts.bind fun (rest, record) => if rest.isEmpty then .ok record else .error problem) = .ok result) :
    parts = .ok ([], result) := by
  obtain ⟨⟨rest, record⟩, rfl, complete⟩ := exists_of_bind_eq_ok read
  dsimp only at complete
  split at complete
  case isTrue empty =>
    cases complete
    rw [List.isEmpty_iff.mp empty]
  case isFalse => exact nomatch complete

/-- How the fields of a record are read that are given by a list. -/
def recordReader (fields : List (RecordField ρ)) : FieldReader ρ where
  knows name := fields.any (·.name == name)
  read name value record := match fields.find? (·.name == name) with
    | none => .ok record
    | some field => field.read value record

theorem recordReader_knows_of_find? {name : String} {field : RecordField ρ}
    (found : fields.find? (·.name == name) = some field) :
    (recordReader fields).knows name = true := by
  have named := List.find?_some found
  exact List.any_eq_true.mpr ⟨field, List.mem_of_find?_eq_some found, named⟩

/-- Fields that a record does not know are passed over. -/
theorem recordReader_passes (name : String) (value : Json) (record : ρ)
    (unknown : (recordReader fields).knows name = false) :
    ∃ changed, (recordReader fields).read name value record = .ok changed := by
  have absent : fields.find? (·.name == name) = none := by simpa [recordReader] using unknown
  exact ⟨record, by simp only [recordReader, absent]⟩

theorem readFields_eq {seen : List String} (known : ∀ name ∈ seen, (recordReader fields).knows name = true)
    (entries : Fields) (record : ρ) :
    readFields fields seen entries record = (recordReader fields).walk seen entries record := by
  induction entries generalizing seen record with
  | nil => rfl
  | cons entry entries inductionHypothesis =>
    obtain ⟨name, value⟩ := entry
    rw [readFields, walk]
    cases found : fields.find? (·.name == name) with
    | none =>
      have unknown : (recordReader fields).knows name = false := by
        simpa [recordReader] using found
      -- Only known names count as seen, so one that is passed over may come twice.
      have unseen : ¬seen.contains name = true := fun member => by
        rw [known name (List.contains_iff_mem.mp member)] at unknown
        cases unknown
      have passed : (recordReader fields).read name value record = .ok record := by simp only [recordReader, found]
      rw [if_neg unseen, passed]
      show _ = walk _ (if (recordReader fields).knows name = true then name :: seen else seen) entries record
      rw [unknown]
      exact inductionHypothesis known record
    | some field =>
      have knows := recordReader_knows_of_find? found
      have own : (recordReader fields).read name value record = field.read value record := by
        simp only [recordReader, found]
      dsimp only
      split
      · rfl
      · rw [own]
        cases field.read value record with
        | error problem => rfl
        | ok changed =>
          refine inductionHypothesis (fun other member => ?_) changed
          rcases List.mem_cons.mp member with rfl | member
          · exact knows
          · exact known other member

theorem recordReader_read {all : List (RecordField ρ)} (distinct : (all.map (·.name)).Nodup) {field : RecordField ρ}
    (member : field ∈ all) (value : Json) (record : ρ) :
    (recordReader all).read field.name value record = field.read value record := by
  have found : all.find? (·.name == field.name) = some field := by
    induction all with
    | nil => exact nomatch member
    | cons first others inductionHypothesis =>
      rw [List.map_cons, List.nodup_cons] at distinct
      rcases List.mem_cons.mp member with rfl | member
      · exact List.find?_cons_of_pos (beq_self_eq_true _)
      · have different : first.name ≠ field.name := fun same => distinct.1 (same ▸ List.mem_map_of_mem member)
        rw [List.find?_cons_of_neg (by simpa using different)]
        exact inductionHypothesis distinct.2 member
  simp only [recordReader, found]

/-- The items of an array are read as the fields of the names in their order. -/
theorem walk_of_readItems {tooShort : Nat → Problem} {all : List (RecordField ρ)} (distinct : (all.map (·.name)).Nodup)
    {place : Nat} {part : List (RecordField ρ)} (within : part.Sublist all) {items : List Json} {seen : List String}
    (fresh : ∀ name ∈ part.map (·.name), name ∉ seen) {start : ρ}
    (read : readItems tooShort place part items start = .ok ([], result)) :
    ∃ after, (recordReader all).walk seen ((part.map (·.name)).zip items) start = .ok (after, result) := by
  induction part generalizing place items seen start with
  | nil =>
    cases read
    exact ⟨_, rfl⟩
  | cons field part inductionHypothesis =>
    have ownDistinct := distinct.sublist (within.map _)
    rw [List.map_cons, List.nodup_cons] at ownDistinct
    have later := (List.sublist_cons_self field part).trans within
    cases items with
    | nil =>
      rw [readItems] at read
      split at read
      · obtain ⟨after, walked⟩ := inductionHypothesis later
          (fun name member => fresh name (List.mem_cons_of_mem _ member)) read
        refine ⟨after, ?_⟩
        rw [List.zip_nil_right] at walked ⊢
        exact walked
      · cases read
    | cons item items =>
      have unseen : ¬seen.contains field.name = true := fun contained =>
        fresh field.name List.mem_cons_self (List.contains_iff_mem.mp contained)
      rw [readItems] at read
      obtain ⟨changed, own, others⟩ := exists_of_bind_eq_ok read
      rw [List.map_cons, List.zip_cons_cons, walk, if_neg unseen,
        recordReader_read distinct (within.subset List.mem_cons_self), own]
      exact inductionHypothesis later (fresh_of_cons ownDistinct.1 fresh) others

theorem readRecord_walk {title : String} (distinct : (fields.map (·.name)).Nodup) {value : Json}
    (read : readRecord title fields start value = .ok result) :
    ∃ after, (recordReader fields).walk [] (entriesOf (fields.map (·.name)) value) start = .ok (after, result) := by
  cases value with
  | object entries =>
    obtain ⟨after, parts, _⟩ := exists_of_readAsMapping read
    rw [readFields_eq (fun _ old => absurd old List.not_mem_nil)] at parts
    exact ⟨after, parts⟩
  | array items =>
    rw [readRecord] at read
    exact walk_of_readItems distinct (List.Sublist.refl _) (fun _ _ => List.not_mem_nil) (eq_ok_of_noneLeft read)
  | _ => exact nomatch read

/-- A field without a default is there if an array is read. -/
theorem mem_keys_of_readItems {tooShort : Nat → Problem} {place : Nat} {items rest : List Json} {field : RecordField ρ}
    (read : readItems tooShort place fields items start = .ok (rest, result)) (member : field ∈ fields)
    (needed : field.hasDefault = false) : field.name ∈ ((fields.map (·.name)).zip items).map Prod.fst := by
  induction fields generalizing place items start with
  | nil => exact nomatch member
  | cons first fields inductionHypothesis =>
    cases items with
    | nil =>
      rw [readItems] at read
      split at read
      case isTrue hasDefault =>
        rcases List.mem_cons.mp member with rfl | member
        · exact absurd hasDefault (by simp [needed])
        · have there := inductionHypothesis read member
          rw [List.zip_nil_right] at there
          exact nomatch there
      case isFalse => exact nomatch read
    | cons item items =>
      rw [List.map_cons, List.zip_cons_cons, List.map_cons]
      rcases List.mem_cons.mp member with rfl | member
      · exact List.mem_cons_self
      · rw [readItems] at read
        obtain ⟨changed, _, later⟩ := exists_of_bind_eq_ok read
        exact List.mem_cons_of_mem _ (inductionHypothesis later member)

/-- A required field is there if a record is read. -/
theorem mem_keys_of_readRecord {title : String} {value : Json} {field : RecordField ρ}
    (read : readRecord title fields start value = .ok result) (member : field ∈ fields)
      (required : field.isRequired = true)
    (needed : field.hasDefault = false) : field.name ∈ (entriesOf (fields.map (·.name)) value).map Prod.fst := by
  cases value with
  | object entries =>
    obtain ⟨after, walked, present⟩ := exists_of_readAsMapping read
    rw [readFields_eq (fun _ old => absurd old List.not_mem_nil)] at walked
    rw [missing?, Option.map_eq_none_iff, List.find?_eq_none] at present
    have seen : field.name ∈ after := by simpa [required] using present field member
    have known : (recordReader fields).knows field.name = true :=
      List.any_eq_true.mpr ⟨field, member, beq_self_eq_true _⟩
    exact ((mem_after walked known).mp seen).resolve_left List.not_mem_nil
  | array items =>
    rw [readRecord] at read
    exact mem_keys_of_readItems (eq_ok_of_noneLeft read) member needed
  | _ => exact nomatch read

theorem readRecord_object {title : String} {entries : Fields} {after : List String}
    (walked : (recordReader fields).walk [] entries start = .ok (after, result))
    (complete : ∀ field ∈ fields, field.isRequired = true → field.name ∈ entries.map Prod.fst) :
    readRecord title fields start (.object entries) = .ok result := by
  have present : missing? fields after = none := by
    rw [missing?, Option.map_eq_none_iff, List.find?_eq_none]
    intro field member needed
    rw [Bool.and_eq_true, Bool.not_eq_true'] at needed
    have known : (recordReader fields).knows field.name = true :=
      List.any_eq_true.mpr ⟨field, member, beq_self_eq_true _⟩
    have seen : field.name ∈ after := (mem_after walked known).mpr (.inr (complete field member needed.1))
    rw [List.contains_iff_mem.mpr seen] at needed
    exact nomatch needed.2
  rw [readRecord, readAsMapping, readFields_eq (fun _ old => absurd old List.not_mem_nil), walked]
  simp only [Except.bind, present]

/-! ### Paginations -/

/-- What holds of the record to begin with and is kept by all fields holds of what is read. -/
theorem holds_of_readFields (keeps : ∀ field ∈ fields, ∀ value record changed, claim record →
      field.read value record = .ok changed → claim changed) {seen after : List String} {entries : Fields}
    (read : readFields fields seen entries start = .ok (after, result)) (initially : claim start) : claim result := by
  induction entries generalizing seen start with
  | nil =>
    cases read
    exact initially
  | cons entry entries inductionHypothesis =>
    obtain ⟨name, value⟩ := entry
    rw [readFields] at read
    split at read
    · exact inductionHypothesis read initially
    case h_2 field found =>
      split at read
      · exact nomatch read
      · obtain ⟨changed, own, later⟩ := exists_of_bind_eq_ok read
        have member := List.mem_of_find?_eq_some found
        exact inductionHypothesis later (keeps field member value start changed initially own)

theorem holds_of_readItems (keeps : ∀ field ∈ fields, ∀ value record changed, claim record →
      field.read value record = .ok changed → claim changed) {tooShort : Nat → Problem} {place : Nat}
        {items rest : List Json}
    (read : readItems tooShort place fields items start = .ok (rest, result)) (initially : claim start) :
      claim result := by
  induction fields generalizing place items start with
  | nil =>
    cases read
    exact initially
  | cons field fields inductionHypothesis =>
    have later := fun other member => keeps other (List.mem_cons_of_mem field member)
    cases items with
    | nil =>
      rw [readItems] at read
      split at read
      · exact inductionHypothesis later read initially
      · exact nomatch read
    | cons item items =>
      rw [readItems] at read
      obtain ⟨changed, own, others⟩ := exists_of_bind_eq_ok read
      exact inductionHypothesis later others (keeps field List.mem_cons_self item start changed initially own)

theorem holds_of_readAsMapping (keeps : ∀ field ∈ fields, ∀ value record changed, claim record →
      field.read value record = .ok changed → claim changed) {entries : Fields}
    (read : readAsMapping fields start entries = .ok result) (initially : claim start) : claim result := by
  obtain ⟨after, parts, _⟩ := exists_of_readAsMapping read
  exact holds_of_readFields keeps parts initially

theorem holds_of_readVariantItems {variant : Variant ρ} (keeps : ∀ field ∈ variant.fields, ∀ value record changed,
      claim record → field.read value record = .ok changed → claim changed) {items : List Json}
    (read : readVariantItems variant items = .ok result) (initially : claim variant.start) : claim result := by
  rw [readVariantItems] at read
  split at read
  · cases read
    exact initially
  · exact holds_of_readItems keeps (eq_ok_of_noneLeft read) initially

theorem mem_of_readTag {variants : List (Variant ρ)} {tag : Json} {variant : Variant ρ}
    (read : readTag variants tag = .ok variant) : variant ∈ variants := by
  cases tag with
  | string name =>
    rw [readTag] at read
    split at read
    case h_1 own found =>
      cases read
      exact List.mem_of_find?_eq_some found
    case h_2 => exact nomatch read
  | _ => exact nomatch read

/-- A tagged choice is read as one of its variants. -/
theorem holds_of_readChoice {title tag : String} {variants : List (Variant ρ)}
    (starts : ∀ variant ∈ variants, claim variant.start)
    (keeps : ∀ variant ∈ variants, ∀ field ∈ variant.fields, ∀ value record changed, claim record →
      field.read value record = .ok changed → claim changed) {value : Json}
    (read : readChoice title tag variants value = .ok result) : claim result := by
  have chosen : ∀ {name : Json} {content : Variant ρ → Reading ρ}, (readTag variants name).bind content = .ok result →
      ∃ variant ∈ variants, content variant = .ok result := by
    intro name content reads
    obtain ⟨variant, tagged, own⟩ := exists_of_bind_eq_ok reads
    exact ⟨variant, mem_of_readTag tagged, own⟩
  unfold readChoice at read
  split at read
  case h_1 entries =>
    split at read
    · exact nomatch read
    · obtain ⟨variant, member, own⟩ := chosen read
      exact holds_of_readAsMapping (keeps variant member) own (starts variant member)
    · obtain ⟨variant, member, own⟩ := chosen read
      exact nomatch own
  case h_2 => exact nomatch read
  case h_3 name items =>
    obtain ⟨variant, member, own⟩ := chosen read
    exact holds_of_readVariantItems (keeps variant member) own (starts variant member)
  case h_4 => exact nomatch read

/-- The numbers of a pagination are read again from what they are written as. -/
structure HasReadableNumbers (pagination : Pagination) : Prop where
  interval : readOptional readWord (countOrNull pagination.interval) = .ok pagination.interval
  timeout : readOptional readWord (countOrNull pagination.timeout) = .ok pagination.timeout
  maxPages : readOptional readSize (countOrNull pagination.maxPages) = .ok pagination.maxPages

theorem hasReadableNumbers_of_read {value : Json} {pagination : Pagination}
    (read : Pagination.read value = .ok pagination) :
    HasReadableNumbers pagination := by
  refine holds_of_readChoice (fun variant member => ?_)
    (fun variant member field there value before changed numbers own => ?_)
    read
  · simp only [Pagination.variants, List.mem_cons, List.not_mem_nil, or_false] at member
    rcases member with rfl | rfl <;> exact ⟨rfl, rfl, rfl⟩
  · have common : field ∈ Pagination.commonFields → HasReadableNumbers changed := by
      intro common
      simp only [Pagination.commonFields, List.mem_cons, List.not_mem_nil, or_false] at common
      rcases common with rfl | rfl | rfl
      all_goals obtain ⟨number, reads, rfl⟩ := exists_of_map_eq_ok own
      · exact { numbers with interval := readBelow_countOrNull (some value) reads }
      · exact { numbers with timeout := readBelow_countOrNull (some value) reads }
      · exact { numbers with maxPages := readBelow_countOrNull (some value) reads }
    simp only [Pagination.variants, List.mem_cons, List.not_mem_nil, or_false] at member
    rcases member with rfl | rfl
    · rcases List.mem_cons.mp there with rfl | there
      · obtain ⟨scope, _, rfl⟩ := exists_of_map_eq_ok own
        exact ⟨numbers.interval, numbers.timeout, numbers.maxPages⟩
      · exact common there
    · have turned : ∀ scope, HasReadableNumbers (Pagination.withScope scope before) ∧
          HasReadableNumbers (Pagination.withPageScope scope before) := by
        intro scope
        obtain ⟨turn, _, _, _⟩ := before
        cases turn <;> exact ⟨⟨numbers.interval, numbers.timeout, numbers.maxPages⟩,
          ⟨numbers.interval, numbers.timeout, numbers.maxPages⟩⟩
      rcases List.mem_cons.mp there with rfl | there
      · obtain ⟨scope, _, rfl⟩ := exists_of_map_eq_ok own
        exact (turned scope).1
      rcases List.mem_cons.mp there with rfl | there
      · obtain ⟨scope, _, rfl⟩ := exists_of_map_eq_ok own
        exact (turned scope).2
      · exact common there

theorem read_toJson {pagination : Pagination} (numbers : HasReadableNumbers pagination) :
    Pagination.read pagination.toJson = .ok pagination := by
  obtain ⟨turn, interval, timeout, maxPages⟩ := pagination
  obtain ⟨readInterval, readTimeout, readPages⟩ := numbers
  have order : "interval" < "scope" ∧ ¬"timeout" < "interval" ∧ ¬"timeout" < "scope" ∧ "timeout" < "type" ∧
      ¬"maxPagesCount" < "interval" ∧ "maxPagesCount" < "scope" ∧ "scope" < "type" ∧ "pageScope" < "scope" ∧
      "interval" < "pageScope" ∧ ¬"timeout" < "pageScope" ∧ "maxPagesCount" < "pageScope" := by decide
  cases turn with
  | scroll scope =>
    have sorted : Pagination.toJson ⟨.scroll scope, interval, timeout, maxPages⟩ = .object [
        ("interval", countOrNull interval), ("maxPagesCount", countOrNull maxPages), ("scope", textOrNull scope),
        ("timeout", countOrNull timeout), ("type", .string "scroll")] := by
      simp [Pagination.toJson, Fields.ofList, Fields.insert, order]
    rw [sorted]
    have text := readTextOrNull_textOrNull scope
    rw [readTextOrNull] at text
    simp [Pagination.read, readChoice, readTag, Pagination.variants, readAsMapping, readFields, RecordField.setting,
      Pagination.commonFields, readInterval, readTimeout, readPages, text, missing?, Except.bind, Except.map]
  | control scope pageScope =>
    have sorted : Pagination.toJson ⟨.control scope pageScope, interval, timeout, maxPages⟩ = .object [
        ("interval", countOrNull interval), ("maxPagesCount", countOrNull maxPages), ("pageScope", .string pageScope),
        ("scope", .string scope), ("timeout", countOrNull timeout), ("type", .string "page")] := by
      simp [Pagination.toJson, Fields.ofList, Fields.insert, order]
    rw [sorted]
    simp [Pagination.read, readChoice, readTag, Pagination.variants, readAsMapping, readFields, RecordField.setting,
      RecordField.required, Pagination.commonFields, Pagination.withScope, Pagination.withPageScope, readText,
        readInterval,
      readTimeout, readPages, missing?, Except.bind, Except.map]

/-! ### Configurations -/

inductive ConfigPart where
  | rules | actions | pagination

namespace ConfigPart

@[reducible]
def Value : ConfigPart → Type
  | rules => Rule
  | actions => List Action
  | pagination => Option Pagination

def field : ConfigPart → String
  | rules => "rules"
  | actions => "actions"
  | pagination => "pagination"

def read : (part : ConfigPart) → Json → Reading part.Value
  | rules => readRule
  | actions => readActionList
  | pagination => readOptional Pagination.read

def of : (part : ConfigPart) → ParseConfig → part.Value
  | rules, config => config.rules
  | actions, config => config.actions
  | pagination, config => config.pagination

theorem determines (part : ConfigPart) : (recordReader ParseConfig.fields).Determines part.field part.read part.of where
  known := by cases part <;> rfl
  own value config := by cases part <;> exact map_map_eq fun _ => rfl
  other field value config changed different reads := by
    simp only [recordReader] at reads
    cases found : ParseConfig.fields.find? (·.name == field) with
    | none =>
      rw [found] at reads
      cases reads
      rfl
    | some own =>
      rw [found] at reads
      have named := List.find?_some found
      have member := List.mem_of_find?_eq_some found
      simp only [ParseConfig.fields, List.mem_cons, List.not_mem_nil, or_false] at member
      rcases member with rfl | rfl | rfl
      all_goals
        obtain ⟨_, _, rfl⟩ := exists_of_map_eq_ok reads
        cases part <;> first | rfl | exact absurd (beq_iff_eq.mp named).symm different

theorem covers (name : String) (known : (recordReader ParseConfig.fields).knows name = true) :
    ∃ part : ConfigPart, part.field = name := by
  simp only [recordReader, ParseConfig.fields, List.any_cons, List.any_nil, Bool.or_false, Bool.or_eq_true, beq_iff_eq]
    at known
  rcases known with rfl | rfl | rfl
  exacts [⟨rules, rfl⟩, ⟨actions, rfl⟩, ⟨pagination, rfl⟩]

end ConfigPart

def configParts : (recordReader ParseConfig.fields).Parts where
  Index := ConfigPart
  Value := ConfigPart.Value
  field := ConfigPart.field
  read := ConfigPart.read
  of := ConfigPart.of
  determines := ConfigPart.determines
  covers := ConfigPart.covers
  passes := recordReader_passes

def configEntries (config : ParseConfig) : Fields :=
  Fields.ofList ([("rules", writeRule config.rules),
    ("pagination", Json.optional (config.pagination.map Pagination.toJson))]
    ++ unlessEmpty "actions" (writeActions config.actions))

def ConfigPart.written (config : ParseConfig) : ConfigPart → Option Json
  | rules => some (writeRule config.rules)
  | actions => unlessNone (config.actions.map writeAction)
  | pagination => some (Json.optional (config.pagination.map Pagination.toJson))

theorem find?_configEntries (config : ParseConfig) (part : ConfigPart) :
    Fields.find? part.field (configEntries config) = part.written config := by
  unfold configEntries
  rw [Fields.find?_ofList, writeActions_eq_map]
  cases part <;>
    simp [ConfigPart.field, ConfigPart.written, Fields.find?_append, find?_unlessEmpty, reverse_unlessEmpty,
      Fields.find?]

theorem read_pagination_written {found : Option Json} {pagination : Option Pagination}
    (reads : readOr none (readOptional Pagination.read) found = .ok pagination) :
    readOptional Pagination.read (Json.optional (pagination.map Pagination.toJson)) = .ok pagination := by
  cases pagination with
  | none => rfl
  | some pagination =>
    have numbers : HasReadableNumbers pagination := by
      match found, reads with
      | some value, reads =>
        exact hasReadableNumbers_of_read (read_of_readOptional (show readOptional Pagination.read value = _ from reads))
    exact congrArg (Except.map some) (read_toJson numbers)

/-- A configuration that was read is read again from what it is written as, and the same is shown everywhere. -/
theorem kept_config (value : Json) : Kept .config ParseConfig.read ParseConfig.toJson value := by
  intro config read
  obtain ⟨after, walked⟩ := readRecord_walk (by decide) read
  have parts := configParts.readFrom_of_walk walked
  -- The rules have no default, so what was read has them.
  obtain ⟨child, found⟩ : ∃ child, Fields.find? "rules" (entriesOf Site.config.names value) = some child := by
    have there : "rules" ∈ (entriesOf Site.config.names value).map Prod.fst :=
      mem_keys_of_readRecord read List.mem_cons_self rfl rfl
    exact Option.ne_none_iff_exists'.mp fun absent => Fields.find?_eq_none_iff.mp absent there
  have own : readRule child = .ok config.rules := by
    have rules : readOr _ readRule (Fields.find? "rules" (entriesOf Site.config.names value)) = .ok config.rules :=
      parts .rules
    rwa [found] at rules
  obtain ⟨rulesAgain, rulesAlike⟩ := (isKept child).rule _ own
  have actions : FieldKept .actions [] readActionList (Fields.find? "actions" (entriesOf Site.config.names value))
      (Fields.find? "actions" (configEntries config)) config.actions := by
    rw [show Fields.find? "actions" (configEntries config) = _ from find?_configEntries config .actions,
      readActionList_eq]
    exact fieldKept_array isArrayOf_actions (fun child _ => (isKept child).actions) (readActionList_eq ▸ parts .actions)
  have readFrom : configParts.ReadFrom (configEntries config) ⟨default, [], none⟩ config := by
    intro (part : ConfigPart)
    show readOr (part.of ⟨default, [], none⟩) part.read (Fields.find? part.field (configEntries config)) = .ok
      (part.of config)
    cases part with
    | rules => rw [find?_configEntries]; exact rulesAgain
    | actions => exact actions.1
    | pagination => rw [find?_configEntries]; exact read_pagination_written (parts .pagination)
  obtain ⟨last, other, walkedAgain, same⟩ := readFrom.exists_walk (Fields.isSorted_ofList _).nodup_keys
  have equal : other = config := by
    obtain ⟨_, _, _⟩ := other
    obtain ⟨_, _, _⟩ := config
    rw [ParseConfig.mk.injEq]
    exact ⟨same .rules, same .actions, same .pagination⟩
  rw [equal] at walkedAgain
  have rules : Fields.find? "rules" (configEntries config) = some (writeRule config.rules) :=
    find?_configEntries config .rules
  refine ⟨readRecord_object walkedAgain fun field member required => ?_, ?_⟩
  · simp only [ParseConfig.fields, List.mem_cons, List.not_mem_nil, or_false] at member
    rcases member with rfl | rfl | rfl
    · by_contra absent
      have none : Fields.find? "rules" (configEntries config) = none := Fields.find?_eq_none_iff.mpr absent
      exact nomatch rules.symm.trans none
    all_goals exact nomatch required
  · refine alikeAt_record (fun _ => rfl) rfl rfl fun name inner there path => ?_
    obtain ⟨rfl, rfl⟩ | ⟨rfl, rfl⟩ := Site.inField?_config there
    · show _ = (Fields.find? "rules" (configEntries config)).bind _
      rw [found, rules]
      exact rulesAlike path
    · exact actions.2 path

/-- A configuration that a value is read as is read again, as the same, from what it is written as, so that writing
it once more changes nothing. At the end of every path both values show the same: rules of the same kind, and steps
and actions with the same options and parameters under the same names. -/
theorem written_config_reads_back {value : Json} {config : ParseConfig} (read : ParseConfig.ofJson value = .ok config) :
    ParseConfig.ofJson config.toJson = .ok config ∧
      (ParseConfig.ofJson config.toJson).map ParseConfig.toJson = .ok config.toJson ∧
      ∀ path, shownAt path .config config.toJson = shownAt path .config value := by
  have own : ParseConfig.read value = .ok config := by
    unfold ParseConfig.ofJson at read
    split at read
    case h_1 other reads =>
      cases read
      exact reads
    case h_2 => exact nomatch read
  obtain ⟨again, alike⟩ := kept_config value config own
  have written : ParseConfig.ofJson config.toJson = .ok config := by rw [ParseConfig.ofJson, again]
  exact ⟨written, by rw [written]; rfl, fun path => (alike path).symm⟩

/-- A configuration with a rule that is given as an array, a row, and actions that nest. -/
def nestedListing : Json := .object [
  ("rules", .array [.string "ul", .null, .string "list",
    .array [.array [.object [("name", .string "title"), ("type", .object [("array", .null)])]]],
    .array [.object [("separator", .string ","), ("type", .string "split")]], .array [], .string "string", .null,
      .null, .null]),
  ("actions", .array [.object [("type", .string "condition"),
    ("elseActions", .array [.object [("type", .string "parse"), ("rules", .object [("scope", .string "b")])]]),
    ("cases", .array [.array [.object [("type", .string "pause"), ("timeout", .int 5), ("delay", .int 7)]]])]]),
  ("pagination", .object [("type", .string "scroll"), ("maxPagesCount", .int 3)])]

/-- A parameter in a case of an action of that configuration is there again when it has been written. -/
theorem written_nestedListing : ∃ config, ParseConfig.ofJson nestedListing = .ok config ∧
    ParseConfig.ofJson config.toJson = .ok config ∧
    shownAt [.field "actions", .item 0, .field "cases", .item 0, .item 0] .config config.toJson =
      some (.free [("delay", .int 7)]) ∧
    shownAt [.field "rules", .field "transform", .item 0] .config config.toJson =
      some (.free [("separator", .string ",")]) := by
  have accepted : (ParseConfig.ofJson nestedListing).toBool = true := by decide
  cases read : ParseConfig.ofJson nestedListing with
  | error failure =>
    rw [read] at accepted
    exact nomatch accepted
  | ok config =>
    obtain ⟨again, _, shown⟩ := written_config_reads_back read
    exact ⟨config, rfl, again, shown _, shown _⟩

end Harvest.Description
