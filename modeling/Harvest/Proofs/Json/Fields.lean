import Harvest.Json.Basic
import Mathlib.Data.List.Sort
import Mathlib.Data.String.Basic

/-!
Contract: sorted fields, and values in normal form.

Sorted fields are determined by what is found under each name, so equations between them are
shown name by name. A normal form is its own normal form. What is claimed of all values can be
shown value by value, given the claim for what stands in it.
-/

namespace Harvest

namespace Fields

/-- Fields in the order of their names, one a name. -/
def IsSorted (fields : Fields) : Prop :=
  fields.Pairwise fun former later => former.1 < later.1

variable {name : String} {value : Json} {fields : Fields}

theorem find?_eq_none_iff : find? name fields = none ↔ name ∉ fields.map Prod.fst := by
  induction fields with
  | nil => simp [find?]
  | cons field fields inductionHypothesis =>
    obtain ⟨key, former⟩ := field
    by_cases same : key = name
    · simp [find?, same]
    · simp [find?, same, inductionHypothesis, Ne.symm same]

theorem mem_of_find? (found : find? name fields = some value) : (name, value) ∈ fields := by
  induction fields with
  | nil => exact nomatch found
  | cons field fields inductionHypothesis =>
    obtain ⟨key, former⟩ := field
    rw [find?] at found
    split at found
    case isTrue same =>
      cases found
      rw [same]
      exact List.mem_cons_self
    case isFalse => exact List.mem_cons_of_mem _ (inductionHypothesis found)

theorem find?_append (front back : Fields) : find? name (front ++ back) = (find? name front).or (find? name back) := by
  induction front with
  | nil => rfl
  | cons field front inductionHypothesis =>
    obtain ⟨key, former⟩ := field
    rw [List.cons_append, find?, find?]
    split
    · rfl
    · exact inductionHypothesis

/-- Passing over fields by their names hides what is found under those names, and nothing else. -/
theorem find?_filter (keeps : String → Bool) :
    find? name (fields.filter fun field => keeps field.1) = if keeps name then find? name fields else none := by
  induction fields with
  | nil => simp [find?]
  | cons field fields inductionHypothesis =>
    obtain ⟨key, former⟩ := field
    by_cases same : key = name
    · subst same
      cases kept : keeps key <;> simp [kept, find?, inductionHypothesis]
    · cases kept : keeps key <;> simp [kept, find?, same, inductionHypothesis]

theorem find?_reverse (distinct : (fields.map Prod.fst).Nodup) : find? name fields.reverse = find? name fields := by
  induction fields with
  | nil => rfl
  | cons field fields inductionHypothesis =>
    obtain ⟨key, former⟩ := field
    rw [List.map_cons, List.nodup_cons] at distinct
    rw [List.reverse_cons, find?_append, inductionHypothesis distinct.2, find?]
    by_cases same : key = name
    · subst same
      have absent : find? key fields = none := find?_eq_none_iff.mpr distinct.1
      simp [absent, find?]
    · simp [same, find?]

/-! ### Sorting -/

theorem mem_keys_insert {key : String} (member : key ∈ (insert name value fields).map Prod.fst) :
    key = name ∨ key ∈ fields.map Prod.fst := by
  by_contra neither
  rw [not_or] at neither
  refine find?_eq_none_iff.mp ?_ member
  rw [find?_insert_other neither.1]
  exact find?_eq_none_iff.mpr neither.2

/-- A new name is added to the names that are there. -/
theorem perm_keys_insert (new : name ∉ fields.map Prod.fst) :
    ((insert name value fields).map Prod.fst).Perm (name :: fields.map Prod.fst) := by
  induction fields with
  | nil => exact .refl _
  | cons field fields inductionHypothesis =>
    obtain ⟨key, former⟩ := field
    rw [List.map_cons, List.mem_cons, not_or] at new
    rw [insert, if_neg new.1]
    split
    · exact .refl _
    · exact ((inductionHypothesis new.2).cons key).trans (.swap _ _ _)

/-- Of fields with different names, it does not matter which one is put there first. -/
theorem insert_comm {left right : String} (different : left ≠ right) (first second : Json) (fields : Fields) :
    insert left first (insert right second fields) = insert right second (insert left first fields) := by
  induction fields with
  | nil =>
    rcases lt_or_gt_of_ne different with below | above
    · simp [insert, different, different.symm, below, not_lt_of_gt below]
    · simp [insert, different, different.symm, above, not_lt_of_gt above]
  | cons field fields inductionHypothesis =>
    obtain ⟨key, value⟩ := field
    have order := lt_or_gt_of_ne different
    by_cases leftHere : left = key
    · subst leftHere
      grind [insert]
    · by_cases rightHere : right = key
      · subst rightHere
        grind [insert]
      · grind [insert]

theorem IsSorted.insert (sorted : IsSorted fields) : IsSorted (insert name value fields) := by
  induction fields with
  | nil => exact List.pairwise_singleton _ _
  | cons field fields inductionHypothesis =>
    obtain ⟨key, former⟩ := field
    obtain ⟨above, rest⟩ := List.pairwise_cons.mp sorted
    rw [Fields.insert]
    split
    case isTrue same => exact List.pairwise_cons.mpr ⟨by rw [same]; exact above, rest⟩
    split
    case isTrue below =>
      refine List.pairwise_cons.mpr ⟨fun other member => ?_, sorted⟩
      rcases List.mem_cons.mp member with rfl | member
      · exact below
      · exact lt_trans below (above other member)
    case isFalse different below =>
      have higher : key < name := lt_of_le_of_ne (not_lt.mp below) (Ne.symm different)
      refine List.pairwise_cons.mpr ⟨fun other member => ?_, inductionHypothesis rest⟩
      rcases mem_keys_insert (List.mem_map_of_mem member) with same | old
      · rw [same]
        exact higher
      · obtain ⟨known, there, same⟩ := List.mem_map.mp old
        rw [← same]
        exact above known there

theorem isSorted_foldl_insert {sorted : Fields} (start : IsSorted sorted) (fields : Fields) :
    IsSorted (fields.foldl (fun sorted field => insert field.1 field.2 sorted) sorted) := by
  induction fields generalizing sorted with
  | nil => exact start
  | cons field fields inductionHypothesis => exact inductionHypothesis start.insert

theorem isSorted_ofList (fields : Fields) : IsSorted (ofList fields) :=
  isSorted_foldl_insert .nil fields

theorem find?_foldl_insert (sorted : Fields) :
    find? name (fields.foldl (fun sorted field => insert field.1 field.2 sorted) sorted) =
      (find? name fields.reverse).or (find? name sorted) := by
  induction fields generalizing sorted with
  | nil => rfl
  | cons field fields inductionHypothesis =>
    obtain ⟨key, former⟩ := field
    rw [List.foldl_cons, inductionHypothesis, List.reverse_cons, find?_append, Option.or_assoc]
    congr 1
    by_cases same : name = key
    · subst same
      simp [find?_insert_same, find?]
    · simp [find?_insert_other same, find?, Ne.symm same]

/-- Of the values under one name, sorting keeps the last. -/
theorem find?_ofList (fields : Fields) : find? name (ofList fields) = find? name fields.reverse := by
  rw [ofList, find?_foldl_insert]
  exact Option.or_none

theorem IsSorted.nodup_keys (sorted : IsSorted fields) : (fields.map Prod.fst).Nodup := by
  refine List.pairwise_map.mpr (sorted.imp fun below same => ?_)
  rw [same] at below
  exact lt_irrefl _ below

theorem find?_eq_some_iff (distinct : (fields.map Prod.fst).Nodup) :
    find? name fields = some value ↔ (name, value) ∈ fields := by
  refine ⟨mem_of_find?, fun member => ?_⟩
  obtain ⟨found, there⟩ := Option.ne_none_iff_exists'.mp fun absent =>
    find?_eq_none_iff.mp absent (List.mem_map_of_mem member)
  have same := List.inj_on_of_nodup_map distinct (mem_of_find? there) member rfl
  rw [there, (Prod.mk.inj same).2]

/-- Sorted fields are equal when the same is found in them under every name. -/
theorem IsSorted.ext {others : Fields} (sorted : IsSorted fields) (alsoSorted : IsSorted others)
    (same : ∀ name, find? name fields = find? name others) : fields = others := by
  have members : ∀ field, field ∈ fields ↔ field ∈ others := by
    intro field
    rw [← find?_eq_some_iff sorted.nodup_keys, ← find?_eq_some_iff alsoSorted.nodup_keys, same]
  have perm := (List.perm_ext_iff_of_nodup sorted.nodup_keys.of_map alsoSorted.nodup_keys.of_map).mpr members
  exact perm.eq_of_pairwise (fun _ _ _ _ below above => absurd below (lt_asymm above)) sorted alsoSorted

theorem IsSorted.ofList_eq (sorted : IsSorted fields) : ofList fields = fields :=
  (isSorted_ofList fields).ext sorted fun name => by rw [find?_ofList, find?_reverse sorted.nodup_keys]

theorem mem_of_mem_ofList {field : String × Json} (member : field ∈ ofList fields) : field ∈ fields := by
  have found := (find?_eq_some_iff (isSorted_ofList fields).nodup_keys).mpr member
  rw [find?_ofList] at found
  exact List.mem_reverse.mp (mem_of_find? found)

end Fields

namespace Json

def children : Json → List Json
  | .array items => items
  | .object fields => fields.map Prod.snd
  | _ => []

theorem sizeOf_lt_of_mem_children {value child : Json} (member : child ∈ value.children) :
    sizeOf child < sizeOf value := by
  cases value with
  | array items =>
    have smaller : sizeOf child < sizeOf items := List.sizeOf_lt_of_mem member
    simp only [array.sizeOf_spec]
    omega
  | object fields =>
    obtain ⟨⟨name, inner⟩, there, rfl⟩ := List.mem_map.mp member
    have smaller := List.sizeOf_lt_of_mem there
    simp only [Prod.mk.sizeOf_spec] at smaller
    simp only [object.sizeOf_spec]
    omega
  | _ => exact nomatch member

/-- A claim holds of all values if it holds of each, given that it holds of what stands in it. -/
theorem induction {claim : Json → Prop} (step : ∀ value, (∀ child ∈ value.children, claim child) → claim value)
    (value : Json) : claim value :=
  step value fun child _ => induction step child
termination_by sizeOf value
decreasing_by exact sizeOf_lt_of_mem_children ‹_›

theorem mem_children_of_find? {name : String} {value : Json} {fields : Fields}
    (found : Fields.find? name fields = some value) : value ∈ (Json.object fields).children :=
  List.mem_map_of_mem (Fields.mem_of_find? found)

/-! ### Normal forms -/

theorem normalItems_eq_map (items : List Json) : normalItems items = items.map normal := by
  induction items with
  | nil => rfl
  | cons item items inductionHypothesis => rw [normalItems, inductionHypothesis, List.map_cons]

theorem normalFields_eq_map (fields : Fields) :
    normalFields fields = fields.map fun field => (field.1, field.2.normal) := by
  induction fields with
  | nil => rfl
  | cons field fields inductionHypothesis =>
    obtain ⟨name, value⟩ := field
    rw [normalFields, inductionHypothesis, List.map_cons]

theorem find?_normalFields (name : String) (fields : Fields) :
    Fields.find? name (normalFields fields) = (Fields.find? name fields).map normal := by
  induction fields with
  | nil => rfl
  | cons field fields inductionHypothesis =>
    obtain ⟨key, value⟩ := field
    rw [normalFields, Fields.find?, Fields.find?]
    split
    · rfl
    · exact inductionHypothesis

/-- Sorted fields with values in normal form are their own normal form. -/
theorem ofList_normalFields_eq {fields : Fields} (sorted : fields.IsSorted)
    (normal : ∀ field ∈ fields, field.2.normal = field.2) : Fields.ofList (normalFields fields) = fields := by
  have unchanged : normalFields fields = fields := by
    rw [normalFields_eq_map]
    refine Eq.trans (List.map_congr_left fun field member => ?_) (List.map_id fields)
    rw [normal field member]
    rfl
  rw [unchanged, sorted.ofList_eq]

@[simp]
theorem normal_normal (value : Json) : value.normal.normal = value.normal := by
  induction value using induction with
  | step value inside =>
    cases value with
    | array items =>
      simp only [normal, normalItems_eq_map, List.map_map]
      congr 1
      exact List.map_congr_left inside
    | object fields =>
      simp only [normal]
      congr 1
      refine ofList_normalFields_eq (Fields.isSorted_ofList _) fun field member => ?_
      have there := Fields.mem_of_mem_ofList member
      rw [normalFields_eq_map] at there
      obtain ⟨former, known, rfl⟩ := List.mem_map.mp there
      exact inside former.2 (List.mem_map_of_mem known)
    | _ => rfl

end Json

end Harvest
