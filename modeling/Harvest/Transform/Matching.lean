import Harvest.Pattern.Template
import Harvest.Transform.Step

/-!
Contract: transforms that replace and find matches of a pattern.

`find` answers with a group of the first match by its number, with the first of
several groups that took part, with all groups or all matches, or with whether there
is a match at all.
-/

namespace Harvest.Transform

/-- Replaces the first match, or all of them under a global pattern, by an expanded template. -/
def replace : Rule := fun step _ value => do
  let pattern ← step.pattern "re"
  let template := ((step.text? "to").getD "").toList
  let text := value.asText.toList
  return .string (String.ofList
    (pattern.replace (fun found => (pattern.substitutionOf text found).expand template) text))

/-- The groups of a match, the whole match first; a group that took no part is none. -/
def groupsOf (pattern : Pattern) (text : List Char) (found : Pattern.Match) : List (Option String) :=
  (List.range (pattern.groupCount + 1)).map fun index => (found.group? text index).map String.ofList

def groupValue (group : Option String) : Json :=
  Json.optional (group.map .string)

/-- A group by its number, null if there is none or it took no part. -/
def groupAt (groups : List (Option String)) (index : Nat) : Option String :=
  (groups[index]?).bind id

def firstGroups? (pattern : Pattern) (text : List Char) : Option (List (Option String)) :=
  (pattern.search? text).map (groupsOf pattern text)

/-- All matches under a global pattern; otherwise the groups of the first match, null without one. -/
def findAll (pattern : Pattern) (text : List Char) : Json :=
  if pattern.isGlobal then
    .array ((pattern.matchesIn text).map fun found =>
      .string (String.ofList (Pattern.between text found.start found.stop)))
  else
    match firstGroups? pattern text with
    | some groups => .array (groups.map groupValue)
    | none => .null

/-- The first of the listed groups that took part in the match. -/
def findFirstOf (groups : List (Option String)) (indices : List Json) : Json :=
  groupValue ((indices.filterMap Json.nat?).findSome? (groupAt groups))

def find : Rule := fun step _ value => do
  let pattern ← step.pattern "re"
  let text := value.asText.toList
  let groups := (firstGroups? pattern text).getD []
  match step.option? "index" with
  | none => return groupValue (groupAt groups 0)
  | some (.string mode) =>
    if mode = "any" then return .bool (pattern.search? text).isSome
    else if mode = "all" then return findAll pattern text
    else throw (.unknownIndex (.string mode))
  | some (.array indices) => return findFirstOf groups indices
  | some (.int index) =>
    match (Json.int index).nat? with
    | some index => return groupValue (groupAt groups index)
    | none => throw .indexNotNatural
  | some (.real _) => throw .indexNotNatural
  | some other => throw (.unknownIndex other)

end Harvest.Transform
