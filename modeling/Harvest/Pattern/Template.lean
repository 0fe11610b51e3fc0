import Harvest.Pattern.Basic

/-!
Contract: replacement templates, as page scripts expand them.

After a dollar sign, another dollar sign stands for one, an ampersand for the
match, a back quote for the text before it, an apostrophe for the text behind it,
one or two digits for a group, and a name in angle brackets for a named group when
the pattern names any. Every other dollar sign stands for itself.
-/

namespace Harvest.Pattern

/-- What a template is expanded with: the text before the match, the match, the text behind it, the
groups, and the named groups of a pattern that has some. -/
structure Substitution where
  before : List Char
  found : List Char
  behind : List Char
  groups : List (Option (List Char))
  named : Option (List (String × Option (List Char)))

namespace Substitution

/-- The text of a group by its number. A group that took no part in the match is empty; there is no
answer for a number that no group has. -/
def group? (substitution : Substitution) (index : Nat) : Option (List Char) :=
  if index = 0 then none else (substitution.groups[index - 1]?).map fun text => text.getD []

/-- The text of the group with this name; a name that no group has stands for nothing. -/
def namedGroup (names : List (String × Option (List Char))) (name : List Char) : List Char :=
  ((names.lookup (String.ofList name)).getD none).getD []

/-- The name up to a closing angle bracket, and what follows the bracket. -/
def cutName? : List Char → Option (List Char × List Char)
  | [] => none
  | character :: rest =>
    if character = '>' then some ([], rest)
    else (cutName? rest).map fun found => (character :: found.1, found.2)

/-- What the characters behind a dollar sign stand for, and how many of them do; none when the dollar
sign stands for itself. -/
def reference? (substitution : Substitution) : List Char → Option (List Char × Nat)
  | [] => none
  | mark :: rest =>
    if mark = '$' then some (['$'], 1)
    else if mark = '&' then some (substitution.found, 1)
    else if mark.toNat = 0x60 then some (substitution.before, 1)
    else if mark = '\'' then some (substitution.behind, 1)
    else if mark = '<' then
      match substitution.named with
      | none => none
      | some names => (cutName? rest).map fun found => (namedGroup names found.1, found.1.length + 2)
    else if Decimal.isDigit mark then
      let one := (substitution.group? (Decimal.digitValue mark)).map fun text => (text, 1)
      match rest with
      | [] => one
      | next :: _ =>
        if Decimal.isDigit next then
          match substitution.group? (10 * Decimal.digitValue mark + Decimal.digitValue next) with
          | some text => some (text, 2)
          | none => one
        else one
    else none

/-- A template with its references replaced; `skip` characters of it are already accounted for. -/
def expandFrom (substitution : Substitution) : (skip : Nat) → List Char → List Char
  | _, [] => []
  | skip + 1, _ :: template => expandFrom substitution skip template
  | 0, character :: template =>
    if character = '$' then
      match substitution.reference? template with
      | some (text, used) => text ++ expandFrom substitution used template
      | none => '$' :: expandFrom substitution 0 template
    else character :: expandFrom substitution 0 template

def expand (substitution : Substitution) (template : List Char) : List Char :=
  substitution.expandFrom 0 template

end Substitution

/-- What a match of a pattern in a text gives a template. -/
def substitutionOf (pattern : Pattern) (text : List Char) (found : Match) : Substitution where
  before := text.take found.start
  found := between text found.start found.stop
  behind := text.drop found.stop
  groups := (List.range pattern.groupCount).map fun index => found.group? text (index + 1)
  named :=
    if pattern.names.isEmpty then none
    else some (pattern.names.map fun entry => (entry.1, found.group? text entry.2))

end Harvest.Pattern
