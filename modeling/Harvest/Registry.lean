import Harvest.Failure

/-!
Contract: what is known by name.

A registry is sorted by name with one entry a name; registering under a known name
replaces the entry. A blank name is refused.
-/

namespace Harvest

structure Registry (α : Type) where
  entries : List (String × α) := []

namespace Registry

variable {α : Type}

/-- Entries sorted by name, with one more in place of any of its name. -/
def insertSorted (name : String) (entry : α) : List (String × α) → List (String × α)
  | [] => [(name, entry)]
  | (key, former) :: rest =>
    if name = key then (name, entry) :: rest
    else if name < key then (name, entry) :: (key, former) :: rest
    else (key, former) :: insertSorted name entry rest

def find? (registry : Registry α) (name : String) : Option α :=
  registry.entries.lookup name

theorem mem_entries_of_find? {registry : Registry α} {name : String} {entry : α}
    (found : registry.find? name = some entry) : (name, entry) ∈ registry.entries := by
  obtain ⟨front, back, shape, _⟩ := List.lookup_eq_some_iff.mp found
  rw [shape]
  exact List.mem_append_right front List.mem_cons_self

def insert (registry : Registry α) (name : String) (entry : α) : Registry α :=
  ⟨insertSorted name entry registry.entries⟩

def ofList (entries : List (String × α)) : Registry α :=
  entries.foldl (fun registry entry => registry.insert entry.1 entry.2) {}

def register (registry : Registry α) (what : Registrable) (name : String) (entry : α) :
    Except Failure (Registry α) :=
  if Text.isBlankText name then .error (.namelessRegistration what) else .ok (registry.insert name entry)

def names (registry : Registry α) : List String :=
  registry.entries.map (·.1)

end Registry

end Harvest
