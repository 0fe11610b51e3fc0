import Harvest.Json.Basic

/-!
Contract: values kept under names.

A storage is sorted by name, with one value a name; the last one put there counts.
-/

namespace Harvest

structure Storage where
  values : Fields := []

namespace Storage

def ofFields (fields : Fields) : Storage :=
  ⟨Fields.ofList fields⟩

def get? (storage : Storage) (name : String) : Option Json :=
  Fields.find? name storage.values

/-- The value under a name, null if there is none. -/
def get (storage : Storage) (name : String) : Json :=
  (storage.get? name).getD .null

/-- The storage with a value under a name, in place of any former one. -/
def insert (storage : Storage) (name : String) (value : Json) : Storage :=
  ⟨Fields.insert name value storage.values⟩

def contains (storage : Storage) (name : String) : Bool :=
  (storage.get? name).isSome

def size (storage : Storage) : Nat :=
  storage.values.length

def isEmpty (storage : Storage) : Bool :=
  storage.values.isEmpty

def toJson (storage : Storage) : Json :=
  .object storage.values

end Storage

end Harvest
