import Harvest.Transform.Chain

/-!
Contract: transforms that can be registered besides the built-in ones.

Each is described by what it does: it fails, it shows what it was given, it stores its
input, or it gives a constant.
-/

namespace Harvest.Transform

inductive Extension where
  | failing (text : String)
  | wrapping
  | storing (name : String)
  | constant (value : Json)

def Extension.transform : Extension → Transform
  | .failing text => .custom fun _ _ _ => .error (.custom text)
  | .wrapping => .custom fun step storage value =>
    .ok (.object [("in", value), ("options", .object step.options)], storage)
  | .storing name => .custom fun _ storage value => .ok (value, storage.insert name value)
  | .constant value => .custom fun _ storage _ => .ok (value, storage)

end Harvest.Transform
