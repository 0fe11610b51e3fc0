import Harvest.Run.Action

/-!
Contract: actions that can be registered besides the built-in ones.

Each is described by what it does: it fails, it finds fault with its description, it shows
what it was given, it stores its selector, it ends without an outcome, or it gives a
constant.
-/

namespace Harvest

inductive ActionExtension where
  | failing (text : String)
  | refusing (text : String)
  | echoing
  | storing (name : String)
  | perishing
  | constant (value : Json)

def ActionExtension.perform (extension : ActionExtension) (head : ActionHead) (selector : String) (previous : Json) :
    Script Json :=
  match extension with
  | .failing text => throw (.custom text)
  | .refusing text => throw (.invalidRule (.stated text))
  | .echoing => return .object [("params", .object head.params), ("prev", previous), ("selector", .string selector),
      ("text", Description.textOrNull (head.textParam? "text"))]
  | .storing name => do
    Script.keep name (.string selector)
    return .string selector
  | .perishing => Script.perish
  | .constant value => return value

end Harvest
