/-!
# The phases of a session

A session declares what its module imports, instantiates it once, and then runs calls. An
instantiation that fails ends the session.
-/
namespace WasmLens.Session

inductive Phase where
  | compiled
  | importsDeclared
  | instantiated
  | failed
  deriving Repr, DecidableEq, Inhabited

namespace Phase

def text : Phase → String
  | .compiled => "compiled"
  | .importsDeclared => "declaring imports"
  | .instantiated => "instantiated"
  | .failed => "failed"

/-- Imports can be declared and the module instantiated until the first instantiation. -/
def isOpen : Phase → Bool
  | .compiled | .importsDeclared => true
  | .instantiated | .failed => false

end Phase

end WasmLens.Session
