import Tenancy.Text.Basic

/-!
# Reports

What is told of a failure outside the program: the name of its kind and, for most kinds, a text.
-/
namespace Tenancy

/-- The kind of a failure and its text. -/
structure Report where
  kind : Text
  message : Option Text
  deriving DecidableEq, Repr

def Report.of (kind : String) (message : Text) : Report := ⟨Text.ofString kind, some message⟩

end Tenancy
