/-!
# How hard to try

The number of cases that a randomised trial goes through, and the number of steps it
may take to make a failing case smaller.
-/

set_option autoImplicit false

namespace OrderedStore.Trial

/-- The extent of a randomised trial. -/
structure Effort where
  cases : Nat
  shrinkSteps : Nat
  deriving DecidableEq, Repr

namespace Effort

/-- The usual extent. -/
def thorough : Effort := ⟨64, 500⟩

/-- For trials in a hurry. -/
def quick : Effort := ⟨16, 100⟩

end Effort

end OrderedStore.Trial
