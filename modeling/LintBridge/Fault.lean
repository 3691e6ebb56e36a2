/-!
# Faults

A fault stops the program where it stands. The only one is an addition that overflows its
32-bit word, which happens when a line number at the very top of the range is printed one-based.
-/

namespace LintBridge

/-- Why the program stopped. -/
inductive Fault where
  | addOverflow
  deriving DecidableEq, Repr

/-- What is said when the program stops. -/
def Fault.message : Fault → String
  | .addOverflow => "attempt to add with overflow"

end LintBridge
