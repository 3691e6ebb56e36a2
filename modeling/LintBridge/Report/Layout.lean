import LintBridge.Choice
/-!
# Report layouts

The linter prints one finding per line, in the `tabbed` layout
(`\tSPACE_REPLACE_TAB (line: 5, col: 3):\tFound space when expecting tab`) or the `colon` one
(`Error (line 12, col 4): Space before function name`).
-/

namespace LintBridge

/-- The layout of the linter's report. -/
inductive Layout where
  | tabbed
  | colon
  deriving DecidableEq, Repr, Inhabited

namespace Layout

/-- The name of a layout in settings. -/
def name : Layout → String
  | .tabbed => "tabbed"
  | .colon => "colon"

/-- Reads a layout's name, in any ASCII case. -/
def ofName (s : String) : Except UnknownChoice Layout :=
  readChoice .layout [("tabbed", .tabbed), ("colon", .colon)] s

end Layout

end LintBridge
