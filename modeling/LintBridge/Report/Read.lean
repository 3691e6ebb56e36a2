import LintBridge.Text.Lines
import LintBridge.Report.Layout
import LintBridge.Report.Tabbed
import LintBridge.Report.Colon
/-!
# Reading a report

A report is read line by line in the layout the user chose; lines outside the layout are
banners and summaries and give nothing. The findings keep the order of their lines, and no
line's reading depends on another.
-/

namespace LintBridge

namespace Layout

/-- The finding on one line of a report, or `none` for a line that carries none. -/
def readLine : Layout → List Char → Option Finding
  | .tabbed => Report.Tabbed.readLine
  | .colon => Report.Colon.readLine

/-- The findings of a whole report, in the order of its lines. -/
def read (layout : Layout) (text : List Char) : List Finding :=
  (Text.lines text).filterMap layout.readLine

end Layout

end LintBridge
