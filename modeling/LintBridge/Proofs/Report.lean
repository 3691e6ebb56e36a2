import LintBridge.Report.Read
import LintBridge.Proofs.Text

/-! # Reading a report line by line

A report is read one line at a time, with nothing carried from a line to the next. Cutting a
report at a line feed therefore cuts its findings there: the findings of the whole report are
those of the text before the line feed, less a carriage return that ends it, followed by those
of the text after it.
-/

open LintBridge.Text

/-! ## Line and column numbers

What a finding records for the numbers printed on its line, said on the numbers themselves.
-/

namespace LintBridge.Finding

/-- The zero-based line of a one-based line number: 1 to 2^32 count from zero, anything else
is line 0. -/
def lineOfNumber (n : Nat) : UInt32 := if 1 ≤ n ∧ n ≤ 4294967296 then (n - 1).toUInt32 else 0

/-- The zero-based line of a line number that a line may lack; without one it is line 0. -/
def lineOfPrinted : Option Nat → UInt32
  | some n => lineOfNumber n
  | none => 0

/-- A printed column is kept when it fits in 32 bits. -/
def columnOfNumber (n : Nat) : Option UInt32 := if n ≤ 4294967295 then some n.toUInt32 else none

theorem normalizeLine_of_readSigned {raw : List Char} {n : Int}
    (h : readSigned (trimBlanks raw) = some n) :
    normalizeLine raw = if 1 ≤ n ∧ n ≤ 4294967296 then (n - 1).toNat.toUInt32 else 0 := by
  by_cases hfit : -9223372036854775808 ≤ n ∧ n ≤ 9223372036854775807
  · obtain ⟨w, hread, rfl⟩ := Number.exists_readInt64_of_fits h hfit
    rw [normalizeLine, hread, Option.bind_some, Number.toUInt32?_saturatingSub_one]
    split_ifs <;> rfl
  · -- Too large or too small for 64 bits: refused, and far outside 1 to 2^32.
    rw [normalizeLine, Number.readInt64_eq_none_of_lt h (by omega), Option.bind_none,
      Option.getD_none, if_neg (by omega)]

theorem normalizeLine_of_readSigned_none {raw : List Char}
    (h : readSigned (trimBlanks raw) = none) : normalizeLine raw = 0 := by
  rw [normalizeLine, Number.readInt64_eq_none h, Option.bind_none, Option.getD_none]

theorem normalizeLine_of_isDigits {ds : List Char} (h : IsDigits ds) :
    normalizeLine ds = lineOfNumber (decimalValue ds) := by
  rw [normalizeLine_of_readSigned (by rw [trimBlanks_of_isDigits h, readSigned_of_isDigits h]),
    lineOfNumber]
  split_ifs with h1 h2 h2
  · congr 1; omega
  · omega
  · omega
  · rfl

theorem columnOf_of_isDigits {ds : List Char} (h : IsDigits ds) :
    columnOf ds = columnOfNumber (decimalValue ds) := by
  have hpow : Nat.pow 2 32 = 4294967296 := by decide
  rw [columnOf, readUnsigned_of_isDigits h, columnOfNumber, hpow]
  simp only
  split_ifs with h1 h2 h2
  · rfl
  · omega
  · omega
  · rfl

end LintBridge.Finding

namespace LintBridge.Layout

@[simp]
theorem readLine_nil (layout : Layout) : layout.readLine [] = none := by
  cases layout <;> rfl

theorem read_of_newline_not_mem (layout : Layout) {s : List Char} (hs : '\n' ∉ s) :
    layout.read s = (layout.readLine s).toList := by
  rw [read, lines_of_newline_not_mem hs]
  split
  · subst s; simp
  · cases h : layout.readLine s <;> simp [h]

theorem read_line_newline_append (layout : Layout) {x : List Char} (hx : '\n' ∉ x)
    (b : List Char) :
    layout.read (x ++ '\n' :: b) = layout.read (dropCarriageReturn x) ++ layout.read b := by
  have hline : lines (x ++ ['\n']) = [dropCarriageReturn x] := by
    rw [lines, linesFrom_newline_of_newline_not_mem [] hx, List.reverse_nil, List.nil_append]
  rw [read_of_newline_not_mem layout (newline_not_mem_dropCarriageReturn hx), read,
    lines_newline_append, hline, read]
  cases h : layout.readLine (dropCarriageReturn x) <;> simp [h]

theorem read_newline_append (layout : Layout) (a b : List Char) :
    layout.read (a ++ '\n' :: b) = layout.read (dropCarriageReturn a) ++ layout.read b := by
  by_cases ha : '\n' ∈ a
  · -- Only the piece after the last line feed of `a` meets the new one.
    obtain ⟨p, x, rfl, hx⟩ := exists_last_newline ha
    have hwhole : ∀ s, layout.read (p ++ '\n' :: s) = layout.read (p ++ ['\n']) ++ layout.read s :=
      fun s => by rw [read, lines_newline_append, List.filterMap_append]; rfl
    rw [List.append_assoc, List.cons_append, hwhole (x ++ '\n' :: b),
      read_line_newline_append layout hx, dropCarriageReturn_newline_append,
      hwhole (dropCarriageReturn x), List.append_assoc]
  · exact read_line_newline_append layout ha b

/-- Reading a report is reading its lines one by one: at every line feed the findings split,
with a carriage return right before it dropped from the line, and a text with no line feed has
the finding of its one line, if it carries one. A lone carriage return, a last one included,
stays in its line. -/
theorem read_splits_at_newline (layout : Layout) :
    (∀ a b : List Char, layout.read (a ++ '\n' :: b) =
      layout.read (if a.getLast? = some '\r' then a.dropLast else a) ++ layout.read b) ∧
    (∀ s : List Char, '\n' ∉ s → layout.read s = (layout.readLine s).toList) :=
  ⟨read_newline_append layout, fun _ hs => read_of_newline_not_mem layout hs⟩

/-- A line ended by a carriage return and a line feed, then a last line without either. -/
theorem read_crlf_then_line :
    Layout.read .colon ("a:1\r".toList ++ '\n' :: "b:2".toList) =
        Layout.read .colon "a:1".toList ++ Layout.read .colon "b:2".toList ∧
      '\n' ∉ "b:2".toList ∧
      Layout.read .colon "b:2".toList = (Layout.readLine .colon "b:2".toList).toList := by
  obtain ⟨hsplit, hline⟩ := read_splits_at_newline .colon
  have hcr : (if "a:1\r".toList.getLast? = some '\r' then "a:1\r".toList.dropLast
      else "a:1\r".toList) = "a:1".toList := by decide
  exact ⟨by rw [hsplit, hcr], by decide, hline _ (by decide)⟩

end LintBridge.Layout
