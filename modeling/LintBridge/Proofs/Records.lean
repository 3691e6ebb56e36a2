import LintBridge.Diagnostic.Record
import LintBridge.Proofs.Tabbed
import LintBridge.Proofs.Colon

/-!
# The line a diagnostic shows

A record keeps the zero-based line of its finding in 32 bits and prints it one-based. Every record
prints the line the linter printed, or line 1 for a line that was no number from 1 to 2^32, save
the record of line 2^32, whose printing is a fault.
-/

open LintBridge.Text

namespace LintBridge.Layout

/-- The line number a report line prints in a layout: the digits after `(line:` on a tabbed
line; on a colon line the first run of digits before the colon, which may be missing. -/
def PrintsLine : Layout → List Char → Option Nat → Prop
  | .tabbed, l, n => ∃ p : Report.Tabbed.Parts, p.text = l ∧ n = some (decimalValue p.lineDigits)
  | .colon, l, n => ∃ loc msg, l = loc ++ ':' :: msg ∧ ':' ∉ loc ∧
      n = (Report.Colon.firstDigitRun loc).map decimalValue

theorem PrintsLine.unique {layout : Layout} {l : List Char} {n n' : Option Nat}
    (h : layout.PrintsLine l n) (h' : layout.PrintsLine l n') : n = n' := by
  cases layout with
  | tabbed =>
    obtain ⟨p, rfl, rfl⟩ := h
    obtain ⟨p', hp', rfl⟩ := h'
    have hparts :=
      (Report.Tabbed.readParts_text p).symm.trans (hp' ▸ Report.Tabbed.readParts_text p')
    simp only [Option.some.injEq, Prod.mk.injEq] at hparts
    rw [hparts.2.1]
  | colon =>
    obtain ⟨loc, msg, rfl, hloc, rfl⟩ := h
    obtain ⟨loc', msg', heq, hloc', rfl⟩ := h'
    -- Both locations end at the first colon.
    have htake := congrArg (List.takeWhile (· ≠ ':')) heq
    have hne : ∀ {loc : List Char}, ':' ∉ loc → ∀ c ∈ loc, decide (c ≠ ':') = true :=
      fun hloc c hc => decide_eq_true fun h => hloc (h ▸ hc)
    rw [List.takeWhile_append_of_pos (hne hloc), List.takeWhile_append_of_pos (hne hloc')]
      at htake
    simp at htake
    rw [htake]

theorem exists_printsLine_of_mem_read {layout : Layout} {text : List Char} {f : Finding}
    (hf : f ∈ layout.read text) :
    ∃ l ∈ lines text, layout.readLine l = some f ∧
      ∃ n, layout.PrintsLine l n ∧ f.line = Finding.lineOfPrinted n := by
  obtain ⟨l, hl, hread⟩ := List.mem_filterMap.mp hf
  refine ⟨l, hl, hread, ?_⟩
  cases layout with
  | tabbed =>
    obtain ⟨p, rfl, rfl⟩ := Report.Tabbed.exists_parts_of_readLine hread
    exact ⟨_, ⟨p, rfl, rfl⟩, rfl⟩
  | colon =>
    obtain ⟨loc, msg, rfl, hloc, hline⟩ := Report.Colon.exists_location_of_readLine hread
    exact ⟨_, ⟨loc, msg, rfl, hloc, rfl⟩, hline⟩

end LintBridge.Layout

namespace LintBridge.Record

/-- The one-based line shown for a printed line number: the number itself when it is a line a
record can show, else line 1. -/
def shownLine : Option Nat → Nat
  | some k => if 1 ≤ k ∧ k ≤ 4294967295 then k else 1
  | none => 1

theorem lineOfPrinted_toNat_eq_max_iff (n : Option Nat) :
    (Finding.lineOfPrinted n).toNat = 4294967295 ↔ n = some 4294967296 := by
  rcases n with _ | k
  · simp [Finding.lineOfPrinted]
  · simp only [Finding.lineOfPrinted, Finding.lineOfNumber, Option.some.injEq]
    split_ifs with hk
    · simp only [Nat.toUInt32_eq, UInt32.toNat_ofNat']
      omega
    · simp
      omega

theorem lineOfPrinted_toNat_add_one {n : Option Nat} (hn : n ≠ some 4294967296) :
    (Finding.lineOfPrinted n).toNat + 1 = shownLine n := by
  rcases n with _ | k
  · rfl
  · simp only [Finding.lineOfPrinted, Finding.lineOfNumber, shownLine]
    have hk : k ≠ 4294967296 := fun h => hn (h ▸ rfl)
    split_ifs with h1 h2 h2
    · simp only [Nat.toUInt32_eq, UInt32.toNat_ofNat']
      omega
    · omega
    · omega
    · rfl

theorem render_eq_error_iff (r : Record) (path : String) :
    r.render path = .error .addOverflow ↔ r.range.start.line.toNat = 4294967295 := by
  have hlt := r.range.start.line.toNat_lt
  have hpow : Nat.pow 2 32 = 4294967296 := by decide
  unfold render
  split_ifs with h
  · simp only [false_iff]
    omega
  · simp only [true_iff]
    omega

theorem render_of_ne_max (r : Record) (path : String)
    (h : r.range.start.line.toNat ≠ 4294967295) :
    ∃ rest, r.render path =
      .ok (path ++ ":" ++ toString (r.range.start.line.toNat + 1) ++ ":" ++ rest) := by
  have hlt := r.range.start.line.toNat_lt
  have hpow : Nat.pow 2 32 = 4294967296 := by decide
  unfold render
  rw [if_pos (by omega)]
  exact ⟨_, by simp only [String.append_assoc]; rfl⟩

/-- Printing the diagnostics of any report: every record comes from a line of the report, and
its printed line is the line number that line printed, or line 1 when that was no number from 1
to 2^32; printing fails exactly for a line that printed 2^32, the one line number a record
holds but cannot show. -/
theorem render_reportRecords {s : Settings} {text : List Char} {r : Record}
    (hr : r ∈ reportRecords s text) (path : String) :
    ∃ l ∈ lines text, ∃ f, s.outputFormat.readLine l = some f ∧ r = Record.ofFinding s f ∧
      ∃ n, s.outputFormat.PrintsLine l n ∧
        (r.render path = .error .addOverflow ↔ n = some 4294967296) ∧
        (n ≠ some 4294967296 →
          ∃ rest, r.render path = .ok (path ++ ":" ++ toString (shownLine n) ++ ":" ++ rest)) := by
  obtain ⟨f, hf, rfl⟩ := List.mem_map.mp hr
  obtain ⟨l, hl, hread, n, hprints, hline⟩ :=
    Layout.exists_printsLine_of_mem_read (List.mem_of_mem_take hf)
  -- The record stands on the line of its finding.
  have hstart : (Record.ofFinding s f).range.start.line = Finding.lineOfPrinted n := hline
  refine ⟨l, hl, f, hread, rfl, n, hprints, ?_, fun hn => ?_⟩
  · rw [render_eq_error_iff, hstart, lineOfPrinted_toNat_eq_max_iff]
  · have hne : (Record.ofFinding s f).range.start.line.toNat ≠ 4294967295 := by
      rw [hstart, Ne, lineOfPrinted_toNat_eq_max_iff]
      exact hn
    obtain ⟨rest, hrest⟩ := render_of_ne_max _ path hne
    exact ⟨rest, by rw [hrest, hstart, lineOfPrinted_toNat_add_one hn]⟩

/-- The line `\tA (line: 4294967296, col: 1):\tm` gives a record that cannot be printed. -/
theorem render_top_line_record :
    (⟨Range.point 4294967295 1, .error, Record.sourceName, some "A", "M", Docs.fallbackUrl⟩ :
      Record) ∈ reportRecords Settings.default "\tA (line: 4294967296, col: 1):\tm".toList ∧
    Record.render "/z.c"
      ⟨Range.point 4294967295 1, .error, Record.sourceName, some "A", "M", Docs.fallbackUrl⟩ =
      .error .addOverflow := by
  have hr : (⟨Range.point 4294967295 1, .error, Record.sourceName, some "A", "M",
      Docs.fallbackUrl⟩ : Record) ∈
      reportRecords Settings.default "\tA (line: 4294967296, col: 1):\tm".toList := by
    decide +kernel
  refine ⟨hr, ?_⟩
  obtain ⟨l, hl, -, -, -, n, hn, hfail, -⟩ := render_reportRecords hr "/z.c"
  have hl' : l = "\tA (line: 4294967296, col: 1):\tm".toList := by
    have hlines : lines "\tA (line: 4294967296, col: 1):\tm".toList =
        ["\tA (line: 4294967296, col: 1):\tm".toList] := by decide
    rw [hlines] at hl
    simpa using hl
  subst hl'
  -- The line, cut into its parts, prints line number 2^32.
  -- Each membership test is decided through List.all: a bare one would run over every character.
  have hsp : ∀ c ∈ [' '], isBlank c = true := List.all_eq_true.mp (by decide)
  have hp : Layout.PrintsLine .tabbed "\tA (line: 4294967296, col: 1):\tm".toList
      (some 4294967296) :=
    ⟨⟨['\t'], ['A'], [' '], [' '], "4294967296".toList, [' '], [' '], ['1'], ['\t'], ['m'],
      .inl rfl, .group ⟨by decide, List.all_eq_true.mp (by decide)⟩, by decide, hsp, hsp,
      ⟨by decide, List.all_eq_true.mp (by decide)⟩, hsp, hsp,
      ⟨by decide, List.all_eq_true.mp (by decide)⟩, by simp, by decide⟩, rfl, rfl⟩
  exact hfail.mpr (hn.unique hp)

end LintBridge.Record
