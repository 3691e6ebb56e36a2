import LintBridge.Proofs.Tabbed
import LintBridge.Proofs.Upper

/-!
# Writing a tabbed finding back

Every finding has a canonical tabbed line, and a finding read from a tabbed line is read back
from it. This rests on normalising a message twice being normalising it once.
-/

open LintBridge.Text

namespace LintBridge

/-! ## Decimal text -/

namespace Text

theorem isDigit_of_mem_toDigits {n : Nat} {c : Char} (h : c ∈ Nat.toDigits 10 n) :
    isDigit c = true := by
  have := Nat.isDigit_of_mem_toDigits (by decide) (by decide) h
  simpa [isDigit, Char.isDigit, Char.le_def] using this

theorem isDigits_toDigits (n : Nat) : IsDigits (Nat.toDigits 10 n) :=
  ⟨Nat.toDigits_ne_nil, fun _ => isDigit_of_mem_toDigits⟩

theorem decimalValue_toDigits (n : Nat) : decimalValue (Nat.toDigits 10 n) = n := by
  rw [← digitsValue_eq_decimalValue]
  exact Nat.ofDigitChars_ten_toDigits

theorem toList_showNat (n : Nat) : (showNat n).toList = Nat.toDigits 10 n :=
  Nat.toList_repr

end Text

/-! ## Normalised messages -/

namespace Finding

theorem normalizeMessage_normalizeMessage (m : List Char) :
    normalizeMessage (normalizeMessage m) = normalizeMessage m := by
  unfold normalizeMessage
  cases h : dropBlanks m with
  | nil => rfl
  | cons c rest =>
    -- After the blanks comes a character that is no blank, and its uppercase form starts with
    -- no blank either, so the second pass drops nothing.
    have hc : isBlank c = false := by
      have := List.head?_dropWhile_not isBlank m
      rwa [← dropBlanks, h] at this
    obtain ⟨u, t, hu, hb⟩ := not_blank_head_upper hc
    have hkeep : dropBlanks (upperFirst (c :: rest)) = upperFirst (c :: rest) := by
      rw [upperFirst, hu, List.cons_append]
      exact dropBlanks_cons_of_not_blank hb
    rw [hkeep, upperFirst_upperFirst]

theorem newline_not_mem_normalizeMessage {m : List Char} (h : '\n' ∉ m) :
    '\n' ∉ normalizeMessage m := by
  unfold normalizeMessage
  have hsuffix : dropBlanks m <:+ m := List.dropWhile_suffix isBlank
  cases hd : dropBlanks m with
  | nil => simp [upperFirst]
  | cons c rest =>
    rw [hd] at hsuffix
    have hc : c ≠ '\n' := fun hc => h (hsuffix.subset (by simp [hc]))
    have hrest : '\n' ∉ rest := fun hr => h (hsuffix.subset (by simp [hr]))
    simp only [upperFirst, List.mem_append, not_or]
    exact ⟨fun hu => hc (newline_mem_upper hu), hrest⟩

theorem lineOfNumber_toNat_add_one (x : UInt32) : lineOfNumber (x.toNat + 1) = x := by
  have := x.toNat_lt
  rw [lineOfNumber, if_pos (by omega)]
  simp

theorem columnOfNumber_toNat (x : UInt32) : columnOfNumber x.toNat = some x := by
  have := x.toNat_lt
  rw [columnOfNumber, if_pos (by omega)]
  simp

/-! ## The canonical line -/

/-- How the canonical line writes a column: its number, or 4294967296 when there is none. -/
def columnText : Option UInt32 → String
  | some c => showNat c.toNat
  | none => "4294967296"

/-- The canonical tabbed line of a finding. -/
def tabbedLine (f : Finding) : String :=
  "\t" ++ f.identifier ++ " (line: " ++ showNat (f.line.toNat + 1) ++ ", col: " ++
    columnText f.column ++ "):\t" ++ f.message

theorem isDigits_columnText (c : Option UInt32) : IsDigits (columnText c).toList := by
  cases c with
  | some c => rw [columnText, toList_showNat]; exact isDigits_toDigits _
  | none => exact ⟨by decide, List.all_eq_true.mp (by decide)⟩

theorem columnOfNumber_columnText (c : Option UInt32) :
    columnOfNumber (decimalValue (columnText c).toList) = c := by
  cases c with
  | some c => rw [columnText, toList_showNat, decimalValue_toDigits, columnOfNumber_toNat]
  | none => decide

end Finding

namespace Report.Tabbed

/-- The parts of the canonical line of the finding that some parts determine. -/
def Parts.canonical (p : Parts) : Parts where
  marker := ['\t']
  ident := p.ident
  gap := [' ']
  lineGap := [' ']
  lineDigits := (showNat (p.finding.line.toNat + 1)).toList
  commaGap := [' ']
  colGap := [' ']
  colDigits := (Finding.columnText p.finding.column).toList
  pad := ['\t']
  message := Finding.normalizeMessage p.message
  marker_ok := .inl rfl
  ident_ok := p.ident_ok
  gap_ne_nil := List.cons_ne_nil _ _
  gap_blank := by simp only [List.mem_singleton, forall_eq]; decide
  lineGap_blank := by simp only [List.mem_singleton, forall_eq]; decide
  lineDigits_ok := by rw [toList_showNat]; exact isDigits_toDigits _
  commaGap_blank := by simp only [List.mem_singleton, forall_eq]; decide
  colGap_blank := by simp only [List.mem_singleton, forall_eq]; decide
  colDigits_ok := Finding.isDigits_columnText _
  pad_ok := by simp
  message_ok := Finding.newline_not_mem_normalizeMessage p.message_ok

theorem Parts.canonical_text (p : Parts) : p.canonical.text = p.finding.tabbedLine.toList := by
  simp [Parts.canonical, Parts.text, Finding.tabbedLine, Parts.finding]

theorem Parts.canonical_finding (p : Parts) : p.canonical.finding = p.finding := by
  -- Each field of the canonical line reads back as the field it was written from.
  have hline : Finding.lineOfNumber (decimalValue p.canonical.lineDigits) = p.finding.line := by
    simp only [Parts.canonical, toList_showNat, decimalValue_toDigits,
      Finding.lineOfNumber_toNat_add_one]
  have hcol : Finding.columnOfNumber (decimalValue p.canonical.colDigits) = p.finding.column :=
    Finding.columnOfNumber_columnText _
  have hmsg : Finding.normalizeMessage p.canonical.message = Finding.normalizeMessage p.message :=
    Finding.normalizeMessage_normalizeMessage _
  rw [Parts.finding, hline, hcol, hmsg]
  rfl

/-- A finding read from a tabbed line is read back from its canonical line, and its message is
already normalised. -/
theorem readLine_tabbedLine {l : List Char} {f : Finding} (h : Layout.readLine .tabbed l = some f) :
    Layout.readLine .tabbed f.tabbedLine.toList = some f ∧
      Finding.normalizeMessage f.message.toList = f.message.toList := by
  obtain ⟨p, -, rfl⟩ := exists_parts_of_readLine h
  refine ⟨?_, ?_⟩
  · rw [← Parts.canonical_text, ← p.canonical_finding]
    exact readLine_text p.canonical
  · simp [Parts.finding, Finding.normalizeMessage_normalizeMessage]

/-- A line with blanks after `Error:`, leading zeros, a column past 32 bits and a message that
uppercases to two characters. -/
theorem readLine_tabbedLine_wide_column :
    Layout.readLine .tabbed "Error: 　NO_SPACE_AFTER (line: 007, col: 4294967296):\t ßig".toList =
        some ⟨"NO_SPACE_AFTER", 6, none, "SSig"⟩ ∧
      Layout.readLine .tabbed (Finding.tabbedLine ⟨"NO_SPACE_AFTER", 6, none, "SSig"⟩).toList =
          some ⟨"NO_SPACE_AFTER", 6, none, "SSig"⟩ ∧
        Finding.normalizeMessage "SSig".toList = "SSig".toList := by
  have h : Layout.readLine .tabbed
      "Error: 　NO_SPACE_AFTER (line: 007, col: 4294967296):\t ßig".toList =
        some ⟨"NO_SPACE_AFTER", 6, none, "SSig"⟩ := by decide
  exact ⟨h, readLine_tabbedLine h⟩

end Report.Tabbed

end LintBridge
