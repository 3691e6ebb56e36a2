import LintBridge.Text.Blank
import LintBridge.Text.Decimal
import LintBridge.Text.Lines
import Mathlib.Data.Nat.Digits.Defs
import Mathlib.Data.List.Induction
import Mathlib.Data.List.TakeWhile

/-! # Blanks, digits and lines

The pieces a report line is made of. A run of blanks stops at the first character that is not
one, a run of ASCII digits reads as the number it denotes, and a text cut at a line feed has the
lines of its two sides.
-/

namespace LintBridge.Text

/-! ## Blanks -/

theorem dropBlanks_blanks_append {b rest : List Char} (hb : ∀ c ∈ b, isBlank c = true) :
    dropBlanks (b ++ rest) = dropBlanks rest :=
  List.dropWhile_append_of_pos hb

theorem dropBlanks_cons_of_not_blank {c : Char} {cs : List Char} (hc : isBlank c = false) :
    dropBlanks (c :: cs) = c :: cs :=
  List.dropWhile_cons_of_neg (by simp [hc])

theorem dropBlanks_blanks_cons {b cs : List Char} {c : Char} (hb : ∀ c ∈ b, isBlank c = true)
    (hc : isBlank c = false) : dropBlanks (b ++ c :: cs) = c :: cs := by
  rw [dropBlanks_blanks_append hb, dropBlanks_cons_of_not_blank hc]

theorem dropBlanks_eq_self {cs : List Char} (h : ∀ hl : 0 < cs.length, isBlank cs[0] = false) :
    dropBlanks cs = cs :=
  List.dropWhile_eq_self_iff.mpr fun hl => by simp [h hl]

theorem dropBlanks_dropWhile {p : Char → Bool} (hp : ∀ c, p c = true → isBlank c = true)
    (cs : List Char) : dropBlanks (cs.dropWhile p) = dropBlanks cs := by
  induction cs with
  | nil => rfl
  | cons c cs ih =>
    by_cases hc : p c = true
    · rw [List.dropWhile_cons_of_pos hc, ih, dropBlanks, dropBlanks,
        List.dropWhile_cons_of_pos (hp c hc)]
    · rw [List.dropWhile_cons_of_neg hc]

theorem blanks_takeWhile (cs : List Char) : ∀ c ∈ cs.takeWhile isBlank, isBlank c = true :=
  fun _ h => List.mem_takeWhile_imp h

theorem takeWhile_blank_append_dropBlanks (cs : List Char) :
    cs.takeWhile isBlank ++ dropBlanks cs = cs :=
  List.takeWhile_append_dropWhile

/-! ## Digits -/

/-- A non-empty run of ASCII digits. -/
def IsDigits (ds : List Char) : Prop := ds ≠ [] ∧ ∀ c ∈ ds, isDigit c = true

/-- The number that decimal digits denote, the most significant one first. -/
def decimalValue (ds : List Char) : Nat := Nat.ofDigits 10 (ds.reverse.map digitValue)

theorem digitsValue_eq_decimalValue (ds : List Char) : digitsValue ds = decimalValue ds := by
  induction ds using List.reverseRecOn with
  | nil => rfl
  | append_singleton ds c ih =>
    simp only [digitsValue, decimalValue, List.foldl_append, List.foldl_cons, List.foldl_nil,
      List.reverse_append, List.reverse_cons, List.reverse_nil, List.nil_append,
      List.singleton_append, List.map_cons, Nat.ofDigits_cons] at ih ⊢
    rw [ih]
    omega

theorem not_blank_of_isDigit {c : Char} (h : isDigit c = true) : isBlank c = false := by
  simp only [isDigit, Bool.and_eq_true, decide_eq_true_eq] at h
  obtain ⟨h0, h9⟩ := h
  have h0' : 48 ≤ c.toNat := h0
  have h9' : c.toNat ≤ 57 := h9
  simp only [isBlank, Bool.or_eq_false_iff, Bool.and_eq_false_iff, beq_eq_false_iff_ne,
    decide_eq_false_iff_not]
  omega

theorem readDigits_of_isDigits {ds : List Char} (h : IsDigits ds) :
    readDigits ds = some (decimalValue ds) := by
  simp [readDigits, h.1, List.all_eq_true.mpr h.2, digitsValue_eq_decimalValue]

theorem readSigned_of_isDigits {ds : List Char} (h : IsDigits ds) :
    readSigned ds = some (decimalValue ds : Int) := by
  obtain ⟨d, rest, rfl⟩ := List.exists_cons_of_ne_nil h.1
  have hd : isDigit d = true := h.2 d (List.mem_cons_self)
  have hminus : d ≠ '-' := by rintro rfl; simp [isDigit] at hd
  have hplus : d ≠ '+' := by rintro rfl; simp [isDigit] at hd
  simp [readSigned, readDigits_of_isDigits h, hminus, hplus]

theorem readUnsigned_of_isDigits {ds : List Char} (h : IsDigits ds) :
    readUnsigned ds = some (decimalValue ds) := by
  obtain ⟨d, rest, rfl⟩ := List.exists_cons_of_ne_nil h.1
  have hd : isDigit d = true := h.2 d (List.mem_cons_self)
  have hplus : d ≠ '+' := by rintro rfl; simp [isDigit] at hd
  simp [readUnsigned, readDigits_of_isDigits h, hplus]

theorem trimBlanks_of_isDigits {ds : List Char} (h : IsDigits ds) : trimBlanks ds = ds := by
  have hnb : ∀ c ∈ ds, isBlank c = false := fun c hc => not_blank_of_isDigit (h.2 c hc)
  have hfront : dropBlanks ds = ds :=
    dropBlanks_eq_self fun hl => hnb _ (List.getElem_mem hl)
  have hback : dropBlanks ds.reverse = ds.reverse :=
    dropBlanks_eq_self fun hl => hnb _ (List.mem_reverse.mp (List.getElem_mem hl))
  simp only [trimBlanks, dropBlanksEnd, hfront, hback, List.reverse_reverse]

/-! ## Lines

`linesFrom cur` reads a text with the characters of the current line already in `cur`. A line
feed closes that line; the end of the text closes it only when it is not empty.
-/

theorem linesFrom_of_newline_not_mem (cur : List Char) {x : List Char} (hx : '\n' ∉ x) :
    linesFrom cur x = if cur = [] ∧ x = [] then [] else [cur.reverse ++ x] := by
  induction x generalizing cur with
  | nil => cases cur <;> simp [linesFrom]
  | cons c x ih =>
    rw [linesFrom, if_neg (List.ne_of_not_mem_cons hx).symm,
      ih (c :: cur) (List.not_mem_of_not_mem_cons hx)]
    simp

theorem lines_of_newline_not_mem {x : List Char} (hx : '\n' ∉ x) :
    lines x = if x = [] then [] else [x] := by
  simp [lines, linesFrom_of_newline_not_mem [] hx]

theorem linesFrom_newline_of_newline_not_mem (cur : List Char) {x : List Char} (hx : '\n' ∉ x) :
    linesFrom cur (x ++ ['\n']) = [dropCarriageReturn (cur.reverse ++ x)] := by
  induction x generalizing cur with
  | nil => simp [linesFrom]
  | cons c x ih =>
    rw [List.cons_append, linesFrom, if_neg (List.ne_of_not_mem_cons hx).symm,
      ih (c :: cur) (List.not_mem_of_not_mem_cons hx)]
    simp

theorem linesFrom_newline_append (cur a b : List Char) :
    linesFrom cur (a ++ '\n' :: b) = linesFrom cur (a ++ ['\n']) ++ lines b := by
  induction a generalizing cur with
  | nil => simp [linesFrom, lines]
  | cons c a ih =>
    simp only [List.cons_append, linesFrom]
    split
    · rw [ih [], List.cons_append]
    · exact ih (c :: cur)

theorem lines_newline_append (a b : List Char) :
    lines (a ++ '\n' :: b) = lines (a ++ ['\n']) ++ lines b :=
  linesFrom_newline_append [] a b

theorem dropCarriageReturn_newline_append (p x : List Char) :
    dropCarriageReturn (p ++ '\n' :: x) = p ++ '\n' :: dropCarriageReturn x := by
  cases x with
  | nil => simp [dropCarriageReturn]
  | cons y ys =>
    simp only [dropCarriageReturn, List.getLast?_append, List.getLast?_cons_cons,
      List.dropLast_append_cons, List.dropLast_cons_cons]
    split <;> simp_all

theorem newline_not_mem_dropCarriageReturn {x : List Char} (hx : '\n' ∉ x) :
    '\n' ∉ dropCarriageReturn x := by
  unfold dropCarriageReturn
  split
  · exact fun h => hx (List.dropLast_subset x h)
  · exact hx

theorem exists_last_newline {a : List Char} (h : '\n' ∈ a) :
    ∃ p x, a = p ++ '\n' :: x ∧ '\n' ∉ x := by
  induction a with
  | nil => simp at h
  | cons c a ih =>
    by_cases ha : '\n' ∈ a
    · obtain ⟨p, x, rfl, hx⟩ := ih ha
      exact ⟨c :: p, x, rfl, hx⟩
    · have hc : c = '\n' := by simpa [ha, eq_comm] using h
      exact ⟨[], a, by simp [hc], ha⟩

end LintBridge.Text
