import LintBridge.Proofs.Report

/-! # Line numbers written as text

The linter prints a line number as text: blanks around it, an optional `+` or `-`, and ASCII
digits. `normalizeLine` reads it into a 64-bit integer, lowers it by one with saturation and
keeps it when it fits in 32 unsigned bits; the result is the value less one from 1 to 2^32, and
line 0 for any other value or text.
-/

namespace LintBridge.Text

/-! ## Numerals -/

/-- The sign written in front of the digits of a number. -/
inductive Sign where
  | unsigned
  | plus
  | minus
  deriving DecidableEq, Repr

namespace Sign

/-- How the sign is written. -/
def text : Sign → List Char
  | .unsigned => []
  | .plus => ['+']
  | .minus => ['-']

/-- The integer that the sign makes of a magnitude. -/
def apply : Sign → Nat → Int
  | .minus, n => -(n : Int)
  | _, n => n

end Sign

/-- A number written with blanks around it, a sign and ASCII digits. -/
structure SignedNumeral where
  lead : List Char
  sign : Sign
  digits : List Char
  trail : List Char
  lead_blank : ∀ c ∈ lead, isBlank c = true
  digits_ok : IsDigits digits
  trail_blank : ∀ c ∈ trail, isBlank c = true

namespace SignedNumeral

/-- The text the numeral is written as. -/
def text (p : SignedNumeral) : List Char := p.lead ++ (p.sign.text ++ p.digits) ++ p.trail

/-- The integer the numeral denotes. -/
def value (p : SignedNumeral) : Int := p.sign.apply (decimalValue p.digits)

end SignedNumeral

/-! ## Reading a sign and digits -/

theorem readDigits_eq_some_iff {cs : List Char} {n : Nat} :
    readDigits cs = some n ↔ IsDigits cs ∧ decimalValue cs = n := by
  simp [readDigits, IsDigits, List.all_eq_true, digitsValue_eq_decimalValue]

theorem readSigned_sign_digits (sign : Sign) {ds : List Char} (h : IsDigits ds) :
    readSigned (sign.text ++ ds) = some (sign.apply (decimalValue ds)) := by
  cases sign with
  | unsigned => exact readSigned_of_isDigits h
  | plus => simp [readSigned, Sign.text, Sign.apply, readDigits_of_isDigits h]
  | minus => simp [readSigned, Sign.text, Sign.apply, readDigits_of_isDigits h]

theorem exists_sign_of_readSigned {cs : List Char} {n : Int} (h : readSigned cs = some n) :
    ∃ (sign : Sign) (ds : List Char), cs = sign.text ++ ds ∧ IsDigits ds ∧
      sign.apply (decimalValue ds) = n := by
  unfold readSigned at h
  split at h
  · rename_i rest
    obtain ⟨m, hm, rfl⟩ : ∃ m, readDigits rest = some m ∧ -(m : Int) = n := by
      simpa [Option.bind_eq_some_iff] using h
    obtain ⟨hds, rfl⟩ := readDigits_eq_some_iff.mp hm
    exact ⟨.minus, rest, rfl, hds, rfl⟩
  · rename_i rest
    obtain ⟨m, hm, rfl⟩ : ∃ m, readDigits rest = some m ∧ (m : Int) = n := by
      simpa [Option.bind_eq_some_iff] using h
    obtain ⟨hds, rfl⟩ := readDigits_eq_some_iff.mp hm
    exact ⟨.plus, rest, rfl, hds, rfl⟩
  · obtain ⟨m, hm, rfl⟩ : ∃ m, readDigits cs = some m ∧ (m : Int) = n := by
      simpa [Option.bind_eq_some_iff] using h
    obtain ⟨hds, rfl⟩ := readDigits_eq_some_iff.mp hm
    exact ⟨.unsigned, cs, rfl, hds, rfl⟩

/-! ## Trimming -/

theorem dropBlanksEnd_append_blanks {body trail : List Char} {c : Char} (hc : isBlank c = false)
    (ht : ∀ c ∈ trail, isBlank c = true) : dropBlanksEnd (body ++ [c] ++ trail) = body ++ [c] := by
  have htr : ∀ c ∈ trail.reverse, isBlank c = true := fun c h => ht c (List.mem_reverse.mp h)
  have hrev : (body ++ [c] ++ trail).reverse = trail.reverse ++ c :: body.reverse := by simp
  rw [dropBlanksEnd, hrev, dropBlanks_blanks_cons htr hc]
  simp

theorem exists_blanks_around_trimBlanks (cs : List Char) :
    ∃ lead trail, cs = lead ++ trimBlanks cs ++ trail ∧ (∀ c ∈ lead, isBlank c = true) ∧
      ∀ c ∈ trail, isBlank c = true := by
  -- What the front leaves is cut again at its end, read backwards.
  have hback := takeWhile_blank_append_dropBlanks (dropBlanks cs).reverse
  refine ⟨cs.takeWhile isBlank, ((dropBlanks cs).reverse.takeWhile isBlank).reverse, ?_,
    blanks_takeWhile cs, fun c h => blanks_takeWhile _ c (List.mem_reverse.mp h)⟩
  calc cs = cs.takeWhile isBlank ++ dropBlanks cs := (takeWhile_blank_append_dropBlanks cs).symm
    _ = cs.takeWhile isBlank ++ ((dropBlanks cs).reverse.takeWhile isBlank ++
          dropBlanks (dropBlanks cs).reverse).reverse := by rw [hback, List.reverse_reverse]
    _ = _ := by simp [trimBlanks, dropBlanksEnd]

theorem exists_head_last_not_blank (sign : Sign) {ds : List Char} (h : IsDigits ds) :
    (∃ x rest, sign.text ++ ds = x :: rest ∧ isBlank x = false) ∧
      ∃ init d, sign.text ++ ds = init ++ [d] ∧ isBlank d = false := by
  obtain ⟨d0, ds', hds⟩ := List.exists_cons_of_ne_nil h.1
  have hinit := List.dropLast_concat_getLast h.1
  have hlast : isBlank (ds.getLast h.1) = false :=
    not_blank_of_isDigit (h.2 _ (List.getLast_mem h.1))
  refine ⟨?_, sign.text ++ ds.dropLast, ds.getLast h.1, by rw [List.append_assoc, hinit], hlast⟩
  cases sign with
  | unsigned => exact ⟨d0, ds', hds, not_blank_of_isDigit (h.2 d0 (by simp [hds]))⟩
  | plus => exact ⟨'+', ds, rfl, rfl⟩
  | minus => exact ⟨'-', ds, rfl, rfl⟩

theorem trimBlanks_text (p : SignedNumeral) : trimBlanks p.text = p.sign.text ++ p.digits := by
  obtain ⟨⟨x, rest, hx, hxb⟩, init, d, hd, hdb⟩ := exists_head_last_not_blank p.sign p.digits_ok
  have htext : p.text = p.lead ++ x :: (rest ++ p.trail) := by
    rw [SignedNumeral.text, hx]
    simp
  have hfront : dropBlanks p.text = p.sign.text ++ p.digits ++ p.trail := by
    rw [htext, dropBlanks_blanks_cons p.lead_blank hxb, hx, List.cons_append]
  rw [trimBlanks, hfront, hd, dropBlanksEnd_append_blanks hdb p.trail_blank]

theorem readSigned_trimBlanks_eq_some_iff {raw : List Char} {n : Int} :
    readSigned (trimBlanks raw) = some n ↔ ∃ p : SignedNumeral, p.text = raw ∧ p.value = n := by
  constructor
  · intro h
    obtain ⟨sign, ds, hds, hdig, rfl⟩ := exists_sign_of_readSigned h
    obtain ⟨lead, trail, hraw, hlead, htrail⟩ := exists_blanks_around_trimBlanks raw
    exact ⟨⟨lead, sign, ds, trail, hlead, hdig, htrail⟩, by
      rw [SignedNumeral.text, ← hds, ← hraw], rfl⟩
  · rintro ⟨p, rfl, rfl⟩
    rw [trimBlanks_text, readSigned_sign_digits p.sign p.digits_ok, SignedNumeral.value]

end LintBridge.Text

namespace LintBridge.Finding

open LintBridge.Text

/-! ## The zero-based line -/

theorem normalizeLine_text (p : SignedNumeral) :
    (normalizeLine p.text).toNat =
      if 1 ≤ p.value ∧ p.value ≤ 4294967296 then (p.value - 1).toNat else 0 := by
  rw [normalizeLine_of_readSigned (readSigned_trimBlanks_eq_some_iff.mpr ⟨p, rfl, rfl⟩)]
  split_ifs with hrange
  · simp only [Nat.toUInt32_eq, UInt32.toNat_ofNat']
    omega
  · rfl

theorem normalizeLine_of_not_text {raw : List Char} (h : ∀ p : SignedNumeral, p.text ≠ raw) :
    normalizeLine raw = 0 := by
  apply normalizeLine_of_readSigned_none
  rw [Option.eq_none_iff_forall_ne_some]
  intro n hn
  obtain ⟨p, hp, -⟩ := readSigned_trimBlanks_eq_some_iff.mp hn
  exact h p hp

/-- The line of a line number written as text, in full: a numeral, with blanks around it and an
optional sign, gives its value less one when the value is from 1 to 2^32 and 0 otherwise, and a
text that is no numeral gives 0. -/
theorem normalizeLine_numeral (raw : List Char) :
    (∀ p : SignedNumeral, p.text = raw →
      (normalizeLine raw).toNat =
        if 1 ≤ p.value ∧ p.value ≤ 4294967296 then (p.value - 1).toNat else 0) ∧
    ((∀ p : SignedNumeral, p.text ≠ raw) → normalizeLine raw = 0) :=
  ⟨fun p hp => hp ▸ normalizeLine_text p, normalizeLine_of_not_text⟩

/-- ` +7 ` is a numeral for line 7; the least 64-bit value is read, but less one it stays there
and is no line; `7e` is no numeral. -/
theorem normalizeLine_signed_or_not_numeral :
    (normalizeLine " +7 ".toList).toNat = 6 ∧
      (normalizeLine "-9223372036854775808".toList).toNat = 0 ∧ normalizeLine "7e".toList = 0 := by
  have hnone : readSigned (trimBlanks "7e".toList) = none := by decide
  refine ⟨?_, ?_, (normalizeLine_numeral "7e".toList).2 fun q hq => ?_⟩
  · rw [(normalizeLine_numeral " +7 ".toList).1
      ⟨[' '], .plus, ['7'], [' '], List.all_eq_true.mp (by decide),
        ⟨by decide, List.all_eq_true.mp (by decide)⟩, List.all_eq_true.mp (by decide)⟩ rfl]
    decide
  · rw [(normalizeLine_numeral "-9223372036854775808".toList).1
      ⟨[], .minus, "9223372036854775808".toList, [], List.all_eq_true.mp (by decide),
        ⟨by decide, List.all_eq_true.mp (by decide)⟩, List.all_eq_true.mp (by decide)⟩
      (by decide +kernel)]
    decide +kernel
  · have hread := readSigned_trimBlanks_eq_some_iff.mpr ⟨q, hq, rfl⟩
    rw [hnone] at hread
    simp at hread

end LintBridge.Finding
