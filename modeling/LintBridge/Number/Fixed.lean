import LintBridge.Text.Decimal
/-!
# Fixed-width integers

The words a line number passes through on its way from text: a signed decimal read into 64 bits,
refused when it does not fit; a subtraction that stops at the bounds instead of wrapping; and a
conversion to an unsigned 32-bit word, refused when the value does not fit.
-/

namespace LintBridge.Number

/-- Reads digits after an optional sign as a 64-bit integer, refusing a value that does not fit. -/
def readInt64 (cs : List Char) : Option Int64 :=
  match Text.readSigned cs with
  | some n =>
    if h : Int64.minValue.toInt ≤ n ∧ n ≤ Int64.maxValue.toInt then some (Int64.ofIntLE n h.1 h.2)
    else none
  | none => none

/-- Subtraction that stays at the least or the greatest value instead of wrapping. -/
def saturatingSub (a b : Int64) : Int64 := Int64.ofIntClamp (a.toInt - b.toInt)

/-- The unsigned 32-bit word of the same value, when there is one. -/
def toUInt32? (n : Int64) : Option UInt32 :=
  if 0 ≤ n.toInt ∧ n.toInt ≤ 4294967295 then some n.toInt.toNat.toUInt32 else none

theorem toInt_minValue_eq : Int64.minValue.toInt = -9223372036854775808 := rfl

theorem toInt_maxValue_eq : Int64.maxValue.toInt = 9223372036854775807 := rfl

theorem toInt_mem_range (w : Int64) :
    -9223372036854775808 ≤ w.toInt ∧ w.toInt ≤ 9223372036854775807 :=
  ⟨toInt_minValue_eq ▸ w.minValue_le_toInt, toInt_maxValue_eq ▸ w.toInt_le⟩

theorem readInt64_eq_some_iff {cs : List Char} {w : Int64} :
    readInt64 cs = some w ↔ Text.readSigned cs = some w.toInt := by
  unfold readInt64
  constructor
  · intro h
    split at h
    · rename_i n hn
      split at h
      · cases h
        rw [hn, Int64.toInt_ofIntLE]
      · cases h
    · cases h
  · intro h
    simp only [h, dif_pos (And.intro w.minValue_le_toInt w.toInt_le), Int64.ofIntLE_eq_ofInt,
      Int64.ofInt_toInt]

theorem exists_readInt64_of_fits {cs : List Char} {n : Int} (h : Text.readSigned cs = some n)
    (hn : -9223372036854775808 ≤ n ∧ n ≤ 9223372036854775807) :
    ∃ w : Int64, readInt64 cs = some w ∧ w.toInt = n := by
  refine ⟨Int64.ofIntLE n (toInt_minValue_eq ▸ hn.1) (toInt_maxValue_eq ▸ hn.2), ?_,
    Int64.toInt_ofIntLE⟩
  rw [readInt64_eq_some_iff, Int64.toInt_ofIntLE, h]

theorem readInt64_eq_none_of_lt {cs : List Char} {n : Int} (h : Text.readSigned cs = some n)
    (hn : n < -9223372036854775808 ∨ 9223372036854775807 < n) : readInt64 cs = none := by
  have hout : ¬ (Int64.minValue.toInt ≤ n ∧ n ≤ Int64.maxValue.toInt) := by
    rw [toInt_minValue_eq, toInt_maxValue_eq]
    omega
  simp only [readInt64, h, dif_neg hout]

theorem readInt64_eq_none {cs : List Char} (h : Text.readSigned cs = none) : readInt64 cs = none := by
  simp only [readInt64, h]

@[simp]
theorem toInt_saturatingSub (a b : Int64) :
    (saturatingSub a b).toInt =
      max (-9223372036854775808) (min 9223372036854775807 (a.toInt - b.toInt)) := by
  have ha := toInt_mem_range a
  have hb := toInt_mem_range b
  unfold saturatingSub Int64.ofIntClamp
  split
  · rename_i hl
    split
    · rename_i hr
      rw [Int64.toInt_ofIntLE]
      rw [toInt_minValue_eq] at hl
      rw [toInt_maxValue_eq] at hr
      omega
    · rename_i hr
      rw [toInt_maxValue_eq] at hr ⊢
      omega
  · rename_i hl
    rw [toInt_minValue_eq] at hl ⊢
    omega

theorem toUInt32?_eq_some_iff {n : Int64} {w : UInt32} :
    toUInt32? n = some w ↔ n.toInt = w.toNat := by
  have hw := w.toNat_lt
  unfold toUInt32?
  by_cases h : 0 ≤ n.toInt ∧ n.toInt ≤ 4294967295
  · rw [if_pos h, Option.some.injEq, ← UInt32.toNat_inj, Nat.toUInt32_eq, UInt32.toNat_ofNat']
    omega
  · rw [if_neg h]
    simp only [reduceCtorEq, false_iff]
    omega

theorem toUInt32?_eq_none_iff {n : Int64} :
    toUInt32? n = none ↔ n.toInt < 0 ∨ 4294967295 < n.toInt := by
  unfold toUInt32?
  by_cases h : 0 ≤ n.toInt ∧ n.toInt ≤ 4294967295
  · rw [if_pos h]
    simp only [reduceCtorEq, false_iff]
    omega
  · rw [if_neg h]
    simp only [true_iff]
    omega

/-- A word less one, saturating, is a 32-bit word exactly when the word is from 1 to 2^32. -/
theorem toUInt32?_saturatingSub_one (w : Int64) :
    toUInt32? (saturatingSub w 1) =
      if 1 ≤ w.toInt ∧ w.toInt ≤ 4294967296 then some (w.toInt - 1).toNat.toUInt32 else none := by
  have hw := toInt_mem_range w
  -- Less one saturates only at the least word, far below 0.
  have hsub : (saturatingSub w 1).toInt = max (-9223372036854775808) (w.toInt - 1) := by
    rw [toInt_saturatingSub, Int64.toInt_one]
    omega
  by_cases hline : 1 ≤ w.toInt ∧ w.toInt ≤ 4294967296
  · rw [if_pos hline, toUInt32?_eq_some_iff, hsub, Nat.toUInt32_eq, UInt32.toNat_ofNat']
    omega
  · rw [if_neg hline, toUInt32?_eq_none_iff, hsub]
    omega

end LintBridge.Number
