import LintBridge.Text.Upper
import LintBridge.Text.Blank

/-!
# Uppercasing settles in one step

The uppercase form of a character starts with a character that uppercasing leaves alone, so
uppercasing the first character of a text twice is uppercasing it once. The tables are checked
by the kernel, one interval of code points at a time.
-/

namespace LintBridge.Text

namespace CaseShift

/-- Where the stretch moves a code point. -/
def image (r : CaseShift) (n : Nat) : Nat := ((n : Int) + r.shift).toNat

/-- How many code points the stretch holds. -/
def size (r : CaseShift) : Nat := (r.hi - r.lo) / r.step + 1

/-- The code point of the stretch at an index. -/
def point (r : CaseShift) (k : Nat) : Nat := r.lo + r.step * k

/-- Whether every code point of the stretch moves to a character that is no blank and that no
table moves again. -/
def imageSettled (r : CaseShift) : Bool :=
  (caseExpansions.all fun e => e.1.blt (r.image r.lo) || (r.image r.hi).blt e.1) &&
  (caseShifts.all fun r' => (r.image r.hi).blt r'.lo || r'.hi.blt (r.image r.lo) ||
    (List.range r.size).all fun k => !r'.covers (r.image (r.point k))) &&
  (List.range r.size).all fun k =>
    (Char.ofNat (r.image (r.point k))).toNat == r.image (r.point k) &&
      !isBlank (Char.ofNat (r.image (r.point k)))

theorem exists_point_of_covers {r : CaseShift} {n : Nat} (h : r.covers n = true) :
    ∃ k < r.size, n = r.point k := by
  simp only [covers, Bool.and_eq_true, decide_eq_true_eq, beq_iff_eq] at h
  obtain ⟨⟨hlo, hhi⟩, hmod⟩ := h
  refine ⟨(n - r.lo) / r.step, ?_, ?_⟩
  · have := Nat.div_le_div_right (c := r.step) (Nat.sub_le_sub_right hhi r.lo)
    simp only [size]
    omega
  · have := Nat.div_add_mod (n - r.lo) r.step
    simp only [point]
    omega

theorem image_le_image (r : CaseShift) {a b : Nat} (h : a ≤ b) : r.image a ≤ r.image b := by
  simp only [image]
  omega

theorem lo_le_point (r : CaseShift) (hr : r.lo ≤ r.hi) {k : Nat} (hk : k < r.size) :
    r.lo ≤ r.point k ∧ r.point k ≤ r.hi := by
  have hdiv := Nat.mul_div_le (r.hi - r.lo) r.step
  have hk' : r.step * k ≤ r.step * ((r.hi - r.lo) / r.step) :=
    Nat.mul_le_mul_left _ (by simp only [size] at hk; omega)
  simp only [point]
  omega

theorem settled_of_covers {r : CaseShift} (hr : r.imageSettled = true) {n : Nat}
    (hn : r.covers n = true) :
    (Char.ofNat (r.image n)).toNat = r.image n ∧ isBlank (Char.ofNat (r.image n)) = false ∧
      (∀ e ∈ caseExpansions, e.1 ≠ r.image n) ∧ ∀ r' ∈ caseShifts, r'.covers (r.image n) = false := by
  simp only [imageSettled, Bool.and_eq_true, Bool.or_eq_true, List.all_eq_true, List.mem_range,
    Nat.blt_eq, Bool.not_eq_true', beq_iff_eq] at hr
  obtain ⟨⟨hexp, hshift⟩, hpts⟩ := hr
  have hlh : r.lo ≤ r.hi := by simp only [covers, Bool.and_eq_true, decide_eq_true_eq] at hn; omega
  obtain ⟨k, hk, rfl⟩ := exists_point_of_covers hn
  -- The image of the point lies in the image of the whole stretch.
  have hlo := r.image_le_image (r.lo_le_point hlh hk).1
  have hhi := r.image_le_image (r.lo_le_point hlh hk).2
  refine ⟨(hpts k hk).1, (hpts k hk).2, fun e he heq => ?_, fun r' hr' => ?_⟩
  · rcases hexp e he with h | h <;> omega
  · cases hc : r'.covers (r.image (r.point k))
    · rfl
    · have hlh' : r'.lo ≤ r'.hi := by
        simp only [covers, Bool.and_eq_true, decide_eq_true_eq] at hc; omega
      obtain ⟨j, hj, hpt⟩ := exists_point_of_covers hc
      have hbounds := r'.lo_le_point hlh' hj
      rcases hshift r' hr' with (h | h) | h
      · omega
      · omega
      · simpa [hc] using h k hk

end CaseShift

/-- Whether an entry of the expansions starts with a character that uppercasing leaves alone and
that is no blank, and holds no line feed. -/
def expansionSettled (e : Nat × String) : Bool :=
  match e.2.toList with
  | h :: _ => upper h == [h] && !isBlank h && !e.2.toList.contains '\n'
  | [] => false

theorem shifts_settled : caseShifts.all CaseShift.imageSettled = true := by
  decide +kernel

theorem expansions_settled : caseExpansions.all expansionSettled = true := by
  decide +kernel

/-! ## Uppercase forms -/

theorem upper_of_find_expansion {c : Char} {e : Nat × String}
    (he : caseExpansions.find? (fun e => e.1 == c.toNat) = some e) : upper c = e.2.toList := by
  simp [upper, he]

theorem upper_of_find_shift {c : Char} {r : CaseShift}
    (he : caseExpansions.find? (fun e => e.1 == c.toNat) = none)
    (hs : caseShifts.find? (fun r => r.covers c.toNat) = some r) :
    upper c = [Char.ofNat (r.image c.toNat)] := by
  simp [upper, he, hs, CaseShift.image]

theorem upper_of_unmoved {c : Char} (he : ∀ e ∈ caseExpansions, e.1 ≠ c.toNat)
    (hs : ∀ r ∈ caseShifts, r.covers c.toNat = false) : upper c = [c] := by
  have he' : caseExpansions.find? (fun e => e.1 == c.toNat) = none :=
    List.find?_eq_none.mpr fun e hm h => he e hm (by simpa using h)
  have hs' : caseShifts.find? (fun r => r.covers c.toNat) = none :=
    List.find?_eq_none.mpr fun r hm h => by simp [hs r hm] at h
  simp [upper, he', hs']

theorem upper_cases (c : Char) :
    upper c = [c] ∨
      ∃ h t, upper c = h :: t ∧ upper h = [h] ∧ isBlank h = false ∧ '\n' ∉ h :: t := by
  cases he : caseExpansions.find? (fun e => e.1 == c.toNat) with
  | some e =>
    -- An expansion: the table check covers its entry.
    have hset := List.all_eq_true.mp expansions_settled e (List.mem_of_find?_eq_some he)
    rw [upper_of_find_expansion he]
    unfold expansionSettled at hset
    split at hset
    · rename_i h t ht
      simp only [Bool.and_eq_true, beq_iff_eq, Bool.not_eq_true', List.contains_eq_mem,
        decide_eq_false_iff_not] at hset
      exact .inr ⟨h, t, ht, hset.1.1, hset.1.2, ht ▸ hset.2⟩
    · cases hset
  | none =>
    cases hs : caseShifts.find? (fun r => r.covers c.toNat) with
    | some r =>
      -- A stretch: the character it moves to is settled by the stretch's check.
      have hr := List.all_eq_true.mp shifts_settled r (List.mem_of_find?_eq_some hs)
      have hcov : r.covers c.toNat = true := by simpa using List.find?_some hs
      obtain ⟨hval, hblank, hexp, hshift⟩ := CaseShift.settled_of_covers hr hcov
      refine .inr ⟨_, [], upper_of_find_shift he hs, ?_, hblank, ?_⟩
      · exact upper_of_unmoved (by rw [hval]; exact hexp) (by rw [hval]; exact hshift)
      · intro hnl
        rw [List.mem_singleton] at hnl
        rw [← hnl] at hblank
        exact absurd hblank (by decide)
    | none =>
      refine .inl (upper_of_unmoved (fun e hm h => ?_) (fun r hm => ?_))
      · exact List.find?_eq_none.mp he e hm (by simpa using h)
      · simpa using List.find?_eq_none.mp hs r hm

theorem upperFirst_upperFirst (cs : List Char) : upperFirst (upperFirst cs) = upperFirst cs := by
  cases cs with
  | nil => rfl
  | cons c rest =>
    rcases upper_cases c with h | ⟨u, t, h, hu, -, -⟩
    · simp [upperFirst, h]
    · simp [upperFirst, h, hu]

theorem not_blank_head_upper {c : Char} (hc : isBlank c = false) :
    ∃ h t, upper c = h :: t ∧ isBlank h = false := by
  rcases upper_cases c with h | ⟨u, t, h, -, hb, -⟩
  · exact ⟨c, [], h, hc⟩
  · exact ⟨u, t, h, hb⟩

theorem newline_mem_upper {c : Char} (h : '\n' ∈ upper c) : c = '\n' := by
  rcases upper_cases c with hc | ⟨u, t, hc, -, -, hnl⟩
  · simp only [hc, List.mem_singleton] at h
    exact h.symm
  · exact absurd (hc ▸ h) hnl

end LintBridge.Text
