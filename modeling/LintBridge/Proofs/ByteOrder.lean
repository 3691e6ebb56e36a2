import LintBridge.Text.Utf8
import LintBridge.Proofs.Documentation

/-!
# Byte order of texts

Texts compared by their UTF-8 bytes come in the same order as compared by code point: the bytes
of two different characters part at a byte, and the smaller character has the smaller byte
there. So the binary search over the documented names finds exactly the names in the list.
-/

namespace LintBridge.Text

theorem char_toNat_lt (c : Char) : c.toNat < 0x110000 := by
  have h := c.valid
  simp only [UInt32.isValidChar, Nat.isValidChar, Char.toNat_val] at h
  omega

/-! ## The bytes of one character -/

private theorem div_4096 (x : Nat) : x / 4096 = x / 64 / 64 := by
  rw [Nat.div_div_eq_div_mul]

private theorem div_262144 (x : Nat) : x / 262144 = x / 64 / 64 / 64 := by
  rw [Nat.div_div_eq_div_mul, Nat.div_div_eq_div_mul]

theorem utf8EncodeChar_append_lt {c d : Char} (h : c < d) (u v : List UInt8) :
    String.utf8EncodeChar c ++ u < String.utf8EncodeChar d ++ v := by
  have hcd : c.toNat < d.toNat := h
  have hd := char_toNat_lt d
  -- One case for each length of either encoding. Within a length the bytes are the code
  -- point's base-64 digits, written as nested divisions so that each digit is one step.
  simp only [String.utf8EncodeChar, Char.toNat_val, div_4096, div_262144]
  split_ifs <;>
    simp only [List.cons_append, List.nil_append, List.cons_lt_cons_iff, UInt8.lt_iff_toNat_lt,
      ← UInt8.toNat_inj, UInt8.toNat_ofNat'] <;>
    omega

/-! ## The bytes of a text -/

theorem flatMap_utf8EncodeChar_lt {l₁ l₂ : List Char} (h : l₁ < l₂) :
    l₁.flatMap String.utf8EncodeChar < l₂.flatMap String.utf8EncodeChar := by
  induction h with
  | @nil c l =>
    -- The empty list comes first; the other's bytes are not empty.
    obtain ⟨b, bs, hb⟩ := List.exists_cons_of_ne_nil (@String.utf8EncodeChar_ne_nil c)
    simp [hb]
  | rel hcd => exact utf8EncodeChar_append_lt hcd _ _
  | cons _ ih => exact List.append_left_lt ih

theorem utf8_lt_utf8 {s t : String} (h : s < t) : utf8 s < utf8 t :=
  flatMap_utf8EncodeChar_lt h

theorem utf8_lt_utf8_iff {s t : String} : utf8 s < utf8 t ↔ s < t := by
  refine ⟨fun h => ?_, utf8_lt_utf8⟩
  by_contra hst
  by_cases hts : t < s
  · exact List.lt_asymm h (utf8_lt_utf8 hts)
  · -- Neither comes before the other, so they are the same text.
    obtain rfl : s = t := String.le_antisymm hts hst
    exact List.lt_irrefl _ h

/-- The last character of three bytes comes before one of four. -/
example : utf8 "\uFFFF" < utf8 "😀" := by decide

end LintBridge.Text

namespace LintBridge.KnownErrors

/-! ## The documented names in byte order -/

theorem names_pairwise_utf8_lt : names.toList.Pairwise (fun a b => Text.utf8 a < Text.utf8 b) :=
  List.isChain_iff_pairwise.mp (names_isChain.imp fun _ _ => Text.utf8_lt_utf8)

/-- Whether an identifier is documented is plain membership in the documented names, for every
query, prefixes of names and names in other cases included. The binary search compares texts in
an order that is their byte order, and it is exact because the names increase strictly in it. -/
theorem isKnown_iff_mem_byte_sorted :
    (∀ s t : String, Text.utf8 s < Text.utf8 t ↔ s < t) ∧
      names.toList.Pairwise (fun a b => Text.utf8 a < Text.utf8 b) ∧
      ∀ s, isKnown s = true ↔ s ∈ names.toList :=
  ⟨fun _ _ => Text.utf8_lt_utf8_iff, names_pairwise_utf8_lt, isKnown_iff_mem⟩

end LintBridge.KnownErrors
