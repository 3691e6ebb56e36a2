import LintBridge.Diagnostic.Record

/-!
# The findings a document shows

The records of a report are its first findings, as many as the display limit allows, each made
into its record. Raising the limit while keeping the other settings extends the records and
changes none of them.
-/

namespace LintBridge

namespace Record

theorem ofFinding_congr {s s' : Settings} (hseverity : s.severity = s'.severity)
    (hdocs : s.docsUrl = s'.docsUrl) : ofFinding s = ofFinding s' := by
  funext f
  simp [ofFinding, hseverity, hdocs]

end Record

section Limit

variable (s : Settings) (findings : List Finding)

@[simp]
theorem length_mapFindings :
    (mapFindings s findings).length = min s.displayLimit findings.length := by
  simp [mapFindings]

theorem getElem?_mapFindings {i : Nat} (hi : i < s.displayLimit) :
    (mapFindings s findings)[i]? = findings[i]?.map (Record.ofFinding s) := by
  simp [mapFindings, hi]

theorem mapFindings_prefix_of_le {s'} (hseverity : s.severity = s'.severity)
    (hdocs : s.docsUrl = s'.docsUrl) (hle : s.displayLimit ≤ s'.displayLimit) :
    mapFindings s findings <+: mapFindings s' findings := by
  rw [mapFindings, mapFindings, Record.ofFinding_congr hseverity hdocs]
  exact (List.take_prefix_take_left hle).map _

end Limit

/-- The records of a report under two settings that differ at most in the display mode and the
maximum: those under the smaller limit come first among those under the larger one. Under any
settings there are as many records as the limit allows and the report has findings, and each is
the record of the finding at its place. -/
theorem mapFindings_read_prefix (layout : Layout) (text : List Char) (s : Settings)
    (mode : DisplayMode) (limit : Option Nat)
    (hle : s.displayLimit ≤ { s with showErrors := mode, maxErrors := limit }.displayLimit) :
    mapFindings s (layout.read text) <+:
        mapFindings { s with showErrors := mode, maxErrors := limit } (layout.read text) ∧
      (mapFindings s (layout.read text)).length = min s.displayLimit (layout.read text).length ∧
      ∀ i < (mapFindings s (layout.read text)).length,
        (mapFindings s (layout.read text))[i]? = (layout.read text)[i]?.map (Record.ofFinding s) := by
  refine ⟨mapFindings_prefix_of_le s _ rfl rfl hle, length_mapFindings s _, fun i hi => ?_⟩
  rw [length_mapFindings] at hi
  exact getElem?_mapFindings s _ (Nat.lt_of_lt_of_le hi (Nat.min_le_left _ _))

/-- A report of two findings shows its first when one finding is shown, and both under a
maximum of three. -/
theorem mapFindings_read_one_then_three :
    ({ Settings.default with showErrors := .one } : Settings).displayLimit ≤
        { Settings.default with showErrors := .all, maxErrors := some 3 }.displayLimit ∧
      mapFindings { Settings.default with showErrors := .one }
          (Layout.read .colon "a:x\nb:y".toList) <+:
        mapFindings { Settings.default with showErrors := .all, maxErrors := some 3 }
          (Layout.read .colon "a:x\nb:y".toList) ∧
      (mapFindings { Settings.default with showErrors := .one }
          (Layout.read .colon "a:x\nb:y".toList)).length =
        min ({ Settings.default with showErrors := .one } : Settings).displayLimit
          (Layout.read .colon "a:x\nb:y".toList).length ∧
      ∀ i < (mapFindings { Settings.default with showErrors := .one }
          (Layout.read .colon "a:x\nb:y".toList)).length,
        (mapFindings { Settings.default with showErrors := .one }
            (Layout.read .colon "a:x\nb:y".toList))[i]? =
          (Layout.read .colon "a:x\nb:y".toList)[i]?.map
            (Record.ofFinding { Settings.default with showErrors := .one }) :=
  have hle : ({ Settings.default with showErrors := .one } : Settings).displayLimit ≤
      { Settings.default with showErrors := .all, maxErrors := some 3 }.displayLimit := by decide
  ⟨hle, mapFindings_read_prefix .colon "a:x\nb:y".toList _ .all (some 3) hle⟩

end LintBridge
