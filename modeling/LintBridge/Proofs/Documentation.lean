import LintBridge.Diagnostic.Docs
import LintBridge.Proofs.Tabbed
import Mathlib.Data.List.Chain

/-!
# Documentation pages

A documented identifier links to its page on the site, any other to the fallback page; the
binary search finds a name exactly when it is in the strictly increasing list. For identifiers of
the linter's grammar the page name gives the identifier back, so no two share a page.
-/

namespace LintBridge.KnownErrors

/-! ## Binary search over the documented names -/

theorem size_names : names.size = 99 := rfl

theorem names_isChain : names.toList.IsChain (· < ·) := by
  decide +kernel

theorem names_lt_succ : ∀ i < 98, names.getD i "" < names.getD (i + 1) "" := by
  intro i hi
  have hsucc : i + 1 < names.size := by rw [size_names]; omega
  have hlt := names_isChain.getElem i (by simpa using hsucc)
  simpa [Array.getD, hsucc, Nat.lt_of_succ_lt hsucc] using hlt

theorem names_lt {i j : Nat} (hij : i < j) (hj : j < names.size) :
    names.getD i "" < names.getD j "" := by
  rw [size_names] at hj
  induction j, hij using Nat.le_induction with
  | base => exact names_lt_succ i (by omega)
  | succ j hij ih => exact String.lt_trans (ih (by omega)) (names_lt_succ j (by omega))

theorem names_not_lt {i j : Nat} (hij : i ≤ j) (hj : j < names.size) :
    ¬ names.getD j "" < names.getD i "" := by
  rcases Nat.eq_or_lt_of_le hij with rfl | hlt
  · exact String.lt_irrefl _
  · exact String.lt_asymm (names_lt hlt hj)

theorem compare_eq_lt_iff {s t : String} : compare s t = .lt ↔ s < t :=
  compareOfLessAndEq_eq_lt

theorem compare_eq_gt_iff {s t : String} : compare s t = .gt ↔ t < s :=
  compareOfLessAndEq_eq_gt String.le_antisymm String.le_total String.not_le s t

theorem searchBetween_sound {s : String} {lo hi : Nat} (h : searchBetween s lo hi = true) :
    ∃ i, lo ≤ i ∧ i < hi ∧ names.getD i "" = s := by
  fun_induction searchBetween s lo hi with
  | case1 lo hi hlt mid hcmp ih =>
    obtain ⟨i, hlo, hi', hs⟩ := ih h
    exact ⟨i, hlo, by omega, hs⟩
  | case2 lo hi hlt mid hcmp ih =>
    obtain ⟨i, hlo, hi', hs⟩ := ih h
    exact ⟨i, by omega, hi', hs⟩
  | case3 lo hi hlt mid hcmp =>
    have hs : s = names.getD mid "" :=
      compareOfLessAndEq_eq_eq String.le_refl String.not_le |>.mp hcmp
    exact ⟨mid, by omega, by omega, hs.symm⟩
  | case4 => simp at h

theorem searchBetween_complete {s : String} {lo hi k : Nat} (hhi : hi ≤ names.size)
    (hlo : lo ≤ k) (hk : k < hi) (hks : names.getD k "" = s) : searchBetween s lo hi = true := by
  fun_induction searchBetween s lo hi with
  | case1 lo hi hlt mid hcmp ih =>
    -- The name sought comes before the middle one, so it stands before the middle.
    have hkm : k < mid := Nat.lt_of_not_le fun hmk =>
      names_not_lt hmk (by omega) (hks ▸ compare_eq_lt_iff.mp hcmp)
    exact ih (by omega) hlo hkm
  | case2 lo hi hlt mid hcmp ih =>
    -- The name sought comes after the middle one, so it stands after the middle.
    have hmk : mid < k := Nat.lt_of_not_le fun hkm =>
      names_not_lt hkm (by omega) (hks ▸ compare_eq_gt_iff.mp hcmp)
    exact ih hhi hmk hk
  | case3 => rfl
  | case4 lo hi hge => omega

theorem isKnown_iff_mem (s : String) : isKnown s = true ↔ s ∈ names.toList := by
  rw [Array.mem_toList_iff, Array.mem_iff_getElem]
  constructor
  · intro h
    obtain ⟨i, -, hi, hs⟩ := searchBetween_sound h
    exact ⟨i, hi, by simpa [Array.getD, hi] using hs⟩
  · rintro ⟨i, hi, hs⟩
    exact searchBetween_complete (Nat.le_refl _) (Nat.zero_le i) hi (by simpa [Array.getD, hi])

end LintBridge.KnownErrors

namespace LintBridge.Text

/-! ## Page names -/

theorem map_intercalate {α β : Type} (f : α → β) (sep : List α) :
    ∀ ls : List (List α), (sep.intercalate ls).map f = (sep.map f).intercalate (ls.map (List.map f))
  | [] => rfl
  | [_] => by simp
  | l :: l' :: ls => by simp [map_intercalate f sep (l' :: ls)]

/-- The way back from a page name to an identifier: a hyphen becomes an underscore, and ASCII
letters are uppercased. -/
def upperSnake (c : Char) : Char := if c = '-' then '_' else c.toUpper

theorem upperSnake_toLower {c : Char} (h : Report.Tabbed.isCapital c = true) :
    upperSnake c.toLower = c := by
  have hrange : 65 ≤ c.toNat ∧ c.toNat ≤ 90 := by
    simp only [Report.Tabbed.isCapital, Bool.and_eq_true, decide_eq_true_eq] at h
    exact ⟨h.1, h.2⟩
  obtain ⟨n, hn, rfl⟩ : ∃ n < 26, c = Char.ofNat (65 + n) :=
    ⟨c.toNat - 65, by omega, by rw [show 65 + (c.toNat - 65) = c.toNat by omega, Char.ofNat_toNat]⟩
  revert n
  decide

end LintBridge.Text

namespace LintBridge.Report.Tabbed

theorem Identifier.exists_groups {ident : List Char} (h : Identifier ident) :
    ∃ gs : List (List Char), gs ≠ [] ∧ (∀ g ∈ gs, Capitals g) ∧ ident = ['_'].intercalate gs := by
  induction h with
  | group hg => exact ⟨[_], by simp, by simpa using hg, by simp⟩
  | @join g rest hg hrest ih =>
    obtain ⟨gs, hne, hcaps, rfl⟩ := ih
    refine ⟨g :: gs, by simp, ?_, ?_⟩
    · simpa using ⟨hg, hcaps⟩
    · rw [List.intercalate_cons_of_ne_nil hne]
      simp

end LintBridge.Report.Tabbed

namespace LintBridge.Docs

open LintBridge.Text Report.Tabbed

theorem kebabCase_groups {gs : List (List Char)} (hne : gs ≠ []) (hcaps : ∀ g ∈ gs, Capitals g) :
    (kebabCase (String.ofList (['_'].intercalate gs))).toList =
      ['-'].intercalate (gs.map (List.map Char.toLower)) := by
  have hsplit : (['_'].intercalate gs).splitOn '_' = gs :=
    List.splitOn_intercalate '_' (fun g hg hu => ne_underscore_of_isCapital ((hcaps g hg).2 _ hu) rfl)
      hne
  have hfilter : gs.filter (fun g => !decide (g = [])) = gs :=
    List.filter_eq_self.mpr fun g hg => by simpa using (hcaps g hg).1
  simp [kebabCase, hsplit, hfilter, String.toList_intercalate, Function.comp_def]

theorem kebabCase_map_upperSnake {id : String} (h : Identifier id.toList) :
    (kebabCase id).map upperSnake = id := by
  obtain ⟨gs, hne, hcaps, hid⟩ := h.exists_groups
  have hid' : id = String.ofList (['_'].intercalate gs) := by rw [← hid, String.ofList_toList]
  have hback : ∀ g ∈ gs, (g.map Char.toLower).map upperSnake = g := fun g hg => by
    rw [List.map_map]
    exact (List.map_congr_left fun c hc => upperSnake_toLower ((hcaps g hg).2 c hc)).trans
      (List.map_id g)
  apply String.toList_inj.mp
  rw [String.toList_map, hid', kebabCase_groups hne hcaps, map_intercalate, List.map_map,
    String.toList_ofList]
  congr 1
  exact (List.map_congr_left fun g hg => hback g hg).trans (List.map_id gs)

theorem eq_of_kebabCase_eq {id id' : String} (h : Identifier id.toList)
    (h' : Identifier id'.toList) (heq : kebabCase id = kebabCase id') : id = id' := by
  rw [← kebabCase_map_upperSnake h, ← kebabCase_map_upperSnake h', heq]

/-! ## Links -/

theorem exists_dropTrailingSlashes (s : String) :
    ∃ k, s.toList = (dropTrailingSlashes s).toList ++ List.replicate k '/' ∧
      (dropTrailingSlashes s).toList.getLast? ≠ some '/' := by
  -- Read backwards, the slashes at the end are a run at the front.
  have hsplit := List.takeWhile_append_dropWhile (p := fun c => decide (c = '/'))
    (l := s.toList.reverse)
  have hrep : s.toList.reverse.takeWhile (fun c => decide (c = '/')) =
      List.replicate (s.toList.reverse.takeWhile (fun c => decide (c = '/'))).length '/' :=
    List.eq_replicate_iff.mpr ⟨rfl, fun b hb => by simpa using List.mem_takeWhile_imp hb⟩
  refine ⟨(s.toList.reverse.takeWhile (fun c => decide (c = '/'))).length, ?_, ?_⟩
  · simp only [dropTrailingSlashes, String.toList_ofList]
    conv => lhs; rw [← List.reverse_reverse s.toList, ← hsplit]
    rw [List.reverse_append]
    conv => lhs; rw [hrep]
    rw [List.reverse_replicate]
  · simp only [dropTrailingSlashes, String.toList_ofList, List.getLast?_reverse]
    intro hhead
    have hne : s.toList.reverse.dropWhile (fun c => decide (c = '/')) ≠ [] := by
      intro hnil
      simp [hnil] at hhead
    have hnot := List.head_dropWhile_not (fun c => decide (c = '/')) hne
    rw [List.head?_eq_some_head hne] at hhead
    simp [Option.some.inj hhead] at hnot

theorem documentationUrl_of_mem {id : String} (base : String)
    (h : id ∈ KnownErrors.names.toList) :
    documentationUrl id base = dropTrailingSlashes base ++ "/docs/errors/" ++ kebabCase id := by
  rw [documentationUrl, if_pos ((KnownErrors.isKnown_iff_mem id).mpr h)]

theorem documentationUrl_of_not_mem {id : String} (base : String)
    (h : id ∉ KnownErrors.names.toList) : documentationUrl id base = fallbackUrl := by
  rw [documentationUrl, if_neg (mt (KnownErrors.isKnown_iff_mem id).mp h)]

theorem not_infix_fallbackUrl : ¬ "/docs/errors/".toList <:+: fallbackUrl.toList := by
  decide +kernel

theorem documentationUrl_ne_fallbackUrl {id : String} (base : String)
    (h : id ∈ KnownErrors.names.toList) : documentationUrl id base ≠ fallbackUrl := by
  rw [documentationUrl_of_mem base h]
  intro heq
  apply not_infix_fallbackUrl
  rw [← heq, String.toList_append, String.toList_append]
  exact List.infix_append _ _ _

/-- The link of an identifier: other than the fallback page exactly when the identifier is
documented, and then the site without its trailing slashes, `/docs/errors/` and the page name.
The page name of an identifier of the grammar gives the identifier back when uppercased with its
hyphens turned into underscores, so no other identifier of the grammar has the same link. -/
theorem documentationUrl_page (id base : String) :
    (documentationUrl id base ≠ fallbackUrl ↔ id ∈ KnownErrors.names.toList) ∧
    (id ∈ KnownErrors.names.toList →
      ∃ stem k, base.toList = stem ++ List.replicate k '/' ∧ stem.getLast? ≠ some '/' ∧
        documentationUrl id base = String.ofList stem ++ "/docs/errors/" ++ kebabCase id) ∧
    (Identifier id.toList → (kebabCase id).map upperSnake = id) ∧
    ∀ id', Identifier id.toList → Identifier id'.toList → id ∈ KnownErrors.names.toList →
      documentationUrl id base = documentationUrl id' base → id = id' := by
  refine ⟨⟨fun hne => ?_, documentationUrl_ne_fallbackUrl base⟩, fun hmem => ?_,
    kebabCase_map_upperSnake, fun id' h h' hmem heq => ?_⟩
  · by_contra hmem
    exact hne (documentationUrl_of_not_mem base hmem)
  · obtain ⟨k, hbase, hlast⟩ := exists_dropTrailingSlashes base
    exact ⟨_, k, hbase, hlast, by rw [documentationUrl_of_mem base hmem, String.ofList_toList]⟩
  · -- The same link is no fallback, so both are documented and share the page name.
    have hmem' : id' ∈ KnownErrors.names.toList := by
      by_contra hnot
      exact documentationUrl_ne_fallbackUrl base hmem
        (heq.trans (documentationUrl_of_not_mem base hnot))
    rw [documentationUrl_of_mem base hmem, documentationUrl_of_mem base hmem'] at heq
    exact eq_of_kebabCase_eq h h' ((String.append_right_inj _).mp heq)

/-- `LINE_TOO_LONG` is documented, is of the grammar, and links to `line-too-long` on a site
given with a trailing slash. -/
theorem documentationUrl_line_too_long :
    "LINE_TOO_LONG" ∈ KnownErrors.names.toList ∧ Identifier "LINE_TOO_LONG".toList ∧
      documentationUrl "LINE_TOO_LONG" "https://docs.example.org/" ≠ fallbackUrl ∧
      (∃ stem k, "https://docs.example.org/".toList = stem ++ List.replicate k '/' ∧
        stem.getLast? ≠ some '/' ∧
        documentationUrl "LINE_TOO_LONG" "https://docs.example.org/" =
          String.ofList stem ++ "/docs/errors/" ++ kebabCase "LINE_TOO_LONG") ∧
      (kebabCase "LINE_TOO_LONG").map upperSnake = "LINE_TOO_LONG" := by
  have hmem : "LINE_TOO_LONG" ∈ KnownErrors.names.toList := by decide +kernel
  have hident : Identifier "LINE_TOO_LONG".toList := (isIdentifier_iff _).mp (by decide +kernel)
  obtain ⟨hfallback, hpage, hback, -⟩ :=
    documentationUrl_page "LINE_TOO_LONG" "https://docs.example.org/"
  exact ⟨hmem, hident, hfallback.mpr hmem, hpage hmem, hback hident⟩

end LintBridge.Docs
