import LintBridge.Proofs.Session

/-!
# Fetches against the settings cache

A fetch reads the cache's generation when it starts and hands it back with the settings it got.
Along any run from a new session, the settings are cached exactly when nothing cleared the cache
in between, and nothing else changes.
-/

namespace LintBridge.Session

/-! ## One fetch -/

theorem cachedSettings_cacheSettings (s : Session) (k k' : String) (v : Settings) :
    (s.cacheSettings k v).cachedSettings k' = if k = k' then some v else s.cachedSettings k' :=
  KeyMap.get?_insert s.settings k k' v

theorem cacheSettingsFrom_of_eq {s : Session} {g : Nat} (h : g = s.settingsGeneration)
    (k : String) (v : Settings) : s.cacheSettingsFrom g k v = (true, s.cacheSettings k v) := by
  simp [cacheSettingsFrom, h]

theorem cacheSettingsFrom_of_ne {s : Session} {g : Nat} (h : g ≠ s.settingsGeneration)
    (k : String) (v : Settings) : s.cacheSettingsFrom g k v = (false, s) := by
  simp [cacheSettingsFrom, h]

theorem cachedSettings_cacheSettingsFrom_of_ne (s : Session) (g : Nat) {k k' : String}
    (hk : k' ≠ k) (v : Settings) :
    (s.cacheSettingsFrom g k v).2.cachedSettings k' = s.cachedSettings k' := by
  by_cases h : g = s.settingsGeneration
  · rw [cacheSettingsFrom_of_eq h, cachedSettings_cacheSettings, if_neg (Ne.symm hk)]
  · rw [cacheSettingsFrom_of_ne h]

/-! ## The generation along a run -/

theorem perform_settingsGeneration (s : Session) (op : Op) :
    (s.perform op).2.settingsGeneration =
      s.settingsGeneration + if op = .clearSettings then 1 else 0 := by
  cases op with
  | cacheSettingsFrom g k v =>
    by_cases h : g = s.settingsGeneration
    · simp [perform, cacheSettingsFrom_of_eq h, cacheSettings]
    · simp [perform, cacheSettingsFrom_of_ne h]
  | finishRun t =>
    cases hc : s.isCurrent t
    · simp [perform, finishRun_of_not_isCurrent hc]
    · simp [perform, finishRun_of_isCurrent hc]
  | clearSettings => simp [perform, clearSettings]
  | _ => simp [perform, cacheSettings, evict, beginRun]

theorem exec_settingsGeneration (s : Session) (ops : List Op) :
    (s.exec ops).2.settingsGeneration = s.settingsGeneration + ops.count .clearSettings := by
  induction ops generalizing s with
  | nil => simp
  | cons op ops ih =>
    rw [exec_cons, ih, perform_settingsGeneration, List.count_cons]
    by_cases h : op = .clearSettings
    · simp [h]
      omega
    · simp [h]

theorem cacheSettingsFrom_exec (s : Session) (ops : List Op) (k : String) (v : Settings) :
    (s.exec ops).2.cacheSettingsFrom s.settingsGeneration k v =
      if .clearSettings ∈ ops then ((false, (s.exec ops).2) : Bool × Session)
      else (true, (s.exec ops).2.cacheSettings k v) := by
  have hgen := exec_settingsGeneration s ops
  split_ifs with hc
  · -- A clearing in between moved the generation past the one read.
    have hpos := List.count_pos_iff.mpr hc
    exact cacheSettingsFrom_of_ne (by omega) k v
  · have hzero := List.count_eq_zero.mpr hc
    exact cacheSettingsFrom_of_eq (by omega) k v

/-- A fetch of settings along a run from a new session: the generation is read after the
operations `pre`, the operations `mid` follow, and then the settings of document `k` are handed
back with the generation read. They are cached, and read back, exactly when `mid` does not
clear the cache; otherwise they are refused and the session is left as it was. Either way no
other document's settings change. Every operation keeps the generation but a clearing, which
raises it by one. -/
theorem cacheSettingsFrom_after_read (pre mid : List Op) (k : String) (v : Settings) :
    let s := (Session.empty.exec pre).2
    let s' := (s.exec mid).2
    (((s'.cacheSettingsFrom s.settingsGeneration k v).1 = true ∧
        (s'.cacheSettingsFrom s.settingsGeneration k v).2.cachedSettings k = some v) ↔
      .clearSettings ∉ mid) ∧
    (.clearSettings ∈ mid → s'.cacheSettingsFrom s.settingsGeneration k v = (false, s')) ∧
    (∀ k', k' ≠ k →
      (s'.cacheSettingsFrom s.settingsGeneration k v).2.cachedSettings k' = s'.cachedSettings k') ∧
    (∀ (t : Session) (op : Op), (t.perform op).2.settingsGeneration =
      t.settingsGeneration + if op = .clearSettings then 1 else 0) := by
  intro s s'
  refine ⟨?_, fun hc => ?_, fun k' hk => cachedSettings_cacheSettingsFrom_of_ne s' _ hk v,
    perform_settingsGeneration⟩
  · rw [cacheSettingsFrom_exec]
    split_ifs with hc
    · simp [hc]
    · simp [hc, cachedSettings_cacheSettings]
  · rw [cacheSettingsFrom_exec, if_pos hc]

theorem fetch_across_clear_refused :
    .clearSettings ∈ [Op.clearSettings] ∧ "b.c" ≠ "a.c" ∧
    ((Session.empty.exec [.settingsGeneration]).2.exec [.clearSettings]).2.cacheSettingsFrom
        (Session.empty.exec [.settingsGeneration]).2.settingsGeneration "a.c" Settings.default =
      (false, ((Session.empty.exec [.settingsGeneration]).2.exec [.clearSettings]).2) ∧
    (((Session.empty.exec [.settingsGeneration]).2.exec [.clearSettings]).2.cacheSettingsFrom
        (Session.empty.exec [.settingsGeneration]).2.settingsGeneration "a.c"
        Settings.default).2.cachedSettings "b.c" =
      ((Session.empty.exec [.settingsGeneration]).2.exec [.clearSettings]).2.cachedSettings
        "b.c" := by
  have h := cacheSettingsFrom_after_read [.settingsGeneration] [.clearSettings] "a.c" .default
  have hmem : Op.clearSettings ∈ [Op.clearSettings] := List.mem_singleton_self _
  have hne : "b.c" ≠ "a.c" := by decide
  exact ⟨hmem, hne, h.2.1 hmem, h.2.2.1 "b.c" hne⟩

end LintBridge.Session
