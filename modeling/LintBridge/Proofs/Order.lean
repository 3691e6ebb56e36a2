import LintBridge.Proofs.Configuration

/-!
# Validations in any order

Two servers agree when they differ at most in the order the cache lists its documents, which no
operation sees. Validating documents with distinct keys in any order leaves servers that agree,
and sends every document the messages it gets when validated alone.
-/

namespace LintBridge

theorem KeyMap.erase_comm {α : Type} (m : KeyMap α) (k k' : String) :
    (m.erase k).erase k' = (m.erase k').erase k := by
  simp only [KeyMap.erase, List.filter_filter, Bool.and_comm]

namespace Session

/-- Two sessions in the same state, up to the order in which the cache lists its documents. -/
structure Agrees (s s' : Session) : Prop where
  cached : ∀ k, s.cachedSettings k = s'.cachedSettings k
  settingsGeneration : s.settingsGeneration = s'.settingsGeneration
  inFlight : s.inFlight = s'.inFlight
  nextGeneration : s.nextGeneration = s'.nextGeneration

theorem Agrees.refl (s : Session) : s.Agrees s := ⟨fun _ => rfl, rfl, rfl, rfl⟩

theorem Agrees.trans {s s' s'' : Session} (h : s.Agrees s') (h' : s'.Agrees s'') :
    s.Agrees s'' :=
  ⟨fun k => (h.cached k).trans (h'.cached k), h.settingsGeneration.trans h'.settingsGeneration,
    h.inFlight.trans h'.inFlight, h.nextGeneration.trans h'.nextGeneration⟩

end Session

namespace Lsp.Backend

/-- Two servers in the same state, up to the order in which the cache lists its documents. -/
structure Agrees (b b' : Backend) : Prop where
  defaults : b.defaults = b'.defaults
  globalSettings : b.globalSettings = b'.globalSettings
  support : b.support = b'.support
  documents : b.documents = b'.documents
  session : b.session.Agrees b'.session

theorem Agrees.refl (b : Backend) : Agrees b b := ⟨rfl, rfl, rfl, rfl, .refl _⟩

theorem Agrees.trans {b b' b'' : Backend} (h : Agrees b b') (h' : Agrees b' b'') :
    Agrees b b'' :=
  ⟨h.defaults.trans h'.defaults, h.globalSettings.trans h'.globalSettings,
    h.support.trans h'.support, h.documents.trans h'.documents, h.session.trans h'.session⟩

theorem Agrees.eq_with_session {b b' : Backend} (h : Agrees b b') :
    b' = { b with session := b'.session } := by
  obtain ⟨hd, hg, hs, hdocs, -⟩ := h
  cases b
  cases b'
  simp_all

/-! ## One validation -/

section Validation

variable (ctx : Context) (b : Backend) (uri : Web.Url)

theorem cachesFor_of_cached_eq {s : Session}
    (hs : s.cachedSettings uri.show = b.session.cachedSettings uri.show) :
    { b with session := s }.cachesFor ctx uri = b.cachesFor ctx uri := by
  simp only [cachesFor, asksFor_of_cached_eq b uri hs]
  rfl

theorem settingsGeneration_afterValidation :
    (b.afterValidation ctx uri).session.settingsGeneration = b.session.settingsGeneration := by
  unfold afterValidation cacheResolved
  split_ifs <;> rfl

theorem inFlight_afterValidation :
    (b.afterValidation ctx uri).session.inFlight = b.session.inFlight.erase uri.show := by
  unfold afterValidation cacheResolved
  split_ifs <;> rfl

theorem nextGeneration_afterValidation :
    (b.afterValidation ctx uri).session.nextGeneration = b.session.nextGeneration + 1 := by
  unfold afterValidation cacheResolved
  split_ifs <;> rfl

theorem cachedSettings_afterValidation_eq (k : String) :
    (b.afterValidation ctx uri).session.cachedSettings k =
      if uri.toFilePath.isSome ∧ b.cachesFor ctx uri ∧ uri.show = k then
        some (b.settingsFor ctx uri)
      else b.session.cachedSettings k := by
  unfold afterValidation cacheResolved
  by_cases hf : uri.toFilePath.isSome <;> by_cases hc : b.cachesFor ctx uri <;>
    simp [hf, hc, Session.cachedSettings, Session.cacheSettings, KeyMap.get?_insert]

end Validation

theorem afterValidation_frame (ctx : Context) (b : Backend) {uri other : Web.Url}
    (h : other.show ≠ uri.show) :
    (b.afterValidation ctx other).cachesFor ctx uri = b.cachesFor ctx uri ∧
      (b.afterValidation ctx other).settingsFor ctx uri = b.settingsFor ctx uri ∧
      (b.afterValidation ctx other).validationSent ctx uri = b.validationSent ctx uri := by
  have hs := cachedSettings_afterValidation_of_ne b ctx h
  rw [afterValidation_eq]
  exact ⟨cachesFor_of_cached_eq ctx b uri hs, settingsFor_of_cached_eq ctx b uri hs,
    validationSent_of_cached_eq ctx b uri hs⟩

theorem Agrees.resolves {b b' : Backend} (h : Agrees b b') (ctx : Context) (uri : Web.Url) :
    b'.cachesFor ctx uri = b.cachesFor ctx uri ∧ b'.settingsFor ctx uri = b.settingsFor ctx uri ∧
      b'.validationSent ctx uri = b.validationSent ctx uri := by
  have hs := (h.session.cached uri.show).symm
  rw [h.eq_with_session]
  exact ⟨cachesFor_of_cached_eq ctx b uri hs, settingsFor_of_cached_eq ctx b uri hs,
    validationSent_of_cached_eq ctx b uri hs⟩

theorem Agrees.validation {b b' : Backend} (h : Agrees b b') (ctx : Context) (uri : Web.Url) :
    b'.validationSent ctx uri = b.validationSent ctx uri ∧
      Agrees (b.afterValidation ctx uri) (b'.afterValidation ctx uri) := by
  obtain ⟨hcaches, hsettings, hsent⟩ := h.resolves ctx uri
  refine ⟨hsent, ⟨h.defaults, h.globalSettings, h.support, h.documents, ⟨fun k => ?_, ?_, ?_, ?_⟩⟩⟩
  · rw [cachedSettings_afterValidation_eq, cachedSettings_afterValidation_eq, hcaches, hsettings,
      h.session.cached k]
  · rw [settingsGeneration_afterValidation, settingsGeneration_afterValidation,
      h.session.settingsGeneration]
  · rw [inFlight_afterValidation, inFlight_afterValidation, h.session.inFlight]
  · rw [nextGeneration_afterValidation, nextGeneration_afterValidation,
      h.session.nextGeneration]

theorem afterValidation_comm (ctx : Context) (b : Backend) {u v : Web.Url}
    (h : u.show ≠ v.show) :
    Agrees ((b.afterValidation ctx u).afterValidation ctx v)
      ((b.afterValidation ctx v).afterValidation ctx u) := by
  obtain ⟨hcu, hsu, -⟩ := afterValidation_frame ctx b (Ne.symm h)
  obtain ⟨hcv, hsv, -⟩ := afterValidation_frame ctx b h
  refine ⟨rfl, rfl, rfl, rfl, ⟨fun k => ?_, ?_, ?_, ?_⟩⟩
  · -- Each validation caches for its own document only, and the two keys differ.
    simp only [cachedSettings_afterValidation_eq, hcu, hsu, hcv, hsv]
    by_cases hku : u.show = k
    · subst hku
      simp [Ne.symm h]
    · by_cases hkv : v.show = k
      · subst hkv
        simp [hku]
      · simp [hku, hkv]
  · simp only [settingsGeneration_afterValidation]
  · simp only [inFlight_afterValidation, KeyMap.erase_comm]
  · simp only [nextGeneration_afterValidation]

/-! ## Validations one after another -/

theorem Agrees.validateEach {b b' : Backend} (h : Agrees b b') (ctx : Context)
    (uris : List Web.Url) :
    (b'.validateEach ctx uris).1 = (b.validateEach ctx uris).1 ∧
      Agrees (b.validateEach ctx uris).2 (b'.validateEach ctx uris).2 := by
  induction uris generalizing b b' with
  | nil => exact ⟨rfl, h⟩
  | cons uri rest ih =>
    obtain ⟨hsent, hafter⟩ := h.validation ctx uri
    obtain ⟨hrest, hend⟩ := ih hafter
    simp only [validateEach_cons, hsent, hrest, true_and]
    exact hend

theorem validateEach_perm (ctx : Context) {uris uris' : List Web.Url} (hp : uris.Perm uris')
    (hnd : (uris.map (·.show)).Nodup) (b : Backend) :
    Agrees (b.validateEach ctx uris).2 (b.validateEach ctx uris').2 := by
  induction hp generalizing b with
  | nil => exact .refl _
  | cons uri _ ih =>
    simp only [validateEach_cons]
    exact ih (List.nodup_cons.mp hnd).2 _
  | swap u v rest =>
    -- Two neighbours change places: the servers after them agree, and so do the ends.
    have huv : v.show ≠ u.show := by
      intro heq
      simp [heq] at hnd
    simp only [validateEach_cons]
    exact ((afterValidation_comm ctx b huv).validateEach ctx rest).2
  | trans hp hq ihp ihq =>
    exact (ihp hnd b).trans (ihq ((hp.map (·.show)).nodup_iff.mp hnd) b)

/-- Validating a document and then another with a different key reaches the same state as
validating them the other way round, and each document gets in either order the messages it
gets when validated alone: its settings request, if any, and its diagnostics or the linter's
failure. So validating documents with distinct keys, as a configuration change does, in any
order leaves servers that agree, and sends each document's messages unchanged. -/
theorem validate_in_either_order (ctx : Context) (b : Backend) {u v : Web.Url}
    (h : u.show ≠ v.show) :
    Agrees (((do validate u; validate v : Handler Unit).run ctx).run ⟨b, []⟩).2.backend
        (((do validate v; validate u : Handler Unit).run ctx).run ⟨b, []⟩).2.backend ∧
      (((do validate u; validate v : Handler Unit).run ctx).run ⟨b, []⟩).2.sent =
        b.validationSent ctx u ++ b.validationSent ctx v ∧
      (((do validate v; validate u : Handler Unit).run ctx).run ⟨b, []⟩).2.sent =
        b.validationSent ctx v ++ b.validationSent ctx u ∧
      ∀ uris uris' : List Web.Url, uris.Perm uris' → (uris.map (·.show)).Nodup →
        Agrees (b.validateEach ctx uris).2 (b.validateEach ctx uris').2 ∧
          (b.validateEach ctx uris).1 = uris.flatMap (b.validationSent ctx) := by
  simp only [bind_run, validate_run, List.nil_append]
  refine ⟨afterValidation_comm ctx b h, ?_, ?_, fun uris uris' hp hnd =>
    ⟨validateEach_perm ctx hp hnd b, validateEach_of_nodup b ctx uris hnd⟩⟩
  · rw [(afterValidation_frame ctx b h).2.2]
  · rw [(afterValidation_frame ctx b (Ne.symm h)).2.2]

theorem validate_two_files_in_either_order :
    let ctx : Context := ⟨fun _ _ => .finished (some 0) [] [], none, fun _ => .ok (.arr [])⟩
    let u : Web.Url := ⟨"file", "", "", none, none, .segments ["a.c"], none, none⟩
    let w : Web.Url := ⟨"file", "", "", none, none, .segments ["b.c"], none, none⟩
    u.show ≠ w.show ∧
      Agrees (((do validate u; validate w : Handler Unit).run ctx).run
          ⟨Backend.new .default, []⟩).2.backend
        (((do validate w; validate u : Handler Unit).run ctx).run
          ⟨Backend.new .default, []⟩).2.backend := by
  intro ctx u w
  have h : u.show ≠ w.show := by decide
  exact ⟨h, (validate_in_either_order ctx (Backend.new .default) h).1⟩

end Lsp.Backend

end LintBridge
