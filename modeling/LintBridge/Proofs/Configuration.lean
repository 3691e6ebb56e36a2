import LintBridge.Proofs.Handlers

/-!
# Where the settings of a document come from

The log of a session lists each handled notification with the client's answers and the messages
sent. Along any such log the cache holds only open documents, each with the settings of the
first successful request sent since it was last opened or the configuration last changed.
-/

namespace LintBridge.Lsp

/-! ## The log -/

/-- The document that a request for settings asks about: the scope of a
`workspace/configuration` request; nothing for any other message. -/
def Outgoing.settingsScope? (m : Outgoing) : Option String :=
  if m.isRequest && m.method == "workspace/configuration" then
    match m.params with
    | .obj [("items", .arr [.obj [("scopeUri", .str key), ("section", .str _)]])] => some key
    | _ => none
  else none

theorem settingsScope?_configurationRequest (uri : Web.Url) :
    (configurationRequest uri).settingsScope? = some uri.show := by
  simp [Outgoing.settingsScope?, configurationRequest]

theorem settingsScope?_of_not_isRequest {m : Outgoing} (h : m.isRequest = false) :
    m.settingsScope? = none := by
  simp [Outgoing.settingsScope?, h]

/-- The settings given by the first successful answer to a request, among some messages, for
the settings of a document. -/
def firstAnswer (ctx : Context) (defaults : Settings) (sent : List Outgoing) (key : String) :
    Option Settings :=
  (sent.filter (·.settingsScope? == some key)).findSome? fun m =>
    if isAnswer (ctx.answer m) then some (answerSettings defaults (ctx.answer m)) else none

theorem firstAnswer_append (ctx : Context) (defaults : Settings) (sent sent' : List Outgoing)
    (key : String) :
    firstAnswer ctx defaults (sent ++ sent') key =
      (firstAnswer ctx defaults sent key).or (firstAnswer ctx defaults sent' key) := by
  simp only [firstAnswer, List.filter_append, List.findSome?_append]

theorem answerSettings_of_not_isAnswer {defaults : Settings} {r : Except RpcError Json}
    (h : isAnswer r = false) : answerSettings defaults r = defaults := by
  unfold answerSettings
  split
  · simp [isAnswer] at h
  · rfl

theorem firstAnswer_eq_none {ctx : Context} {defaults : Settings} {sent : List Outgoing}
    {key : String} (h : ∀ m ∈ sent, m.settingsScope? ≠ some key) :
    firstAnswer ctx defaults sent key = none := by
  have hnil : sent.filter (·.settingsScope? == some key) = [] :=
    List.filter_eq_nil_iff.mpr fun m hm => by simpa using h m hm
  rw [firstAnswer, hnil]
  rfl

/-- A notification handled to its end: the client's answers while it was handled, the
notification, and what the server sent. -/
structure Handled where
  ctx : Context
  notice : Notice
  sent : List Outgoing

/-- Whether a notification forgets the settings cached for a document: closing it, or any
configuration change. -/
def Notice.resets (key : String) : Notice → Bool
  | .didClose uri => uri.show == key
  | .didChangeConfiguration _ => true
  | _ => false

/-- Whether a document is open after the notifications of a log. -/
def openAfter (key : String) : List Handled → Bool
  | [] => false
  | h :: log =>
    match h.notice with
    | .didOpen d => d.uri.show == key || openAfter key log
    | .didClose uri => uri.show != key && openAfter key log
    | _ => openAfter key log

/-- The settings of a document that a log leaves cached: those of the first successful request
for them sent while the document was open, since it was last closed or the configuration last
changed. -/
def cachedFor (defaults : Settings) (key : String) : List Handled → Option Settings
  | [] => none
  | h :: log =>
    (if h.notice.resets key then none else cachedFor defaults key log).or
      (if openAfter key (h :: log) then firstAnswer h.ctx defaults h.sent key else none)

/-- The server-wide settings after a log: those of the last configuration change, or the
defaults before any. -/
def globalFor (defaults : Settings) : List Handled → Settings
  | [] => defaults
  | h :: log =>
    match h.notice with
    | .didChangeConfiguration payload => settingsFromChange payload defaults
    | _ => globalFor defaults log

theorem openAfter_of_cachedFor {defaults : Settings} {key : String} :
    ∀ {log : List Handled} {s : Settings}, cachedFor defaults key log = some s →
      openAfter key log = true
  | [], _, h => by simp [cachedFor] at h
  | h :: log, s, hc => by
    simp only [cachedFor] at hc
    cases hfresh : openAfter key (h :: log)
    · -- Nothing was asked in this step, so the entry is older and survived it.
      simp only [hfresh, Bool.false_eq_true, ↓reduceIte, Option.or_none] at hc
      split at hc
      · cases hc
      · rename_i hreset
        have hold := openAfter_of_cachedFor hc
        rw [← hfresh]
        unfold openAfter
        split <;> simp_all [Notice.resets]
    · rfl

/-! ## Open documents -/

namespace Backend

/-- Whether a document is open on the server. -/
def isOpen (b : Backend) (key : String) : Bool := b.documents.any (·.1.show == key)

variable (b : Backend)

theorem isSome_document? (uri : Web.Url) : (b.document? uri).isSome = b.isOpen uri.show := by
  rw [document?, Option.isSome_map, List.isSome_find?]
  rfl

theorem isOpen_eq_any (key : String) :
    b.isOpen key = (b.documents.map (·.1)).any (·.show == key) := by
  simp [isOpen, List.any_map, Function.comp_def]

theorem urls_putDocument (uri : Web.Url) (d : DocumentState) :
    (b.putDocument uri d).documents.map (·.1) =
      if b.isOpen uri.show then b.documents.map (·.1) else b.documents.map (·.1) ++ [uri] := by
  unfold putDocument
  split
  · rename_i hany
    have hopen : b.isOpen uri.show = true := hany
    rw [if_pos hopen, List.map_map]
    congr 1
    funext e
    obtain ⟨u, old⟩ := e
    dsimp only [Function.comp]
    split <;> rfl
  · rename_i hany
    have hclosed : b.isOpen uri.show = false := Bool.eq_false_iff.mpr hany
    rw [if_neg (by simp [hclosed]), List.map_append]
    rfl

theorem isOpen_putDocument (uri : Web.Url) (d : DocumentState) (key : String) :
    (b.putDocument uri d).isOpen key = (uri.show == key || b.isOpen key) := by
  rw [isOpen_eq_any (b.putDocument uri d) key, urls_putDocument, isOpen_eq_any b key]
  split
  · rename_i hopen
    by_cases hk : uri.show = key
    · subst hk
      rw [← isOpen_eq_any b uri.show, hopen]
      simp
    · simp [hk]
  · simp [Bool.or_comm]

theorem nodup_putDocument (h : (b.documents.map (·.1.show)).Nodup) (uri : Web.Url)
    (d : DocumentState) : ((b.putDocument uri d).documents.map (·.1.show)).Nodup := by
  have hshows : (b.putDocument uri d).documents.map (·.1.show) =
      ((b.putDocument uri d).documents.map (·.1)).map (·.show) := by
    rw [List.map_map]
    rfl
  rw [hshows, urls_putDocument]
  split
  · rw [List.map_map]
    exact h
  · rename_i hclosed
    rw [List.map_append, List.map_map, List.nodup_append]
    refine ⟨h, List.nodup_singleton _, fun k hk k' hk' => ?_⟩
    rw [List.mem_singleton.mp hk']
    rintro rfl
    exact hclosed (by simpa [isOpen_eq_any] using hk)

theorem isOpen_dropDocument (uri : Web.Url) (key : String) :
    (b.dropDocument uri).isOpen key = (uri.show != key && b.isOpen key) := by
  unfold dropDocument isOpen
  rw [List.any_filter]
  by_cases hk : uri.show = key
  · subst hk
    simp
  · -- Every entry at the key survives the filter.
    have hne : (uri.show != key) = true := by simpa using hk
    rw [hne, Bool.true_and]
    congr 1
    funext e
    obtain ⟨u, _⟩ := e
    by_cases hu : u.show = key
    · simp [hu, Ne.symm hk]
    · simp [hu]

theorem nodup_dropDocument (h : (b.documents.map (·.1.show)).Nodup) (uri : Web.Url) :
    ((b.dropDocument uri).documents.map (·.1.show)).Nodup :=
  h.sublist (List.filter_sublist.map _)

theorem isOpen_setVersion (uri : Web.Url) (version : Int) (key : String) :
    (b.setVersion uri version).isOpen key = b.isOpen key := by
  unfold setVersion
  split
  · rename_i d hd
    have hopen : b.isOpen uri.show = true := by rw [← isSome_document?, hd]; rfl
    rw [isOpen_putDocument]
    by_cases hk : uri.show = key
    · subst hk
      simp [hopen]
    · simp [hk]
  · rfl

theorem nodup_setVersion (h : (b.documents.map (·.1.show)).Nodup) (uri : Web.Url)
    (version : Int) : ((b.setVersion uri version).documents.map (·.1.show)).Nodup := by
  unfold setVersion
  split
  · exact nodup_putDocument b h _ _
  · exact h

/-! ## The cache along validations -/

theorem firstAnswer_validationSent_of_ne (ctx : Context) (defaults : Settings) {uri : Web.Url}
    {key : String} (hk : uri.show ≠ key) :
    firstAnswer ctx defaults (b.validationSent ctx uri) key = none := by
  refine firstAnswer_eq_none fun m hm => ?_
  cases hreq : m.isRequest
  · simp [settingsScope?_of_not_isRequest hreq]
  · rw [eq_configurationRequest_of_mem_validationSent ctx b hm hreq,
      settingsScope?_configurationRequest]
    simpa using hk

theorem cachedSettings_afterValidation_of_ne (ctx : Context) {uri : Web.Url} {key : String}
    (hk : uri.show ≠ key) :
    (b.afterValidation ctx uri).session.cachedSettings key = b.session.cachedSettings key := by
  unfold afterValidation cacheResolved
  split_ifs <;> simp [Session.cacheSettings, Session.cachedSettings, KeyMap.get?_insert, hk]

theorem cachedSettings_afterValidation (ctx : Context) (uri : Web.Url) (key : String) :
    (b.afterValidation ctx uri).session.cachedSettings key =
      (b.session.cachedSettings key).or
        (if b.isOpen key then firstAnswer ctx b.defaults (b.validationSent ctx uri) key
        else none) := by
  by_cases hk : uri.show = key
  · subst hk
    unfold afterValidation validationSent
    cases hp : uri.toFilePath with
    | none => simp [firstAnswer, Session.cachedSettings]
    | some path =>
      -- The message about the document is no request, so only the request for its settings
      -- can be answered.
      have hreport : firstAnswer ctx b.defaults [b.report ctx uri path (b.settingsFor ctx uri)]
          uri.show = none := by
        simp [firstAnswer, settingsScope?_of_not_isRequest (isRequest_report ctx b uri path _)]
      simp only [Option.isSome_some, ↓reduceIte, firstAnswer_append, hreport, Option.or_none]
      unfold cacheResolved settingsRequests
      cases hc : b.session.cachedSettings uri.show with
      | some cached =>
        -- Settings already cached: nothing is asked and nothing changes.
        have hask : b.asksFor uri = false := by simp [asksFor, hc]
        simp only [cachesFor, hask, Bool.false_and, Bool.false_eq_true, ↓reduceIte,
          Session.cachedSettings_runs, hc]
        simp [firstAnswer]
      | none =>
        -- The settings are cached exactly when the client was asked, answered, and the
        -- document is open.
        have hget : b.session.settings.get? uri.show = none := hc
        cases hconf : b.support.configuration <;>
          cases hans : isAnswer (ctx.answer (configurationRequest uri)) <;>
          cases hopen : b.isOpen uri.show <;>
          simp [cachesFor, asksFor, settingsFor, hget, hconf, hans, hopen, isSome_document?,
            firstAnswer, settingsScope?_configurationRequest, Session.cacheSettings,
            Session.cachedSettings, KeyMap.get?_insert]
  · rw [cachedSettings_afterValidation_of_ne b ctx hk, firstAnswer_validationSent_of_ne b ctx _ hk]
    simp

theorem afterValidation_eq (ctx : Context) (uri : Web.Url) :
    b.afterValidation ctx uri = { b with session := (b.afterValidation ctx uri).session } := rfl

theorem validateEach_eq (ctx : Context) (uris : List Web.Url) :
    (b.validateEach ctx uris).2 = { b with session := (b.validateEach ctx uris).2.session } := by
  induction uris generalizing b with
  | nil => rfl
  | cons uri rest ih =>
    rw [validateEach_cons, ih]
    rfl

theorem cachedSettings_validateEach (ctx : Context) (uris : List Web.Url) (key : String) :
    (b.validateEach ctx uris).2.session.cachedSettings key =
      (b.session.cachedSettings key).or
        (if b.isOpen key then firstAnswer ctx b.defaults (b.validateEach ctx uris).1 key
        else none) := by
  induction uris generalizing b with
  | nil => simp [firstAnswer]
  | cons uri rest ih =>
    rw [validateEach_cons, ih, cachedSettings_afterValidation, firstAnswer_append]
    -- The validated documents stay open or closed, and the defaults stay.
    have hopen : (b.afterValidation ctx uri).isOpen key = b.isOpen key := rfl
    have hdefaults : (b.afterValidation ctx uri).defaults = b.defaults := rfl
    rw [hopen, hdefaults]
    split <;> simp [Option.or_assoc]

theorem settings_afterValidation (ctx : Context) (uri : Web.Url)
    (h : b.support.configuration = false) :
    (b.afterValidation ctx uri).session.settings = b.session.settings := by
  have hcaches : b.cachesFor ctx uri = false := by simp [cachesFor, asksFor, h]
  unfold afterValidation cacheResolved
  split <;> simp [hcaches]

theorem settings_validateEach (ctx : Context) (uris : List Web.Url)
    (h : b.support.configuration = false) :
    (b.validateEach ctx uris).2.session.settings = b.session.settings := by
  induction uris generalizing b with
  | nil => rfl
  | cons uri rest ih =>
    simp only [validateEach_cons]
    rw [ih (b.afterValidation ctx uri) h, settings_afterValidation b ctx uri h]

theorem validateEach_of_nodup (ctx : Context) (uris : List Web.Url)
    (h : (uris.map (·.show)).Nodup) :
    (b.validateEach ctx uris).1 = uris.flatMap (b.validationSent ctx) := by
  induction uris generalizing b with
  | nil => rfl
  | cons uri rest ih =>
    rw [List.map_cons, List.nodup_cons] at h
    simp only [validateEach_cons]
    rw [ih _ h.2, List.flatMap_cons]
    congr 1
    refine List.flatMap_congr fun u hu => ?_
    have hne : uri.show ≠ u.show := fun heq => h.1 (heq ▸ List.mem_map_of_mem hu)
    rw [afterValidation_eq, validationSent_of_cached_eq ctx b u
      (cachedSettings_afterValidation_of_ne b ctx hne)]

theorem settingsScope?_initialized (ctx : Context) :
    ∀ m ∈ (b.receive ctx .initialized).1, m.settingsScope? = none := by
  intro m hm
  cases hconf : b.support.configuration <;>
    simp only [receive, Notice.handler, onInitialized, bind_run, current_run, hconf, ask,
      request_run, notify, emit_run, Bool.false_eq_true, ↓reduceIte, List.nil_append,
      List.cons_append, List.mem_cons, List.not_mem_nil, or_false] at hm
  · exact hm ▸ settingsScope?_of_not_isRequest rfl
  · rcases hm with rfl | rfl
    · simp [Outgoing.settingsScope?]
    · exact settingsScope?_of_not_isRequest rfl

theorem putDocument_eq (uri : Web.Url) (d : DocumentState) :
    b.putDocument uri d = { b with documents := (b.putDocument uri d).documents } := by
  unfold putDocument
  split <;> rfl

theorem setVersion_eq (uri : Web.Url) (version : Int) :
    b.setVersion uri version = { b with documents := (b.setVersion uri version).documents } := by
  unfold setVersion
  split
  · exact putDocument_eq b uri _
  · rfl

/-! ## Following the log -/

/-- The server once a client with the given features has initialized it. -/
def start (defaults : Settings) (support : ClientSupport) : Backend :=
  { Backend.new defaults with support := support }

theorem onInitialize_start (ctx : Context) (defaults : Settings) (c : ClientCapabilities) :
    (((onInitialize c).run ctx).run ⟨Backend.new defaults, []⟩).2.backend =
      Backend.start defaults (ClientSupport.ofCapabilities c) := rfl

/-- Handles notifications one after another, each with the client's answers at its time. The
list holds them newest first, as the log does; gives the log and the server at the end. -/
def drive (b : Backend) : List (Context × Notice) → List Handled × Backend
  | [] => ([], b)
  | (ctx, n) :: earlier =>
    let (log, b') := b.drive earlier
    (⟨ctx, n, (b'.receive ctx n).1⟩ :: log, (b'.receive ctx n).2)

theorem drive_cons (ctx : Context) (n : Notice) (earlier : List (Context × Notice)) :
    b.drive ((ctx, n) :: earlier) =
      (⟨ctx, n, ((b.drive earlier).2.receive ctx n).1⟩ :: (b.drive earlier).1,
        ((b.drive earlier).2.receive ctx n).2) := rfl

end Backend

/-- How the server follows from the log: the defaults and the client's features stay, the
documents have distinct keys and are those the log leaves open, the cache holds what the log
gives, and for a client that cannot be asked nothing is cached and the server-wide settings are
those of the last configuration change. -/
structure Follows (defaults : Settings) (support : ClientSupport) (log : List Handled)
    (b : Backend) : Prop where
  defaults_eq : b.defaults = defaults
  support_eq : b.support = support
  shows_nodup : (b.documents.map (·.1.show)).Nodup
  isOpen_eq : ∀ key, b.isOpen key = openAfter key log
  cachedSettings_eq : ∀ key, b.session.cachedSettings key = cachedFor defaults key log
  unasked : support.configuration = false →
    b.session.settings = [] ∧ b.globalSettings = globalFor defaults log

namespace Follows

variable {defaults : Settings} {support : ClientSupport}

theorem start : Follows defaults support [] (Backend.start defaults support) where
  defaults_eq := rfl
  support_eq := rfl
  shows_nodup := List.nodup_nil
  isOpen_eq _ := rfl
  cachedSettings_eq _ := rfl
  unasked _ := ⟨rfl, rfl⟩

theorem afterValidation {log : List Handled} {b b₁ : Backend}
    (hb : Follows defaults support log b)
    {ctx : Context} {n : Notice} {uri : Web.Url}
    (hfields : b₁ = { b with documents := b₁.documents })
    (hnodup : (b₁.documents.map (·.1.show)).Nodup)
    (hopen : ∀ key,
      b₁.isOpen key = openAfter key (⟨ctx, n, b₁.validationSent ctx uri⟩ :: log))
    (hreset : ∀ key, n.resets key = false)
    (hglobal : globalFor defaults (⟨ctx, n, b₁.validationSent ctx uri⟩ :: log) =
      globalFor defaults log) :
    Follows defaults support (⟨ctx, n, b₁.validationSent ctx uri⟩ :: log)
      (b₁.afterValidation ctx uri) := by
  have hsession : b₁.session = b.session := by rw [hfields]
  have hdefaults : b₁.defaults = b.defaults := by rw [hfields]
  have hsupport : b₁.support = b.support := by rw [hfields]
  have hglobal' : b₁.globalSettings = b.globalSettings := by rw [hfields]
  refine ⟨hdefaults.trans hb.defaults_eq, hsupport.trans hb.support_eq, hnodup, hopen,
    fun key => ?_, fun hconf => ?_⟩
  · rw [Backend.cachedSettings_afterValidation, cachedFor, hreset, hopen, hsession,
      hb.cachedSettings_eq, hdefaults, hb.defaults_eq]
    rfl
  · have hconf₁ : b₁.support.configuration = false := by rw [hsupport, hb.support_eq, hconf]
    refine ⟨?_, ?_⟩
    · rw [Backend.settings_afterValidation b₁ ctx uri hconf₁, hsession, (hb.unasked hconf).1]
    · show b₁.globalSettings = _
      rw [hglobal', hglobal, (hb.unasked hconf).2]

theorem initialized {log : List Handled} {b : Backend} (hb : Follows defaults support log b)
    (ctx : Context) :
    Follows defaults support (⟨ctx, .initialized, (b.receive ctx .initialized).1⟩ :: log)
      (b.receive ctx .initialized).2 := by
  have hnone : ∀ key, firstAnswer ctx defaults (b.receive ctx .initialized).1 key = none :=
    fun key => firstAnswer_eq_none fun m hm => by
      simp [Backend.settingsScope?_initialized b ctx m hm]
  rw [Backend.receive_initialized]
  refine ⟨hb.defaults_eq, hb.support_eq, hb.shows_nodup, hb.isOpen_eq, fun key => ?_,
    hb.unasked⟩
  simp [cachedFor, Notice.resets, hnone, hb.cachedSettings_eq]

theorem close {log : List Handled} {b : Backend} (hb : Follows defaults support log b)
    (ctx : Context) (uri : Web.Url) :
    Follows defaults support (⟨ctx, .didClose uri, [diagnosticsNotice uri [] none]⟩ :: log)
      (b.close uri) := by
  have hnone : ∀ key, firstAnswer ctx defaults [diagnosticsNotice uri [] none] key = none :=
    fun key => firstAnswer_eq_none fun m hm => by
      rw [List.mem_singleton.mp hm, settingsScope?_of_not_isRequest rfl]
      simp
  refine ⟨hb.defaults_eq, hb.support_eq, Backend.nodup_dropDocument b hb.shows_nodup uri,
    fun key => ?_, fun key => ?_, fun hconf => ?_⟩
  · show (b.dropDocument uri).isOpen key = _
    rw [Backend.isOpen_dropDocument, hb.isOpen_eq]
    rfl
  · simp only [Backend.close, Session.evict, Session.cachedSettings, KeyMap.get?_erase]
    rw [cachedFor, hnone]
    by_cases hk : uri.show = key
    · simp [hk, Notice.resets]
    · simp [hk, Notice.resets, ← hb.cachedSettings_eq, Session.cachedSettings]
  · refine ⟨?_, (hb.unasked hconf).2⟩
    simp [Backend.close, Session.evict, (hb.unasked hconf).1, KeyMap.erase]

theorem reconfigure {log : List Handled} {b : Backend} (hb : Follows defaults support log b)
    (ctx : Context) (payload : Json) :
    let b₁ := b.reconfigure payload
    Follows defaults support
      (⟨ctx, .didChangeConfiguration payload,
        (b₁.validateEach ctx (b₁.documents.map (·.1))).1⟩ :: log)
      (b₁.validateEach ctx (b₁.documents.map (·.1))).2 := by
  intro b₁
  -- The change touches the cache or the server-wide settings, nothing else.
  have hfields :
      b₁ = { b with session := b₁.session, globalSettings := b₁.globalSettings } := by
    simp only [b₁, Backend.reconfigure]
    split <;> rfl
  have hcleared : ∀ key, b₁.session.cachedSettings key = none := by
    intro key
    simp only [b₁, Backend.reconfigure]
    split
    · rfl
    · rename_i hconf
      have hempty := (hb.unasked (by rw [← hb.support_eq]; simpa using hconf)).1
      simp [Session.cachedSettings, hempty, KeyMap.get?]
  have hdefaults : b₁.defaults = defaults := by rw [hfields]; exact hb.defaults_eq
  have hsupport : b₁.support = support := by rw [hfields]; exact hb.support_eq
  have hopen : ∀ key, b₁.isOpen key = b.isOpen key := fun key => by
    rw [Backend.isOpen, hfields]
    rfl
  rw [Backend.validateEach_eq b₁]
  refine ⟨hdefaults, hsupport, ?_, fun key => ?_, fun key => ?_, fun hconf => ?_⟩
  · rw [hfields]
    exact hb.shows_nodup
  · show b₁.isOpen key = _
    rw [hopen, hb.isOpen_eq]
    rfl
  · -- Everything cached now was answered during the change.
    rw [Backend.cachedSettings_validateEach, hcleared, Option.none_or, cachedFor, hdefaults]
    show _ = none.or _
    rw [Option.none_or, hopen, hb.isOpen_eq]
    rfl
  · have hconf₁ : b₁.support.configuration = false := by rw [hsupport, hconf]
    have hkept : b₁.session = b.session := by
      simp only [b₁, Backend.reconfigure, hb.support_eq, hconf, Bool.false_eq_true, ↓reduceIte]
    refine ⟨?_, ?_⟩
    · rw [Backend.settings_validateEach b₁ ctx _ hconf₁, hkept, (hb.unasked hconf).1]
    · show b₁.globalSettings = settingsFromChange payload defaults
      simp only [b₁, Backend.reconfigure, hb.support_eq, hconf, Bool.false_eq_true, ↓reduceIte,
        hb.defaults_eq]

theorem receive {log : List Handled} {b : Backend} (hb : Follows defaults support log b)
    (ctx : Context) (n : Notice) :
    Follows defaults support (⟨ctx, n, (b.receive ctx n).1⟩ :: log) (b.receive ctx n).2 := by
  cases n with
  | initialized => exact hb.initialized ctx
  | didOpen d =>
    simp only [Backend.receive_didOpen]
    refine hb.afterValidation (Backend.putDocument_eq b _ _)
      (Backend.nodup_putDocument b hb.shows_nodup _ _) (fun key => ?_) (fun _ => rfl) rfl
    rw [Backend.isOpen_putDocument, hb.isOpen_eq]
    rfl
  | didChange uri version =>
    simp only [Backend.receive_didChange]
    refine hb.afterValidation (Backend.setVersion_eq b _ _)
      (Backend.nodup_setVersion b hb.shows_nodup _ _) (fun key => ?_) (fun _ => rfl) rfl
    rw [Backend.isOpen_setVersion, hb.isOpen_eq]
    rfl
  | didSave uri =>
    simp only [Backend.receive_didSave]
    exact hb.afterValidation rfl hb.shows_nodup hb.isOpen_eq (fun _ => rfl) rfl
  | didClose uri =>
    simp only [Backend.receive_didClose]
    exact hb.close ctx uri
  | didChangeConfiguration payload =>
    simp only [Backend.receive_didChangeConfiguration]
    exact hb.reconfigure ctx payload

theorem drive (defaults : Settings) (support : ClientSupport) (steps : List (Context × Notice)) :
    Follows defaults support ((Backend.start defaults support).drive steps).1
      ((Backend.start defaults support).drive steps).2 := by
  induction steps with
  | nil => exact start
  | cons step earlier ih =>
    obtain ⟨ctx, n⟩ := step
    rw [Backend.drive_cons]
    exact ih.receive ctx n

/-! ## What the log says about the next validation -/

section Consequences

variable {log : List Handled} {b : Backend} (hb : Follows defaults support log b)
include hb

theorem open_of_mem_keys {key : String} (hk : key ∈ b.session.settings.keys) :
    openAfter key log = true ∧ b.isOpen key = true := by
  obtain ⟨s, hs⟩ := (KeyMap.mem_keys_iff _ _).mp hk
  have hopen : openAfter key log = true :=
    openAfter_of_cachedFor ((hb.cachedSettings_eq key).symm.trans hs)
  exact ⟨hopen, (hb.isOpen_eq key).trans hopen⟩

theorem settingsFor_eq (documents : List (Web.Url × DocumentState)) (ctx : Context)
    (uri : Web.Url) :
    { b with documents := documents }.settingsFor ctx uri =
      (cachedFor defaults uri.show log).getD
        (if support.configuration then
          answerSettings defaults (ctx.answer (configurationRequest uri))
        else globalFor defaults log) := by
  simp only [Backend.settingsFor, hb.cachedSettings_eq, hb.support_eq, hb.defaults_eq]
  cases hconf : support.configuration
  · simp [(hb.unasked hconf).2]
  · rfl

theorem settingsRequests_eq (documents : List (Web.Url × DocumentState)) (uri : Web.Url) :
    { b with documents := documents }.settingsRequests uri =
      if support.configuration && (cachedFor defaults uri.show log).isNone then
        [configurationRequest uri]
      else [] := by
  simp only [Backend.settingsRequests, Backend.asksFor, hb.cachedSettings_eq, hb.support_eq]

theorem receive_didChangeConfiguration (ctx : Context) (payload : Json) :
    (b.receive ctx (.didChangeConfiguration payload)).1 =
      (b.documents.map (·.1)).flatMap ((b.reconfigure payload).validationSent ctx) := by
  have hdocuments : (b.reconfigure payload).documents = b.documents := by
    unfold Backend.reconfigure
    split <;> rfl
  have hnodup : ((b.documents.map (·.1)).map (·.show)).Nodup := by
    rw [List.map_map]
    exact hb.shows_nodup
  rw [Backend.receive_didChangeConfiguration, hdocuments,
    Backend.validateEach_of_nodup _ ctx _ hnodup]

theorem settingsFor_reconfigure (ctx : Context) (payload : Json) (uri : Web.Url) :
    (b.reconfigure payload).settingsFor ctx uri =
      if support.configuration then
        answerSettings defaults (ctx.answer (configurationRequest uri))
      else settingsFromChange payload defaults := by
  unfold Backend.reconfigure
  cases hconf : support.configuration
  · have hempty := (hb.unasked hconf).1
    simp [Backend.settingsFor, hb.support_eq, hconf, hb.defaults_eq, Session.cachedSettings,
      hempty, KeyMap.get?]
  · simp [Backend.settingsFor, hb.support_eq, hconf, hb.defaults_eq, Session.clearSettings,
      Session.cachedSettings, KeyMap.get?]

end Consequences

end Follows

/-- Along any sequence of notifications the cache holds, for each open document, the settings of
the first successful request sent for it since it was last opened or the configuration last
changed, and a validation takes those or asks afresh. Without `workspace/configuration` nothing is
cached, and a validation takes the settings of the last configuration change. -/
theorem settings_follow_log (defaults : Settings) (support : ClientSupport)
    (steps : List (Context × Notice)) :
    let log := ((Backend.start defaults support).drive steps).1
    let b := ((Backend.start defaults support).drive steps).2
    (∀ key ∈ b.session.settings.keys, openAfter key log = true ∧ b.isOpen key = true) ∧
    (∀ key, b.session.cachedSettings key = cachedFor defaults key log) ∧
    (∀ (documents : List (Web.Url × DocumentState)) (ctx : Context) (uri : Web.Url),
      { b with documents := documents }.settingsFor ctx uri =
        (cachedFor defaults uri.show log).getD
          (if support.configuration then
            answerSettings defaults (ctx.answer (configurationRequest uri))
          else globalFor defaults log) ∧
      { b with documents := documents }.settingsRequests uri =
        if support.configuration && (cachedFor defaults uri.show log).isNone then
          [configurationRequest uri]
        else []) ∧
    (∀ r : Except RpcError Json, isAnswer r = false → answerSettings defaults r = defaults) ∧
    (support.configuration = false → b.session.settings = []) ∧
    (∀ (ctx : Context) (payload : Json),
      (b.receive ctx (.didChangeConfiguration payload)).1 =
        (b.documents.map (·.1)).flatMap ((b.reconfigure payload).validationSent ctx) ∧
      ∀ uri : Web.Url, (b.reconfigure payload).settingsFor ctx uri =
        if support.configuration then
          answerSettings defaults (ctx.answer (configurationRequest uri))
        else settingsFromChange payload defaults) := by
  intro log b
  have hb : Follows defaults support log b := Follows.drive defaults support steps
  exact ⟨fun key hk => hb.open_of_mem_keys hk, hb.cachedSettings_eq,
    fun documents ctx uri => ⟨hb.settingsFor_eq documents ctx uri,
      hb.settingsRequests_eq documents uri⟩,
    fun _ h => answerSettings_of_not_isAnswer h, fun hconf => (hb.unasked hconf).1,
    fun ctx payload => ⟨hb.receive_didChangeConfiguration ctx payload,
      hb.settingsFor_reconfigure ctx payload⟩⟩

end LintBridge.Lsp
