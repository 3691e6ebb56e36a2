import LintBridge.Lsp.Backend
import LintBridge.Proofs.Session

/-!
# What a notification sends

Each handler runs to its end before the next notification is taken, so it is a function of the
server's state and the client's answers. Opening, changing or saving a file sends at most the
request for its settings and then exactly one message about it.
-/

namespace LintBridge

theorem KeyMap.erase_insert {α : Type} (m : KeyMap α) (k : String) (v : α) :
    (m.insert k v).erase k = m.erase k := by
  unfold KeyMap.insert KeyMap.erase
  split
  · -- The replaced pair is the one that erasing removes; every other pair is left as it was.
    have hpred : ((fun p : String × α => p.1 != k) ∘ fun p => if p.1 == k then (k, v) else p) =
        fun p => p.1 != k := by
      funext p
      by_cases hp : p.1 = k <;> simp [hp]
    rw [List.filter_map, hpred]
    conv_rhs => rw [← List.map_id (List.filter (fun p => p.1 != k) m)]
    refine List.map_congr_left fun p hp => ?_
    have hk : p.1 ≠ k := by simpa using (List.mem_filter.mp hp).2
    simp [hk]
  · simp [List.filter_append]

namespace Session

@[simp] theorem cachedSettings_runs (s : Session) (n : Nat) (runs : KeyMap Nat) (k : String) :
    ({ s with nextGeneration := n, inFlight := runs } : Session).cachedSettings k =
      s.cachedSettings k := rfl

theorem finishRun_beginRun (s s' : Session) (k : String)
    (h : s'.inFlight = (s.beginRun k).2.inFlight) :
    s'.finishRun (s.beginRun k).1 = (true, { s' with inFlight := s.inFlight.erase k }) := by
  simp [finishRun, isCurrent, h, beginRun, KeyMap.get?_insert, KeyMap.erase_insert]

@[simp] theorem cacheSettingsFrom_self (s : Session) (k : String) (v : Settings) :
    s.cacheSettingsFrom s.settingsGeneration k v = (true, s.cacheSettings k v) := by
  simp [cacheSettingsFrom]

end Session

namespace Lsp

/-! ## Running handlers -/

section Run

variable {α β : Type} (ctx : Context) (t : Turn)

theorem bind_run (x : Handler α) (f : α → Handler β) :
    ((x >>= f).run ctx).run t =
      ((f ((x.run ctx).run t).1).run ctx).run ((x.run ctx).run t).2 := rfl

theorem pure_run (a : α) : ((pure a : Handler α).run ctx).run t = (a, t) := rfl

theorem read_run : ((read : Handler Context).run ctx).run t = (ctx, t) := rfl

theorem current_run : (current.run ctx).run t = (t.backend, t) := rfl

theorem update_run (f : Backend → Backend) :
    ((update f).run ctx).run t = ((), { t with backend := f t.backend }) := rfl

theorem emit_run (m : Outgoing) :
    ((emit m).run ctx).run t = ((), { t with sent := t.sent ++ [m] }) := rfl

theorem request_run (m : Outgoing) :
    ((request m).run ctx).run t = (ctx.answer m, { t with sent := t.sent ++ [m] }) := rfl

end Run

/-! ## Resolving settings -/

/-- The settings a client's answer gives: its first value read over the defaults, and the
defaults when the answer holds no value or is no list. -/
def answerSettings (defaults : Settings) : Except RpcError Json → Settings
  | .ok (.arr (v :: _)) => Settings.fromValue v defaults
  | _ => defaults

/-- Whether a request for settings succeeded: the client answered with a list. -/
def isAnswer : Except RpcError Json → Bool
  | .ok (.arr _) => true
  | _ => false

namespace Backend

section Validation

variable (ctx : Context) (b : Backend) (uri : Web.Url)

/-- Whether resolving the settings of a document asks the client: none are cached and the client
can be asked. -/
def asksFor : Bool :=
  b.support.configuration && (b.session.cachedSettings uri.show).isNone

/-- The settings a validation of a document uses: the cached ones; else those of the client's
answer, or the server-wide ones for a client that cannot be asked. -/
def settingsFor : Settings :=
  (b.session.cachedSettings uri.show).getD
    (if b.support.configuration then
      answerSettings b.defaults (ctx.answer (configurationRequest uri))
    else b.globalSettings)

/-- The requests that resolving the settings of a document sends. -/
def settingsRequests : List Outgoing :=
  if b.asksFor uri then [configurationRequest uri] else []

/-- Whether resolving the settings of a document caches them: the client was asked and
answered, and the document is open. -/
def cachesFor : Bool :=
  b.asksFor uri && isAnswer (ctx.answer (configurationRequest uri)) && (b.document? uri).isSome

/-- Caches the resolved settings of a document in a session when resolving them caches them. -/
def cacheResolved (s : Session) : Session :=
  if b.cachesFor ctx uri then s.cacheSettings uri.show (b.settingsFor ctx uri) else s

/-- The diagnostics of some records of a document; they point back into the document when the
client shows related information. -/
def diagnosticsOf (records : List Record) : List LspDiagnostic :=
  records.map fun r => toLspDiagnostic r (if b.support.relatedInformation then some uri else none)

/-- The message about a document that checking its file with some settings ends in: the
diagnostics, with the document's version while it is open, or the linter's failure. -/
def report (path : String) (s : Settings) : Outgoing :=
  match checkFile ctx.launch ctx.home path s with
  | .ok records =>
    diagnosticsNotice uri (b.diagnosticsOf uri records) ((b.document? uri).map (·.version))
  | .error e => linterErrorNotice e

/-- What validating a document sends: nothing for a document that is no file; else the request
for its settings when the client is asked, then the message about the document. -/
def validationSent : List Outgoing :=
  match uri.toFilePath with
  | none => []
  | some path => b.settingsRequests uri ++ [b.report ctx uri path (b.settingsFor ctx uri)]

/-- The server once a document is validated: the settings cached as resolving them caches
them, one more run counted, and no run of the document in flight. -/
def afterValidation : Backend :=
  let s := { b.session with
    nextGeneration := b.session.nextGeneration + 1, inFlight := b.session.inFlight.erase uri.show }
  { b with session := if uri.toFilePath.isSome then b.cacheResolved ctx uri s else s }

/-- What validating a document that is a file gives: its diagnostics, or the linter's failure. -/
def validationResult (path : String) : Except ValidationError (List LspDiagnostic) :=
  match checkFile ctx.launch ctx.home path (b.settingsFor ctx uri) with
  | .ok records => .ok (b.diagnosticsOf uri records)
  | .error e => .error (.linter e)

end Validation

/-! What validating a document does depends on the session only through the settings it
caches for that document. -/

section SameSettings

variable (ctx : Context) (b : Backend) (uri : Web.Url) {s : Session}
  (hs : s.cachedSettings uri.show = b.session.cachedSettings uri.show)
include hs

theorem asksFor_of_cached_eq : { b with session := s }.asksFor uri = b.asksFor uri := by
  simp only [asksFor, hs]

theorem settingsFor_of_cached_eq :
    { b with session := s }.settingsFor ctx uri = b.settingsFor ctx uri := by
  simp only [settingsFor, hs]

theorem settingsRequests_of_cached_eq :
    { b with session := s }.settingsRequests uri = b.settingsRequests uri := by
  simp only [settingsRequests, asksFor_of_cached_eq b uri hs]

theorem cacheResolved_of_cached_eq :
    { b with session := s }.cacheResolved ctx uri = b.cacheResolved ctx uri := by
  funext s'
  simp only [cacheResolved, cachesFor, asksFor_of_cached_eq b uri hs,
    settingsFor_of_cached_eq ctx b uri hs]
  rfl

theorem validationResult_of_cached_eq :
    { b with session := s }.validationResult ctx uri = b.validationResult ctx uri := by
  funext path
  simp only [validationResult, settingsFor_of_cached_eq ctx b uri hs]
  rfl

theorem validationSent_of_cached_eq :
    { b with session := s }.validationSent ctx uri = b.validationSent ctx uri := by
  simp only [validationSent, settingsRequests_of_cached_eq b uri hs,
    settingsFor_of_cached_eq ctx b uri hs]
  rfl

end SameSettings

theorem cacheResolved_runs (ctx : Context) (b : Backend) (uri : Web.Url) (s : Session) (n : Nat)
    (runs : KeyMap Nat) :
    b.cacheResolved ctx uri { s with nextGeneration := n, inFlight := runs } =
      { b.cacheResolved ctx uri s with nextGeneration := n, inFlight := runs } := by
  unfold cacheResolved
  split <;> rfl

@[simp] theorem document?_afterValidation (ctx : Context) (b : Backend) (uri uri' : Web.Url) :
    (b.afterValidation ctx uri).document? uri' = b.document? uri' := rfl

theorem inFlight_cacheResolved (ctx : Context) (b : Backend) (uri : Web.Url) (s : Session) :
    (b.cacheResolved ctx uri s).inFlight = s.inFlight := by
  unfold cacheResolved
  split <;> rfl

/-- Validates documents one after another; gives what they send and the server at the end. -/
def validateEach (ctx : Context) : Backend → List Web.Url → List Outgoing × Backend
  | b, [] => ([], b)
  | b, uri :: rest =>
    let (sent, b') := validateEach ctx (b.afterValidation ctx uri) rest
    (b.validationSent ctx uri ++ sent, b')

@[simp] theorem validateEach_nil (ctx : Context) (b : Backend) :
    b.validateEach ctx [] = ([], b) := rfl

@[simp] theorem validateEach_cons (ctx : Context) (b : Backend) (uri : Web.Url)
    (rest : List Web.Url) :
    b.validateEach ctx (uri :: rest) =
      (b.validationSent ctx uri ++ ((b.afterValidation ctx uri).validateEach ctx rest).1,
        ((b.afterValidation ctx uri).validateEach ctx rest).2) := rfl

end Backend

/-! ## Validations -/

section Validate

variable (ctx : Context) (b : Backend) (sent : List Outgoing) (uri : Web.Url)

theorem documentSettings_run :
    ((documentSettings uri).run ctx).run ⟨b, sent⟩ =
      (b.settingsFor ctx uri,
        ⟨{ b with session := b.cacheResolved ctx uri b.session },
          sent ++ b.settingsRequests uri⟩) := by
  cases hc : b.session.cachedSettings uri.show with
  | some s =>
    simp only [documentSettings, bind_run, current_run, hc, pure_run]
    simp [Backend.settingsFor, Backend.cacheResolved, Backend.cachesFor, Backend.asksFor,
      Backend.settingsRequests, hc]
  | none =>
    cases hconf : b.support.configuration with
    | false =>
      simp only [documentSettings, bind_run, current_run, hc, hconf, pure_run, Bool.not_false,
        ↓reduceIte]
      simp [Backend.settingsFor, Backend.cacheResolved, Backend.cachesFor, Backend.asksFor,
        Backend.settingsRequests, hc, hconf]
    | true =>
      simp only [documentSettings, bind_run, current_run, hc, hconf, request_run, Bool.not_true,
        Bool.false_eq_true, ↓reduceIte]
      split
      · rename_i values hanswer
        -- The client answered with a list: its first value gives the settings, which are
        -- cached while the document is open.
        have hs : b.settingsFor ctx uri = answerSettings b.defaults (.ok (.arr values)) := by
          simp [Backend.settingsFor, hc, hconf, hanswer]
        cases hopen : (b.document? uri).isSome <;> cases values <;>
          simp only [bind_run, current_run, hopen, Bool.false_eq_true, ↓reduceIte, update_run,
            pure_run, Session.cacheSettingsFrom_self, Backend.cacheResolved, Backend.cachesFor,
            Backend.asksFor, Backend.settingsRequests, hc, hconf, hanswer, isAnswer, hs,
            answerSettings, Option.isNone_none, Bool.and_true, Bool.and_false]
      · rename_i hanswer
        -- Any other answer gives the defaults, and nothing is cached.
        have hfail : isAnswer (ctx.answer (configurationRequest uri)) = false ∧
            answerSettings b.defaults (ctx.answer (configurationRequest uri)) = b.defaults := by
          cases h : ctx.answer (configurationRequest uri) with
          | error e => simp [isAnswer, answerSettings]
          | ok j => cases j <;> simp_all [isAnswer, answerSettings]
        simp only [pure_run]
        simp [Backend.settingsFor, Backend.cacheResolved, Backend.cachesFor,
          Backend.asksFor, Backend.settingsRequests, hc, hconf, hfail]

theorem runValidation_run :
    ((runValidation uri).run ctx).run ⟨b, sent⟩ =
      match uri.toFilePath with
      | none => (.error .notAFile, ⟨b, sent⟩)
      | some path => (b.validationResult ctx uri path,
          ⟨{ b with session := b.cacheResolved ctx uri b.session },
            sent ++ b.settingsRequests uri⟩) := by
  cases hp : uri.toFilePath with
  | none => simp only [runValidation, hp, pure_run]
  | some path =>
    simp only [runValidation, hp, bind_run, documentSettings_run, read_run]
    cases hr : checkFile ctx.launch ctx.home path (b.settingsFor ctx uri) with
    | error e => simp only [Backend.validationResult, hr, pure_run]
    | ok records =>
      simp only [Backend.validationResult, hr, bind_run, current_run, pure_run]
      rfl

theorem validate_run :
    ((validate uri).run ctx).run ⟨b, sent⟩ =
      ((), ⟨b.afterValidation ctx uri, sent ++ b.validationSent ctx uri⟩) := by
  simp only [validate, bind_run, current_run, update_run]
  rw [runValidation_run]
  -- Beginning the run touches no cached settings, and resolving the settings touches nothing
  -- else, so the run is still in flight and finishes as the newest one.
  have hsame : (b.session.beginRun uri.show).2.cachedSettings uri.show =
      b.session.cachedSettings uri.show := rfl
  cases hp : uri.toFilePath with
  | none =>
    simp only [Session.finishRun_beginRun b.session _ uri.show rfl, ↓reduceIte, pure_run]
    simp only [Backend.afterValidation, Backend.validationSent, hp, Option.isSome_none,
      Bool.false_eq_true, ↓reduceIte, List.append_nil]
    rfl
  | some path =>
    simp only [Backend.cacheResolved_of_cached_eq ctx b uri hsame,
      Backend.validationResult_of_cached_eq ctx b uri hsame,
      Backend.settingsRequests_of_cached_eq b uri hsame,
      Session.finishRun_beginRun b.session _ uri.show (Backend.inFlight_cacheResolved _ _ _ _),
      ↓reduceIte]
    -- The server the validation leaves, written out as the handler builds it.
    have hback : ({ b with session :=
        ⟨(b.cacheResolved ctx uri (b.session.beginRun uri.show).2).settings,
          (b.cacheResolved ctx uri (b.session.beginRun uri.show).2).settingsGeneration,
          b.session.inFlight.erase uri.show,
          (b.cacheResolved ctx uri (b.session.beginRun uri.show).2).nextGeneration⟩ } : Backend) =
        b.afterValidation ctx uri := by
      simp only [Backend.afterValidation, hp, Option.isSome_some, ↓reduceIte, Session.beginRun,
        Backend.cacheResolved_runs]
    cases hc : checkFile ctx.launch ctx.home path (b.settingsFor ctx uri) with
    | error e =>
      simp only [Backend.validationResult, hc, emit_run]
      rw [hback]
      simp only [Backend.validationSent, hp, Backend.report, hc, List.append_assoc]
    | ok records =>
      simp only [Backend.validationResult, hc, bind_run, current_run, publish, emit_run]
      rw [hback]
      simp only [Backend.validationSent, hp, Backend.report, hc, List.append_assoc,
        Backend.document?_afterValidation]

theorem finishRun_runValidation :
    (Session.finishRun (((runValidation uri).run ctx).run
        ⟨{ b with session := (b.session.beginRun uri.show).2 }, sent⟩).2.backend.session
      (b.session.beginRun uri.show).1).1 = true := by
  rw [runValidation_run]
  have hsame : (b.session.beginRun uri.show).2.cachedSettings uri.show =
      b.session.cachedSettings uri.show := rfl
  cases uri.toFilePath with
  | none =>
    dsimp only
    rw [Session.finishRun_beginRun b.session _ uri.show rfl]
  | some path =>
    dsimp only
    rw [Backend.cacheResolved_of_cached_eq ctx b uri hsame,
      Session.finishRun_beginRun b.session _ uri.show (Backend.inFlight_cacheResolved _ _ _ _)]

theorem forIn_validate_run (l : List (Web.Url × DocumentState)) (b : Backend)
    (sent : List Outgoing) :
    ((forIn l PUnit.unit fun (x : Web.Url × DocumentState) _ => do
        validate x.1
        pure (ForInStep.yield PUnit.unit)).run ctx).run ⟨b, sent⟩ =
      (PUnit.unit, ⟨(b.validateEach ctx (l.map (·.1))).2,
        sent ++ (b.validateEach ctx (l.map (·.1))).1⟩) := by
  induction l generalizing b sent with
  | nil => simp only [List.forIn_nil, pure_run, List.map_nil, Backend.validateEach,
      List.append_nil]
  | cons d rest ih =>
    simp only [List.forIn_cons, bind_run, validate_run, pure_run, ih, List.map_cons,
      Backend.validateEach_cons, List.append_assoc]

theorem validateAll_run :
    (validateAll.run ctx).run ⟨b, sent⟩ =
      ((), ⟨(b.validateEach ctx (b.documents.map (·.1))).2,
        sent ++ (b.validateEach ctx (b.documents.map (·.1))).1⟩) := by
  simp only [validateAll, bind_run, current_run, forIn_validate_run, pure_run]

end Validate

/-! ## Notifications -/

/-- The notifications that reach the server's state, once their parameters are read. -/
inductive Notice where
  | initialized
  | didOpen (d : TextDocumentItem)
  | didChange (uri : Web.Url) (version : Int)
  | didSave (uri : Web.Url)
  | didClose (uri : Web.Url)
  | didChangeConfiguration (payload : Json)

/-- The handler of a notification. -/
def Notice.handler : Notice → Handler Unit
  | .initialized => onInitialized
  | .didOpen d => onDidOpen d
  | .didChange uri version => onDidChange uri version
  | .didSave uri => onDidSave uri
  | .didClose uri => onDidClose uri
  | .didChangeConfiguration payload => onDidChangeConfiguration payload

namespace Backend

/-- Handles a notification to its end: what the server sends, and its state after. -/
def receive (ctx : Context) (b : Backend) (n : Notice) : List Outgoing × Backend :=
  let t := ((n.handler.run ctx).run ⟨b, []⟩).2
  (t.sent, t.backend)

variable (ctx : Context) (b : Backend)

theorem receive_initialized : (b.receive ctx .initialized).2 = b := by
  cases hconf : b.support.configuration <;>
    simp only [receive, Notice.handler, onInitialized, bind_run, current_run, hconf, ask,
      request_run, notify, emit_run, Bool.false_eq_true, ↓reduceIte]

theorem receive_didOpen (d : TextDocumentItem) :
    b.receive ctx (.didOpen d) =
      ((b.putDocument d.uri ⟨d.version, d.languageId⟩).validationSent ctx d.uri,
        (b.putDocument d.uri ⟨d.version, d.languageId⟩).afterValidation ctx d.uri) := by
  simp only [receive, Notice.handler, onDidOpen, bind_run, update_run, validate_run,
    List.nil_append]

theorem receive_didChange (uri : Web.Url) (version : Int) :
    b.receive ctx (.didChange uri version) =
      ((b.setVersion uri version).validationSent ctx uri,
        (b.setVersion uri version).afterValidation ctx uri) := by
  simp only [receive, Notice.handler, onDidChange, bind_run, update_run, validate_run,
    List.nil_append]

theorem receive_didSave (uri : Web.Url) :
    b.receive ctx (.didSave uri) = (b.validationSent ctx uri, b.afterValidation ctx uri) := by
  simp only [receive, Notice.handler, onDidSave, validate_run, List.nil_append]

theorem receive_didClose (uri : Web.Url) :
    b.receive ctx (.didClose uri) = ([diagnosticsNotice uri [] none], b.close uri) := by
  simp only [receive, Notice.handler, onDidClose, bind_run, update_run, publish, emit_run,
    List.nil_append]

theorem receive_didChangeConfiguration (payload : Json) :
    b.receive ctx (.didChangeConfiguration payload) =
      (b.reconfigure payload).validateEach ctx ((b.reconfigure payload).documents.map (·.1)) := by
  simp only [receive, Notice.handler, onDidChangeConfiguration, bind_run, update_run,
    validateAll_run, List.nil_append]

/-! ## What a validation sends -/

theorem isRequest_report (uri : Web.Url) (path : String) (s : Settings) :
    (b.report ctx uri path s).isRequest = false := by
  unfold report
  split <;> rfl

theorem notices_validationSent (uri : Web.Url) :
    (b.validationSent ctx uri).filter (!·.isRequest) = match uri.toFilePath with
      | none => []
      | some path => [b.report ctx uri path (b.settingsFor ctx uri)] := by
  unfold validationSent settingsRequests
  cases uri.toFilePath with
  | none => rfl
  | some path => cases b.asksFor uri <;> simp [isRequest_report, configurationRequest]

theorem requests_validationSent (uri : Web.Url) :
    (b.validationSent ctx uri).filter (·.isRequest) = match uri.toFilePath with
      | none => []
      | some _ => b.settingsRequests uri := by
  unfold validationSent settingsRequests
  cases uri.toFilePath with
  | none => rfl
  | some path => cases b.asksFor uri <;> simp [isRequest_report, configurationRequest]

theorem eq_configurationRequest_of_mem_validationSent {uri : Web.Url} {m : Outgoing}
    (hm : m ∈ b.validationSent ctx uri) (hreq : m.isRequest = true) :
    m = configurationRequest uri := by
  unfold validationSent settingsRequests at hm
  cases hp : uri.toFilePath with
  | none => simp [hp] at hm
  | some path =>
    simp only [hp, List.mem_append, List.mem_singleton] at hm
    rcases hm with hm | rfl
    · split at hm
      · exact List.mem_singleton.mp hm
      · cases hm
    · simp [isRequest_report] at hreq

theorem notices_validateEach_length (uris : List Web.Url) :
    ((b.validateEach ctx uris).1.filter (!·.isRequest)).length =
      (uris.filter (·.toFilePath.isSome)).length := by
  induction uris generalizing b with
  | nil => rfl
  | cons uri rest ih =>
    rw [validateEach_cons, List.filter_append, List.length_append, ih, notices_validationSent,
      List.filter_cons]
    cases uri.toFilePath <;> simp [Nat.add_comm]

/-- What each notification sends, from any state of the server. Validating a file sends at most
the request for its settings and then one notification about it, which is never dropped; closing
a document clears its diagnostics, and a configuration change validates the open documents in
turn. -/
theorem receive_messages :
    (∀ (uri : Web.Url) (sent : List Outgoing),
      (Session.finishRun (((runValidation uri).run ctx).run
          ⟨{ b with session := (b.session.beginRun uri.show).2 }, sent⟩).2.backend.session
        (b.session.beginRun uri.show).1).1 = true) ∧
    (∀ uri : Web.Url, (b.validationSent ctx uri).filter (!·.isRequest) =
      match uri.toFilePath with
      | none => []
      | some path => [b.report ctx uri path (b.settingsFor ctx uri)]) ∧
    (∀ uri : Web.Url, (b.validationSent ctx uri).filter (·.isRequest) =
      match uri.toFilePath with
      | none => []
      | some _ => b.settingsRequests uri) ∧
    (∀ d : TextDocumentItem, (b.receive ctx (.didOpen d)).1 =
      (b.putDocument d.uri ⟨d.version, d.languageId⟩).validationSent ctx d.uri) ∧
    (∀ (uri : Web.Url) (version : Int), (b.receive ctx (.didChange uri version)).1 =
      (b.setVersion uri version).validationSent ctx uri) ∧
    (∀ uri : Web.Url, (b.receive ctx (.didSave uri)).1 = b.validationSent ctx uri) ∧
    (∀ uri : Web.Url, (b.receive ctx (.didClose uri)).1 = [diagnosticsNotice uri [] none]) ∧
    (∀ payload : Json,
      (b.receive ctx (.didChangeConfiguration payload)).1 =
        ((b.reconfigure payload).validateEach ctx
          ((b.reconfigure payload).documents.map (·.1))).1 ∧
      ((b.receive ctx (.didChangeConfiguration payload)).1.filter (!·.isRequest)).length =
        ((b.reconfigure payload).documents.filter (·.1.toFilePath.isSome)).length) := by
  refine ⟨fun uri sent => finishRun_runValidation ctx b sent uri, notices_validationSent ctx b,
    requests_validationSent ctx b, fun d => ?_, fun uri version => ?_, fun uri => ?_,
    fun uri => ?_, fun payload => ⟨?_, ?_⟩⟩
  · rw [receive_didOpen]
  · rw [receive_didChange]
  · rw [receive_didSave]
  · rw [receive_didClose]
  · rw [receive_didChangeConfiguration]
  · rw [receive_didChangeConfiguration, notices_validateEach_length, List.filter_map,
      List.length_map]
    rfl

end Backend

end Lsp

end LintBridge
