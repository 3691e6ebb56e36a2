import LintBridge.Lsp.Service
import LintBridge.Json.Write
/-!
# Scripted sessions

A server driven by a list of steps and a client whose answers come from tables. The messages
sent while handling a configuration change are listed in the order of their canonical JSON text,
since revalidation has no defined order.
-/

namespace LintBridge.Lsp

/-- A client whose answers come from tables. -/
structure ScriptedClient where
  settings : List (String × Json)
  failing : List String
  raw : List (String × Json)
  refusesRegistration : Bool

def scopeOf (params : Json) : String :=
  match params.field? "items" with
  | some (.arr (item :: _)) => ((item.field? "scopeUri").bind Json.getStr?).getD ""
  | _ => ""

/-- The client's answer to a request of the server: for a configuration request, an internal
error for a failing document, else its raw answer, else a list of its settings (`null` for a
document without any); for a registration, `null` or an error. -/
def ScriptedClient.answer (c : ScriptedClient) (m : Outgoing) : Except RpcError Json :=
  if m.method == "workspace/configuration" then
    let uri := scopeOf m.params
    if c.failing.contains uri then .error .internalError
    else match c.raw.lookup uri with
      | some v => .ok v
      | none => .ok (.arr [(c.settings.lookup uri).getD .null])
  else if m.method == "client/registerCapability" ∧ c.refusesRegistration then .error .internalError
  else .ok .null

/-- New tables for the client; each one given replaces the one it names. -/
structure TableChange where
  settings : Option (List (String × Json))
  failing : Option (List String)
  raw : Option (List (String × Json))

/-- The client with the tables replaced. -/
def ScriptedClient.apply (c : ScriptedClient) (t : TableChange) : ScriptedClient :=
  { c with settings := t.settings.getD c.settings, failing := t.failing.getD c.failing,
           raw := t.raw.getD c.raw }

/-- One step of a session: tables to replace, and a message to send. -/
structure ScriptStep where
  change : TableChange
  message : Option Incoming

/-- What one step shows. -/
inductive StepResult where
  /-- Only the tables changed. -/
  | ok
  /-- The server's answer, if any, and the messages it sent. -/
  | delivered (response : Option (Except RpcError Json)) (sent : List Outgoing)
  /-- The server had already exited. -/
  | exited

def insertByText (m : Outgoing) : List Outgoing → List Outgoing
  | [] => [m]
  | x :: rest =>
    if m.toJson.canonical ≤ x.toJson.canonical then m :: x :: rest else x :: insertByText m rest

def byText (ms : List Outgoing) : List Outgoing := ms.foldr insertByText []

def shownSent (method : String) (sent : List Outgoing) : List Outgoing :=
  if method == "workspace/didChangeConfiguration" then byText sent else sent

def runScript (launch : Launcher) (home : Option String) :
    Server → ScriptedClient → List ScriptStep → List StepResult
  | _, _, [] => []
  | srv, c, step :: rest =>
    let c := c.apply step.change
    match step.message with
    | none => .ok :: runScript launch home srv c rest
    | some m =>
      if srv.lifecycle = .exited then .exited :: runScript launch home srv c rest
      else
        let o := srv.receive ⟨launch, home, c.answer⟩ m
        .delivered o.response (shownSent m.method o.sent) :: runScript launch home o.server c rest

end LintBridge.Lsp
