import LintBridge.Lsp.Script
import LintBridge.Json.Read
import LintBridge.Config.Load
/-!
# The server over standard input and output

The server takes `--stdio` or prints its usage and exits with 1. Messages are bodies framed by a
length header; a body that is not JSON, or not a message, is answered under a `null` id and ends
the reading.
-/

namespace LintBridge.Lsp

/-- A message the client reads from the server. -/
inductive Received where
  /-- A request or notification of the server. -/
  | message (m : Outgoing)
  /-- The answer to one of the client's requests. -/
  | answer (id : Json) (r : Except RpcError Json)

/-- What a body sent to the server reads as. -/
inductive Frame where
  /-- A request or notification. -/
  | incoming (m : Incoming)
  /-- A response to one of the server's requests. -/
  | reply
  /-- Not a message: the error the server answers with before it stops. -/
  | malformed (e : RpcError)

def isId : Json → Bool
  | .num (.int i) => -(Int.pow 2 63) ≤ i ∧ i < Int.pow 2 63
  | .str _ | .null => true
  | _ => false

def isErrorObject (j : Json) : Bool :=
  match j.field? "code", j.field? "message" with
  | some (.num (.int c)), some (.str _) => -(Int.pow 2 63) ≤ c ∧ c < Int.pow 2 63
  | _, _ => false

/-- Reads a body. -/
def Frame.read (body : String) : Frame :=
  match Json.parse body with
  | none => .malformed .parseError
  | some j =>
    match j with
    | .obj fields =>
      let keys := (Json.objectKeys body).getD []
      let once (k : String) : Bool := keys.count k ≤ 1
      let versioned := (fields.lookup "jsonrpc").bind Json.getStr? == some "2.0"
      let idOk := (fields.lookup "id").all isId
      let isReply := versioned && once "jsonrpc" && once "id" &&
        (fields.lookup "id").isSome && idOk &&
        (((fields.lookup "result").isSome && once "result") ||
          ((fields.lookup "error").any isErrorObject && once "error"))
      if isReply then .reply
      else match fields.lookup "method" with
        | some (.str method) =>
          if versioned && idOk && ["jsonrpc", "method", "params", "id"].all once then
            .incoming ⟨method, fields.lookup "id", fields.lookup "params"⟩
          else .malformed .invalidRequest
        | _ => .malformed .invalidRequest
    | _ => .malformed .invalidRequest

/-- The server process as a client sees it. -/
structure Process where
  server : Server
  client : ScriptedClient
  /-- What the server wrote that the client has not read yet. -/
  queue : List Received
  /-- Whether the server closed its output. -/
  closed : Bool
  /-- Whether the server stopped reading without closing its output. -/
  stuck : Bool

/-- Sends a body to the server and queues what it writes back. -/
def Process.send (launch : Launcher) (home : Option String) (p : Process) (body : String) :
    Process :=
  if p.closed ∨ p.stuck then p
  else match Frame.read body with
    | .malformed e => { p with queue := p.queue ++ [.answer .null (.error e)], closed := true }
    | .reply => p
    | .incoming m =>
      if p.server.lifecycle = .exited then { p with stuck := true }
      else
        let o := p.server.receive ⟨launch, home, p.client.answer⟩ m
        let answers := match m.id, o.response with
          | some id, some r => [Received.answer id r]
          | _, _ => []
        { p with server := o.server, queue := p.queue ++ o.sent.map .message ++ answers }

/-- One step of a client: new tables, a body to send, and how many messages to wait for. -/
structure WireStep where
  change : TableChange
  body : Option String
  expect : Nat

/-- What a step read, and whether the server's output ended before it read all it waited for. -/
structure WireRead where
  received : List Received
  closed : Bool

/-- A whole run of the program. -/
structure WireRun where
  steps : List WireRead
  after : List Received
  code : Option Nat
  killed : Bool
  stderr : String

def Process.runSteps (launch : Launcher) (home : Option String) :
    Process → List WireStep → List WireRead × Process
  | p, [] => ([], p)
  | p, s :: rest =>
    let p := { p with client := p.client.apply s.change }
    let p := match s.body with
      | some b => p.send launch home b
      | none => p
    let got := p.queue.take s.expect
    let p := { p with queue := p.queue.drop s.expect }
    if got.length < s.expect ∧ p.closed then ([⟨got, true⟩], p)
    else
      let (more, p) := p.runSteps launch home rest
      (⟨got, false⟩ :: more, p)

/-- The usage the program prints without `--stdio`. -/
def usage : String :=
  "Norminette Language Server\nUsage: norminette-lsp --stdio\n\nOptions:\n" ++
    "  --stdio    Use stdin/stdout for communication (required)\n"

def configFileName : String := "norminette-lsp.toml"

/-- Runs the program with its arguments and surroundings against a scripted client. -/
def runProgram (launch : Launcher) (home : Option String) (args : List String)
    (world : Config.Surroundings) (client : ScriptedClient) (steps : List WireStep) : WireRun :=
  if !args.contains "--stdio" then ⟨[], [], some 1, false, usage⟩
  else
    let defaults := match Config.load world with
      | .ok s => s
      | .error _ => Settings.default
    let start : Process := ⟨Server.new defaults, client, [], false, false⟩
    let (reads, p) := start.runSteps launch home steps
    if p.stuck then ⟨reads, p.queue, none, true, ""⟩
    else ⟨reads, p.queue, some 0, false, ""⟩

end LintBridge.Lsp
