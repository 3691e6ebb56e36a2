import LintBridge.Settings.Basic
/-!
# Sessions

The settings fetched for each document, with a generation that every clearing of the cache
raises, and the run of each document in flight. A newer run supersedes an older one, and a fetch
started before the cache was cleared is not cached.
-/

namespace LintBridge

/-- A list of pairs with one pair per key. -/
abbrev KeyMap (α : Type) := List (String × α)

namespace KeyMap

/-- The value at a key. -/
def get? {α : Type} (m : KeyMap α) (k : String) : Option α :=
  (m.find? (·.1 == k)).map (·.2)

/-- Sets the value at a key: an existing pair keeps its place, a new one goes last. -/
def insert {α : Type} (m : KeyMap α) (k : String) (v : α) : KeyMap α :=
  if m.any (·.1 == k) then m.map (fun p => if p.1 == k then (k, v) else p) else m ++ [(k, v)]

/-- Removes a key. -/
def erase {α : Type} (m : KeyMap α) (k : String) : KeyMap α := m.filter (·.1 != k)

end KeyMap

/-- One validation run of one document. -/
structure RunToken where
  key : String
  generation : Nat
  deriving DecidableEq, Repr

/-- The state shared by every validation of a language server. -/
structure Session where
  settings : KeyMap Settings := []
  settingsGeneration : Nat := 0
  inFlight : KeyMap Nat := []
  nextGeneration : Nat := 0

namespace Session

/-- The session with nothing cached and nothing in flight. -/
def empty : Session := {}

/-- The settings cached for a document. -/
def cachedSettings (s : Session) (key : String) : Option Settings := s.settings.get? key

/-- Caches settings for a document. -/
def cacheSettings (s : Session) (key : String) (v : Settings) : Session :=
  { s with settings := s.settings.insert key v }

/-- Caches settings fetched while the cache had generation `g`, unless it was cleared since;
says whether they were cached. -/
def cacheSettingsFrom (s : Session) (g : Nat) (key : String) (v : Settings) : Bool × Session :=
  if g = s.settingsGeneration then (true, s.cacheSettings key v) else (false, s)

/-- Forgets a closed document: its settings and its run. -/
def evict (s : Session) (key : String) : Session :=
  { s with settings := s.settings.erase key, inFlight := s.inFlight.erase key }

/-- Drops every cached settings entry and raises the generation. -/
def clearSettings (s : Session) : Session :=
  { s with settings := [], settingsGeneration := s.settingsGeneration + 1 }

/-- Starts a run of a document, superseding any run of it still in flight. -/
def beginRun (s : Session) (key : String) : RunToken × Session :=
  let g := s.nextGeneration + 1
  (⟨key, g⟩, { s with nextGeneration := g, inFlight := s.inFlight.insert key g })

/-- Whether a run is the newest run of its document and still in flight. -/
def isCurrent (s : Session) (t : RunToken) : Bool := s.inFlight.get? t.key == some t.generation

/-- Retires a run; says whether its result is to be published. -/
def finishRun (s : Session) (t : RunToken) : Bool × Session :=
  if s.isCurrent t then (true, { s with inFlight := s.inFlight.erase t.key }) else (false, s)

/-- How many documents have a run in flight. -/
def inFlightCount (s : Session) : Nat := s.inFlight.length

end Session

end LintBridge
