import LintBridge.Host.Printf
import LintBridge.Host.Shell.Test
/-!
# Conditions of the `test` program

The `test` and `[` programs read up to four arguments by their number, and longer conditions by
the grammar of `-o` over `-a` over `!` over primaries. Errors give status 2 with a message.
-/

namespace LintBridge.Host

abbrev CondM := StateT Nat (Except Bytes)

/-- The arguments of a condition, with the program's name first, as indices count them, and the
number of them that belong to the condition (for `[`, all but the closing `]`). -/
structure CondArgs where
  argv : List Bytes
  count : Nat
  facts : Bytes → FileFacts

/-- The argument at an index; past the end, nothing. -/
def CondArgs.at (a : CondArgs) (i : Nat) : Bytes := a.argv.getD i []

/-- Whether there is an argument at an index, the closing `]` of `[` included. -/
def CondArgs.has (a : CondArgs) (i : Nat) : Bool := i < a.argv.length

/-- The error of a condition that stops short. -/
def CondArgs.beyond {α : Type} (a : CondArgs) : CondM α :=
  throw (bytes "missing argument after " ++ messageQuote (a.at (a.count - 1)))

def CondArgs.advance (a : CondArgs) (needed : Bool) : CondM Unit := do
  modify (· + 1)
  if needed && (← get) ≥ a.count then a.beyond

def CondArgs.unaryAdvance (a : CondArgs) : CondM Unit := do
  a.advance true
  modify (· + 1)

def isBinaryOperator (s : Bytes) : Bool :=
  ["=", "!=", "==", "-nt", "-ot", "-ef", "-eq", "-ne", "-lt", "-le", "-gt", "-ge", ">", "<"].any
    (bytes · == s)

def conditionInteger (s : Bytes) : CondM Int :=
  let isBlank (b : UInt8) := b == 32 || b == 9
  let rest := s.dropWhile isBlank
  let (neg, rest) := match rest with
    | 43 :: more => (false, more)
    | 45 :: more => (true, more)
    | _ => (false, rest)
  let digits := rest.takeWhile isDigitByte
  if !digits.isEmpty && (rest.drop digits.length).all isBlank then
    let v := (readDigitsIn 10 digits).1
    pure (if neg then -(v : Int) else v)
  else throw (bytes "invalid integer " ++ messageQuote s)

def CondArgs.unary (a : CondArgs) : CondM Bool := do
  let pos ← get
  let op := a.at pos
  let f (test : FileFacts → Bool) : CondM Bool := do
    a.unaryAdvance
    pure (test (a.facts (a.at (pos + 1))))
  match op with
  | [45, c] =>
    if c == 101 then f (·.exists_)
    else if c == 114 then f (·.readable)
    else if c == 119 then f (·.writable)
    else if c == 120 then f (·.executable)
    else if c == 102 then f (·.regular)
    else if c == 100 then f (·.directory)
    else if c == 115 then f (·.nonEmpty)
    else if c == 99 then f (·.device)
    else if c == 79 then f (·.exists_)
    else if c == 71 then f (·.ownGroup)
    else if c == 76 || c == 104 then f (·.link)
    else if c == 107 then f (·.sticky)
    else if c == 103 then f (·.setGroup)
    else if c == 78 || c == 83 || c == 98 || c == 112 || c == 117 then f fun _ => false
    else if c == 116 then do
      a.unaryAdvance
      let _ ← conditionInteger (a.at (pos + 1))
      pure false
    else if c == 110 then do
      a.unaryAdvance
      pure !(a.at (pos + 1)).isEmpty
    else if c == 122 then do
      a.unaryAdvance
      pure (a.at (pos + 1)).isEmpty
    else throw (messageQuote op ++ bytes ": unary operator expected")
  | _ => throw (messageQuote op ++ bytes ": unary operator expected")

/-- Applies the binary operator after the current argument; `leftLength` says the left operand
is `-l arg`. -/
def CondArgs.binary (a : CondArgs) (leftLength : Bool) : CondM Bool := do
  if leftLength then a.advance false
  let op := (← get) + 1
  let rightLength := op + 2 < a.count && a.at (op + 1) == bytes "-l"
  if rightLength then a.advance false
  let name := a.at op
  let pos ← get
  if name.head? == some 45 then
    let numeric := ["-lt", "-le", "-gt", "-ge", "-eq", "-ne"].any (bytes · == name)
    if numeric then
      let l ← if leftLength then pure ((a.at (op - 1)).length : Int) else conditionInteger (a.at (op - 1))
      let r ← if rightLength then pure ((a.at (op + 2)).length : Int) else conditionInteger (a.at (op + 1))
      set (pos + 3)
      pure (match name with
        | [45, 108, 116] => l < r
        | [45, 108, 101] => l ≤ r
        | [45, 103, 116] => l > r
        | [45, 103, 101] => l ≥ r
        | [45, 101, 113] => l == r
        | _ => l != r)
    else if ["-nt", "-ot", "-ef"].any (bytes · == name) then do
      set (pos + 3)
      if leftLength || rightLength then
        throw (name ++ bytes " does not accept -l")
      let l := a.at (op - 1)
      let r := a.at (op + 1)
      let fl := a.facts l
      let fr := a.facts r
      if name == bytes "-ef" then pure (fl.exists_ && fr.exists_ && fl.identity == fr.identity)
      else if name == bytes "-nt" then pure (fl.exists_ && (!fr.exists_ || fl.written && !fr.written))
      else pure (fr.exists_ && (!fl.exists_ || fr.written && !fl.written))
    else throw (messageQuote name ++ bytes ": unknown binary operator")
  else do
    let l := a.at pos
    let r := a.at (pos + 2)
    set (pos + 3)
    if name == bytes "=" || name == bytes "==" then pure (l == r)
    else if name == bytes "!=" then pure (l != r)
    else if name == bytes ">" then pure (decide (r < l))
    else pure (decide (l < r))

def CondArgs.parenCount (a : CondArgs) (pos : Nat) : Nat :=
  let upTo := ((List.range 4).map (· + 1)).find? fun k =>
    !(pos + k < a.count) || a.at (pos + k) == bytes ")"
  match upTo with
  | some k => k
  | none => a.count - pos

/-- One argument: true when it is not empty. -/
def CondArgs.one (a : CondArgs) : CondM Bool := do
  let pos ← get
  set (pos + 1)
  pure !(a.at pos).isEmpty

mutual

def CondArgs.posix (a : CondArgs) : Nat → Nat → CondM Bool
  | 0, _ => a.beyond
  | n + 1, nargs => do
    let pos ← get
    match nargs with
    | 1 => a.one
    | 2 => a.two n
    | 3 => a.three n
    | 4 =>
      if a.at pos == bytes "!" then do
        a.advance true
        let v ← a.three n
        pure !v
      else if a.at pos == bytes "(" && a.at (pos + 3) == bytes ")" then do
        a.advance false
        let v ← a.two n
        a.advance false
        pure v
      else a.expr n
    | _ => a.expr n

/-- Two arguments: `! arg`, or a unary test. -/
def CondArgs.two (a : CondArgs) : Nat → CondM Bool
  | 0 => a.beyond
  | _ + 1 => do
    let pos ← get
    let first := a.at pos
    if first == bytes "!" then do
      a.advance false
      let v ← a.one
      pure !v
    else if first.length == 2 && first.head? == some 45 then a.unary
    else a.beyond

/-- Three arguments: a binary test, `! two`, `( arg )`, or an `-a`/`-o` expression. -/
def CondArgs.three (a : CondArgs) : Nat → CondM Bool
  | 0 => a.beyond
  | n + 1 => do
    let pos ← get
    if isBinaryOperator (a.at (pos + 1)) then a.binary false
    else if a.at pos == bytes "!" then do
      a.advance true
      let v ← a.two n
      pure !v
    else if a.at pos == bytes "(" && a.at (pos + 2) == bytes ")" then do
      a.advance false
      let v ← a.one
      a.advance false
      pure v
    else if a.at (pos + 1) == bytes "-a" || a.at (pos + 1) == bytes "-o" then a.expr n
    else throw (messageQuote (a.at (pos + 1)) ++ bytes ": binary operator expected")

def CondArgs.expr (a : CondArgs) : Nat → CondM Bool
  | 0 => a.beyond
  | n + 1 => do
    if (← get) ≥ a.count then a.beyond
    a.disjunction n false

def CondArgs.disjunction (a : CondArgs) : Nat → Bool → CondM Bool
  | 0, _ => a.beyond
  | n + 1, acc => do
    let v ← a.conjunction n true
    let acc := acc || v
    let pos ← get
    if pos < a.count && a.at pos == bytes "-o" then do
      a.advance false
      a.disjunction n acc
    else pure acc

def CondArgs.conjunction (a : CondArgs) : Nat → Bool → CondM Bool
  | 0, _ => a.beyond
  | n + 1, acc => do
    let v ← a.term n
    let acc := acc && v
    let pos ← get
    if pos < a.count && a.at pos == bytes "-a" then do
      a.advance false
      a.conjunction n acc
    else pure acc

/-- A term: leading `!`s, then `( … )`, a binary or unary test, or an argument. -/
def CondArgs.term (a : CondArgs) : Nat → CondM Bool
  | 0 => a.beyond
  | n + 1 => do
    let negated ← a.nots n false
    let pos ← get
    if pos ≥ a.count then a.beyond
    let v ← if a.at pos == bytes "(" then do
        a.advance true
        let pos ← get
        let nargs := a.parenCount pos
        let v ← a.posix n nargs
        let pos ← get
        if !a.has pos then throw (messageQuote (bytes ")") ++ bytes " expected")
        else if a.at pos != bytes ")" then
          throw (messageQuote (bytes ")") ++ bytes " expected, found " ++ messageQuote (a.at pos))
        a.advance false
        pure v
      else if 4 ≤ a.count - pos && a.at pos == bytes "-l" && isBinaryOperator (a.at (pos + 2)) then
        a.binary true
      else if 3 ≤ a.count - pos && isBinaryOperator (a.at (pos + 1)) then a.binary false
      else if (a.at pos).length == 2 && (a.at pos).head? == some 45 then a.unary
      else do
        a.advance false
        pure !(a.at pos).isEmpty
    pure (negated != v)

def CondArgs.nots (a : CondArgs) : Nat → Bool → CondM Bool
  | 0, negated => pure negated
  | n + 1, negated => do
    let pos ← get
    if pos < a.count && a.at pos == bytes "!" then do
      a.advance true
      a.nots n !negated
    else pure negated

end

def conditionStatus (facts : Bytes → FileFacts) (argv0 : Bytes) (bracket : Bool)
    (args : List Bytes) : Except Bytes Nat :=
  let a : CondArgs :=
    { argv := argv0 :: args, count := args.length + 1 - (if bracket then 1 else 0), facts := facts }
  if a.count ≤ 1 then .ok 1
  else
    let run : CondM Bool := do
      let v ← a.posix (8 * a.count + 8) (a.count - 1)
      let pos ← get
      if pos != a.count then throw (bytes "extra argument " ++ messageQuote (a.at pos))
      pure v
    match run.run' 1 with
    | .ok v => .ok (if v then 0 else 1)
    | .error e => .error e

end LintBridge.Host
