import LintBridge.Host.Numeral
/-!
# Conditions of `test` and `[`

The shell's `test` gives status 0 when its condition holds, 1 when it does not and 2 when the
arguments are not a condition. Up to four arguments are read by their number, longer ones by the
grammar `-o` over `-a` over `!` over primaries.
-/

namespace LintBridge.Host

/-- An operator of `test`. -/
inductive TestOp where
  | unary (name : String)
  | binary (name : String)
  | not
  | and
  | or
  | lparen
  | rparen
  deriving DecidableEq

def testUnary : List String :=
  ["-r", "-w", "-x", "-e", "-f", "-d", "-c", "-b", "-p", "-u", "-g", "-k", "-s", "-t", "-z", "-n",
    "-h", "-O", "-G", "-L", "-S"]

def testBinary : List String :=
  ["=", "!=", "<", ">", "-eq", "-ne", "-ge", "-gt", "-le", "-lt", "-nt", "-ot", "-ef"]

def testOpOf (s : Bytes) : Option TestOp :=
  let t := String.ofList (s.map fun b => Char.ofNat b.toNat)
  if testUnary.contains t then some (.unary t)
  else if testBinary.contains t then some (.binary t)
  else if t == "!" then some .not
  else if t == "-a" then some .and
  else if t == "-o" then some .or
  else if t == "(" then some .lparen
  else if t == ")" then some .rparen
  else none

def TestOp.isBinary : TestOp → Bool
  | .binary _ => true
  | _ => false

/-- The name of an operator, for messages. -/
def TestOp.text : TestOp → String
  | .unary n | .binary n => n
  | .not => "!"
  | .and => "-a"
  | .or => "-o"
  | .lparen => "("
  | .rparen => ")"

/-- A token of a condition: the end, a plain argument, or an operator. -/
inductive TestToken where
  | eoi
  | operand
  | op (o : TestOp)
  deriving DecidableEq

def unaryIsOperand : List Bytes → Bool
  | [] | [_] => true
  | [_, _] => false
  | _ :: s :: _ :: _ => match testOpOf s with
    | some o => o.isBinary
    | none => false

def lexTest : List Bytes → TestToken
  | [] => .eoi
  | s :: rest =>
    match testOpOf s with
    | some (.unary u) => if unaryIsOperand (s :: rest) then .operand else .op (.unary u)
    | some .lparen => if rest.isEmpty then .operand else .op .lparen
    | some o => .op o
    | none => .operand

def testInteger (s : Bytes) : Option Int :=
  let blanks := (s.takeWhile isCSpace).length
  let rest := s.drop blanks
  let (neg, signLen) := readSign rest
  let digits := (rest.drop signLen).takeWhile isDigitByte
  let after := (rest.drop (signLen + digits.length))
  if digits.isEmpty || !(after.all isCSpace) then none
  else
    let mag := (readDigitsIn 10 digits).1
    let v : Int := if neg then -(mag : Int) else mag
    if v > Int64.maxValue.toInt || v < Int64.minValue.toInt then none else some v

/-- What the file tests can see of a path: its kind, what the user may do with it, whether the
path itself is a link, its mode bits and group, whether a script wrote it (so that it is newer
than the machine's own files), and the file it reaches. -/
structure FileFacts where
  exists_ : Bool := false
  regular : Bool := false
  directory : Bool := false
  device : Bool := false
  readable : Bool := false
  writable : Bool := false
  executable : Bool := false
  nonEmpty : Bool := false
  link : Bool := false
  sticky : Bool := false
  setGroup : Bool := false
  ownGroup : Bool := false
  written : Bool := false
  identity : String := ""

abbrev TestM := StateT (List Bytes) (Except Bytes)

def testError {α : Type} (op : String) (msg : String) : TestM α :=
  throw (bytes (if op.isEmpty then msg else op ++ ": " ++ msg))

def testNumber (s : Bytes) : TestM Int :=
  match testInteger s with
  | some v => pure v
  | none => throw (bytes "Illegal number: " ++ s)

def testBinaryOp (facts : Bytes → FileFacts) (op : String) (a b : Bytes) : TestM Bool :=
  match op with
  | "=" => pure (a == b)
  | "!=" => pure (a != b)
  | "<" => pure (decide (a < b))
  | ">" => pure (decide (b < a))
  | "-eq" => do return (← testNumber a) == (← testNumber b)
  | "-ne" => do return (← testNumber a) != (← testNumber b)
  | "-ge" => do return (← testNumber a) ≥ (← testNumber b)
  | "-gt" => do return (← testNumber a) > (← testNumber b)
  | "-le" => do return (← testNumber a) ≤ (← testNumber b)
  | "-lt" => do return (← testNumber a) < (← testNumber b)
  | "-ef" => pure ((facts a).exists_ && (facts b).exists_ && (facts a).identity == (facts b).identity)
  | "-nt" => pure ((facts a).exists_ && (facts b).exists_ && (facts a).written && !(facts b).written)
  | "-ot" => pure ((facts a).exists_ && (facts b).exists_ && !(facts a).written && (facts b).written)
  | _ => pure false

def testUnaryOp (facts : Bytes → FileFacts) (op : String) (a : Bytes) : TestM Bool :=
  let f := facts a
  match op with
  | "-z" => pure a.isEmpty
  | "-n" => pure !a.isEmpty
  | "-t" => do let _ ← testNumber a; pure false
  | "-e" => pure f.exists_
  | "-f" => pure f.regular
  | "-d" => pure f.directory
  | "-c" => pure f.device
  | "-r" => pure f.readable
  | "-w" => pure f.writable
  | "-x" => pure f.executable
  | "-s" => pure f.nonEmpty
  | "-h" | "-L" => pure f.link
  | "-k" => pure f.sticky
  | "-g" => pure f.setGroup
  | "-O" => pure f.exists_
  | "-G" => pure f.ownGroup
  | _ => pure false

/-- The argument at the front. -/
def TestM.current : TestM (List Bytes) := get

/-- Moves on by `k` arguments. -/
def TestM.skip (k : Nat) : TestM Unit := modify (·.drop k)

mutual

def testOr (facts : Bytes → FileFacts) : Nat → TestToken → TestM Bool
  | 0, _ => testError "" "argument expected"
  | n + 1, t => do
    let a ← testAnd facts n t
    let wp ← TestM.current
    if lexTest wp.tail == .op .or then do
      TestM.skip 2
      let b ← testOr facts n (lexTest (← TestM.current))
      pure (a || b)
    else pure a

def testAnd (facts : Bytes → FileFacts) : Nat → TestToken → TestM Bool
  | 0, _ => testError "" "argument expected"
  | n + 1, t => do
    let a ← testNot facts n t
    let wp ← TestM.current
    if lexTest wp.tail == .op .and then do
      TestM.skip 2
      let b ← testAnd facts n (lexTest (← TestM.current))
      pure (a && b)
    else pure a

def testNot (facts : Bytes → FileFacts) : Nat → TestToken → TestM Bool
  | 0, _ => testError "" "argument expected"
  | n + 1, t =>
    if t == .op .not then do
      TestM.skip 1
      let v ← testNot facts n (lexTest (← TestM.current))
      pure !v
    else testPrimary facts n t

def testPrimary (facts : Bytes → FileFacts) : Nat → TestToken → TestM Bool
  | 0, _ => testError "" "argument expected"
  | n + 1, t => do
    match t with
    | .eoi => pure false
    | .op .lparen => do
      TestM.skip 1
      let inner := lexTest (← TestM.current)
      if inner == .op .rparen then pure false
      else do
        let v ← testOr facts n inner
        TestM.skip 1
        if lexTest (← TestM.current) != .op .rparen then testError "" "closing paren expected"
        pure v
    | .op (.unary u) => do
      TestM.skip 1
      match ← TestM.current with
      | [] => testError u "argument expected"
      | a :: _ => testUnaryOp facts u a
    | _ => do
      let wp ← TestM.current
      match wp with
      | a :: op :: rest =>
        match lexTest (op :: rest) with
        | .op (.binary b) => do
          TestM.skip 2
          match rest with
          | [] => testError b "argument expected"
          | c :: _ => testBinaryOp facts b a c
        | _ => pure !a.isEmpty
      | [a] => pure !a.isEmpty
      | [] => testError "" "argument expected"

end

def testWhole (facts : Bytes → FileFacts) (args : List Bytes) (t : TestToken) :
    Except Bytes Bool :=
  let run : TestM Bool := do
    let v ← testOr facts (4 * args.length + 8) t
    match ← TestM.current with
    | a :: _ :: _ => throw (a ++ bytes ": unexpected operator")
    | _ => pure v
  (run.run' args)

def testArgs (facts : Bytes → FileFacts) : Nat → Bool → List Bytes → Except Bytes Nat
  | 0, _, _ => .ok 1
  | fuel + 1, negated, args =>
    let flip (b : Bool) : Nat := if b != negated then 0 else 1
    if args.isEmpty then .ok (if negated then 0 else 1)
    else
      let three := args.length == 3 &&
        match args with
        | [_, op, _] => (testOpOf op).map TestOp.isBinary == some true
        | _ => false
      if three then (testWhole facts args .operand).map flip
      else if (args.length == 3 || args.length == 4) && args.head? == some (bytes "(") &&
          args.getLast? == some (bytes ")") then
        (testWhole facts (args.drop 1).dropLast (lexTest ((args.drop 1).dropLast))).map flip
      else if (args.length == 3 || args.length == 4) && args.head? == some (bytes "!") then
        testArgs facts fuel (!negated) args.tail
      else (testWhole facts args (lexTest args)).map flip

def testStatus (facts : Bytes → FileFacts) (bracket : Bool) (args : List Bytes) :
    Except Bytes Nat :=
  if bracket then
    match args.getLast? with
    | some last =>
      if last.head? == some 93 then testArgs facts (args.length + 1) false args.dropLast
      else .error (bytes "missing ]")
    | none => .error (bytes "missing ]")
  else testArgs facts (args.length + 1) false args

end LintBridge.Host
