import LintBridge.Host.Numeral
/-!
# Shell arithmetic

The expressions of `$((…))` on signed 64-bit integers that wrap around, with C's operators and
precedence. An expression is evaluated as it is read, so the first problem from the left is the
error, and the branches not taken by `&&`, `||` and `?:` are read but not evaluated.
-/

namespace LintBridge.Host.Shell

/-- A token of an arithmetic expression. -/
inductive ArithToken where
  | num (v : Int64)
  | name (s : String)
  | op (s : String)
  | bad
  | eof
  deriving DecidableEq

def arithOperators : List String :=
  ["<<=", ">>=", "<<", ">>", "<=", ">=", "==", "!=", "&&", "||", "+=", "-=", "*=", "/=", "%=",
    "&=", "^=", "|=", "+", "-", "*", "/", "%", "<", ">", "=", "&", "|", "^", "!", "~", "?", ":",
    "(", ")"]

def clampInt64 (v : Int) : Int64 :=
  if v > Int64.maxValue.toInt then Int64.maxValue
  else if v < Int64.minValue.toInt then Int64.minValue
  else Int64.ofInt v

def lexArith : Nat → Bytes → List ArithToken
  | 0, _ => [.eof]
  | _ + 1, [] => [.eof]
  | n + 1, b :: rest =>
    if b == 32 || b == 9 || b == 10 then lexArith n rest
    else if isDigitByte b then
      let (v, used) := readMagnitude (b :: rest)
      .num (clampInt64 v) :: lexArith n ((b :: rest).drop (max used 1))
    else if (65 ≤ b && b ≤ 90) || (97 ≤ b && b ≤ 122) || b == 95 then
      let name := (b :: rest).takeWhile fun c =>
        (65 ≤ c && c ≤ 90) || (97 ≤ c && c ≤ 122) || c == 95 || isDigitByte c
      .name (String.ofList (name.map fun c => Char.ofNat c.toNat)) :: lexArith n ((b :: rest).drop name.length)
    else
      match arithOperators.find? fun o => ((b :: rest).take o.length) == bytes o with
      | some o => .op o :: lexArith n ((b :: rest).drop o.length)
      | none => [.bad]

/-- Why an arithmetic expression failed: a syntax error or division by zero, a variable whose
value is not a number, or a division whose quotient does not fit, which the processor traps. -/
inductive ArithError where
  | malformed (msg : String)
  | illegalNumber (text : Bytes)
  | overflow

def numberValue (text : Bytes) : Except ArithError Int64 :=
  let n := readIntmax text
  let rest := text.drop n.used
  if n.outOfRange || !(rest.all isCSpace) || (n.used = 0 && !(text.all isCSpace)) then
    .error (.illegalNumber text)
  else .ok (Int64.ofInt n.value)

/-- The state of evaluating: the tokens left and the assignments made, the latest first. -/
structure ArithRun where
  tokens : List ArithToken
  assigned : List (String × Int64) := []

abbrev ArithM := ExceptT ArithError (StateM ArithRun)

/-- The next token, not taken. -/
def ArithM.peek : ArithM ArithToken := do return ((← get).tokens.head?).getD .eof

/-- Takes the next token. -/
def ArithM.next : ArithM ArithToken := do
  let r ← get
  match r.tokens with
  | t :: rest => do set { r with tokens := rest }; pure t
  | [] => pure .eof

/-- The value of a variable, after the assignments made so far. -/
def ArithM.lookup (env : String → Option Bytes) (name : String) : ArithM Int64 := do
  match (← get).assigned.lookup name with
  | some v => pure v
  | none =>
    match numberValue ((env name).getD []) with
    | .ok v => pure v
    | .error e => throw e

def ofBool (b : Bool) : Int64 := if b then 1 else 0

def applyBinary (op : String) (a b : Int64) : Except ArithError Int64 :=
  match op with
  | "*" => .ok (a * b)
  | "/" =>
    if b == 0 then .error (.malformed "division by zero")
    else if a == Int64.minValue && b == -1 then .error .overflow else .ok (a / b)
  | "%" =>
    if b == 0 then .error (.malformed "division by zero")
    else if a == Int64.minValue && b == -1 then .error .overflow else .ok (a % b)
  | "+" => .ok (a + b)
  | "-" => .ok (a - b)
  | "<<" => .ok (a <<< b)
  | ">>" => .ok (a >>> b)
  | "<" => .ok (ofBool (a < b))
  | "<=" => .ok (ofBool (a ≤ b))
  | ">" => .ok (ofBool (a > b))
  | ">=" => .ok (ofBool (a ≥ b))
  | "==" => .ok (ofBool (a == b))
  | "!=" => .ok (ofBool (a != b))
  | "&" => .ok (a &&& b)
  | "^" => .ok (a ^^^ b)
  | "|" => .ok (a ||| b)
  | _ => .error (.malformed "expecting primary")

def binaryLevels : List (List String) :=
  [["*", "/", "%"], ["+", "-"], ["<<", ">>"], ["<", "<=", ">", ">="], ["==", "!="], ["&"], ["^"],
    ["|"]]

def compoundAssignments : List (String × String) :=
  [("*=", "*"), ("/=", "/"), ("%=", "%"), ("+=", "+"), ("-=", "-"), ("<<=", "<<"), (">>=", ">>"),
    ("&=", "&"), ("^=", "^"), ("|=", "|")]

def ArithM.ofExcept {α : Type} : Except ArithError α → ArithM α
  | .ok a => pure a
  | .error e => throw e

mutual

def arithAssignment (env : String → Option Bytes) : Nat → Bool → ArithM Int64
  | 0, _ => throw (.malformed "expecting primary")
  | n + 1, noeval => do
    let r ← get
    match r.tokens with
    | .name v :: .op o :: rest =>
      if o == "=" || (compoundAssignments.lookup o).isSome then do
        set { r with tokens := rest }
        let value ← arithAssignment env n noeval
        if noeval then pure value
        else do
          let result ← match compoundAssignments.lookup o with
            | some bin => do
              let old ← ArithM.lookup env v
              ArithM.ofExcept (applyBinary bin old value)
            | none => pure value
          modify fun r => { r with assigned := (v, result) :: r.assigned }
          pure result
      else arithConditional env n noeval
    | _ => arithConditional env n noeval

def arithConditional (env : String → Option Bytes) : Nat → Bool → ArithM Int64
  | 0, _ => throw (.malformed "expecting primary")
  | n + 1, noeval => do
    let a ← arithOr env n noeval
    if (← ArithM.peek) == .op "?" then do
      let _ ← ArithM.next
      let b ← arithAssignment env n (noeval || a == 0)
      if (← ArithM.peek) != .op ":" then throw (.malformed "expecting ':'")
      let _ ← ArithM.next
      let c ← arithConditional env n (noeval || a != 0)
      pure (if a != 0 then b else c)
    else pure a

def arithOr (env : String → Option Bytes) : Nat → Bool → ArithM Int64
  | 0, _ => throw (.malformed "expecting primary")
  | n + 1, noeval => do
    let a ← arithAnd env n noeval
    if (← ArithM.peek) == .op "||" then do
      let _ ← ArithM.next
      let b ← arithOr env n (noeval || a != 0)
      pure (ofBool (a != 0 || b != 0))
    else pure a

def arithAnd (env : String → Option Bytes) : Nat → Bool → ArithM Int64
  | 0, _ => throw (.malformed "expecting primary")
  | n + 1, noeval => do
    let a ← arithBinary env n binaryLevels.length noeval
    if (← ArithM.peek) == .op "&&" then do
      let _ ← ArithM.next
      let b ← arithAnd env n (noeval || a == 0)
      pure (ofBool (a != 0 && b != 0))
    else pure a

def arithBinary (env : String → Option Bytes) : Nat → Nat → Bool → ArithM Int64
  | 0, _, _ => throw (.malformed "expecting primary")
  | n + 1, 0, noeval => arithPrimary env n noeval
  | n + 1, level + 1, noeval => do
    let a ← arithBinary env n level noeval
    arithBinaryRest env n level noeval a

def arithBinaryRest (env : String → Option Bytes) : Nat → Nat → Bool → Int64 → ArithM Int64
  | 0, _, _, _ => throw (.malformed "expecting primary")
  | n + 1, level, noeval, a => do
    match ← ArithM.peek with
    | .op o =>
      if (binaryLevels.getD level []).contains o then do
        let _ ← ArithM.next
        let b ← arithBinary env n level noeval
        let v ← if noeval then pure b else ArithM.ofExcept (applyBinary o a b)
        arithBinaryRest env n level noeval v
      else pure a
    | _ => pure a

def arithPrimary (env : String → Option Bytes) : Nat → Bool → ArithM Int64
  | 0, _ => throw (.malformed "expecting primary")
  | n + 1, noeval => do
    match ← ArithM.next with
    | .num v => pure v
    | .name v => if noeval then pure 0 else ArithM.lookup env v
    | .op "(" => do
      let v ← arithAssignment env n noeval
      if (← ArithM.next) != .op ")" then throw (.malformed "expecting ')'")
      pure v
    | .op "+" => arithPrimary env n noeval
    | .op "-" => do return -(← arithPrimary env n noeval)
    | .op "!" => do return ofBool ((← arithPrimary env n noeval) == 0)
    | .op "~" => do return ~~~(← arithPrimary env n noeval)
    | _ => throw (.malformed "expecting primary")

end

def evalArith (env : String → Option Bytes) (text : Bytes) :
    Except ArithError Int64 × List (String × Int64) :=
  let tokens := lexArith (text.length + 1) text
  let run : ArithM Int64 := do
    let v ← arithAssignment env (4 * tokens.length + 16) false
    if (← ArithM.peek) != .eof then throw (.malformed "expecting EOF")
    pure v
  let (result, r) := run.run.run { tokens := tokens }
  (result, r.assigned.reverse)

end LintBridge.Host.Shell
