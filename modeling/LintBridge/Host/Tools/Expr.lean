import LintBridge.Host.Help
import LintBridge.Host.Regex.Match
/-!
# expr

`expr` writes the value of an expression whose every token is an argument: `|`, `&`,
comparisons, integer arithmetic of any size, `:` with a basic regular expression, and the named
operations. The status is 0, 1 or 2 for a value, a null or zero value, and an error.
-/

namespace LintBridge.Host

open Regex

/-- A value of an expression: an integer, or text. -/
inductive ExprValue where
  | int (n : Int)
  | text (s : Bytes)

def intText (n : Int) : Bytes := bytes (toString n)

/-- The text of a value. -/
def ExprValue.toText : ExprValue → Bytes
  | .int n => intText n
  | .text s => s

def looksLikeInteger (s : Bytes) : Bool :=
  let digits := match s with
    | 45 :: more => more
    | _ => s
  !digits.isEmpty && digits.all fun b => 48 ≤ b && b ≤ 57

def textInteger (s : Bytes) : Option Int :=
  if looksLikeInteger s then
    let digits := match s with
      | 45 :: more => more
      | _ => s
    let v : Int := digits.foldl (fun n b => n * 10 + (b - 48).toNat) 0
    some (if s.head? == some 45 then -v else v)
  else none

def ExprValue.toInt? : ExprValue → Option Int
  | .int n => some n
  | .text s => textInteger s

/-- Whether a value is null: the integer 0, empty text, or text of zeros after an optional `-`. -/
def ExprValue.isNull : ExprValue → Bool
  | .int n => n == 0
  | .text s =>
    let body := match s with
      | 45 :: more => more
      | _ => s
    s.isEmpty || (!body.isEmpty && body.all (· == 48))

def compareBytes : Bytes → Bytes → Ordering
  | [], [] => .eq
  | [], _ :: _ => .lt
  | _ :: _, [] => .gt
  | a :: as, b :: bs => if a < b then .lt else if b < a then .gt else compareBytes as bs

/-- The arguments left to read, and the last one read (for messages). -/
structure ExprCursor where
  rest : List Bytes
  last : Bytes := []

abbrev ExprM := StateT ExprCursor (Except Bytes)

def acceptToken (token : String) : ExprM Bool := do
  let c ← get
  match c.rest with
  | a :: more =>
    if a == bytes token then
      set { c with rest := more, last := a }
      return true
    else return false
  | [] => return false

def requireMore : ExprM Unit := do
  let c ← get
  if c.rest.isEmpty then
    throw (bytes "syntax error: missing argument after " ++ messageQuote c.last)

def takeArgument : ExprM Bytes := do
  let c ← get
  match c.rest with
  | a :: more =>
    set { c with rest := more, last := a }
    return a
  | [] => throw (bytes "syntax error: missing argument after " ++ messageQuote c.last)

def matchAnchored (subject pattern : Bytes) : Except Bytes ExprValue :=
  match readPattern { emptyRanges := true } (glyphsOf pattern) with
  | .error e => .error (bytes e.message)
  | .ok (p, groups) =>
    let glyphs := glyphsOf subject
    let s : Subject := { glyphs := glyphs.toArray }
    match longestAt s true p 0 with
    | some (stop, caps) =>
      if 0 < groups then
        match caps.span? 1 with
        | some (a, b) => .ok (.text (bytesOfGlyphs ((glyphs.drop a).take (b - a))))
        | none => .ok (.text [])
      else .ok (.int stop)
    | none => .ok (if 0 < groups then .text [] else .int 0)

def indexOfAny (s chars : Bytes) : Nat :=
  let set := glyphsOf chars
  match (glyphsOf s).findIdx? (set.contains ·) with
  | some i => i + 1
  | none => 0

def sizeCeiling : Nat := 18446744073709551615

def countAsSize (n : Int) : Nat :=
  if n < 0 then sizeCeiling else if n.toNat < sizeCeiling then n.toNat else sizeCeiling - 1

def substrOf (s : Bytes) (pos len : Option Int) : Bytes :=
  let glyphs := glyphsOf s
  let size := glyphs.length
  match pos, len with
  | some p, some l =>
    let p := countAsSize p
    let l := countAsSize l
    if size < p || p == 0 || l == 0 || l == sizeCeiling then []
    else bytesOfGlyphs ((glyphs.drop (p - 1)).take (min l (size - p + 1)))
  | _, _ => []

/-- The value of two integers under an arithmetic operator, or why there is none. -/
def arithmetic (op : String) (l r : ExprValue) : Except Bytes ExprValue :=
  match l.toInt?, r.toInt? with
  | some a, some b =>
    if op == "+" then .ok (.int (a + b))
    else if op == "-" then .ok (.int (a - b))
    else if op == "*" then .ok (.int (a * b))
    else if b == 0 then .error (bytes "division by zero")
    else if op == "/" then .ok (.int (a.tdiv b))
    else .ok (.int (a.tmod b))
  | _, _ => .error (bytes "non-integer argument")

def compareValues (l r : ExprValue) : Ordering :=
  let a := l.toText
  let b := r.toText
  match textInteger a, textInteger b with
  | some x, some y => compare x y
  | _, _ => compareBytes a b

def comparisonHolds (op : String) (o : Ordering) : Bool :=
  match op with
  | "<" => o == .lt
  | "<=" => o != .gt
  | "=" | "==" => o == .eq
  | "!=" => o != .eq
  | ">=" => o != .lt
  | _ => o == .gt

def acceptAny : List String → ExprM (Option String)
  | [] => return none
  | op :: more => do
    if ← acceptToken op then return some op else acceptAny more

mutual

def readEither : Nat → Bool → ExprM ExprValue
  | 0, _ => throw (bytes "expression too deep")
  | fuel + 1, evaluate => do
    let l ← readBoth fuel evaluate
    eitherRest fuel evaluate l

def eitherRest : Nat → Bool → ExprValue → ExprM ExprValue
  | 0, _, l => return l
  | fuel + 1, evaluate, l => do
    if ← acceptToken "|" then
      let r ← readBoth fuel (evaluate && l.isNull)
      let v := if l.isNull then (if r.isNull then ExprValue.int 0 else r) else l
      eitherRest fuel evaluate v
    else return l

def readBoth : Nat → Bool → ExprM ExprValue
  | 0, _ => throw (bytes "expression too deep")
  | fuel + 1, evaluate => do
    let l ← readComparison fuel evaluate
    bothRest fuel evaluate l

def bothRest : Nat → Bool → ExprValue → ExprM ExprValue
  | 0, _, l => return l
  | fuel + 1, evaluate, l => do
    if ← acceptToken "&" then
      let r ← readComparison fuel (evaluate && !l.isNull)
      let v := if l.isNull || r.isNull then ExprValue.int 0 else l
      bothRest fuel evaluate v
    else return l

def readComparison : Nat → Bool → ExprM ExprValue
  | 0, _ => throw (bytes "expression too deep")
  | fuel + 1, evaluate => do
    let l ← readSum fuel evaluate
    comparisonRest fuel evaluate l

def comparisonRest : Nat → Bool → ExprValue → ExprM ExprValue
  | 0, _, l => return l
  | fuel + 1, evaluate, l => do
    match ← acceptAny ["<", "<=", "=", "==", "!=", ">=", ">"] with
    | some op =>
      let r ← readSum fuel evaluate
      let v := if evaluate then comparisonHolds op (compareValues l r) else false
      comparisonRest fuel evaluate (.int (if v then 1 else 0))
    | none => return l

def readSum : Nat → Bool → ExprM ExprValue
  | 0, _ => throw (bytes "expression too deep")
  | fuel + 1, evaluate => do
    let l ← readProduct fuel evaluate
    sumRest fuel evaluate l

def sumRest : Nat → Bool → ExprValue → ExprM ExprValue
  | 0, _, l => return l
  | fuel + 1, evaluate, l => do
    match ← acceptAny ["+", "-"] with
    | some op =>
      let r ← readProduct fuel evaluate
      let v ← if evaluate then liftM (m := Except Bytes) (arithmetic op l r) else pure l
      sumRest fuel evaluate v
    | none => return l

def readProduct : Nat → Bool → ExprM ExprValue
  | 0, _ => throw (bytes "expression too deep")
  | fuel + 1, evaluate => do
    let l ← readColon fuel evaluate
    productRest fuel evaluate l

def productRest : Nat → Bool → ExprValue → ExprM ExprValue
  | 0, _, l => return l
  | fuel + 1, evaluate, l => do
    match ← acceptAny ["*", "/", "%"] with
    | some op =>
      let r ← readColon fuel evaluate
      let v ← if evaluate then liftM (m := Except Bytes) (arithmetic op l r) else pure l
      productRest fuel evaluate v
    | none => return l

def readColon : Nat → Bool → ExprM ExprValue
  | 0, _ => throw (bytes "expression too deep")
  | fuel + 1, evaluate => do
    let l ← readKeyword fuel evaluate
    colonRest fuel evaluate l

def colonRest : Nat → Bool → ExprValue → ExprM ExprValue
  | 0, _, l => return l
  | fuel + 1, evaluate, l => do
    if ← acceptToken ":" then
      let r ← readKeyword fuel evaluate
      let v ← if evaluate then liftM (m := Except Bytes) (matchAnchored l.toText r.toText)
        else pure l
      colonRest fuel evaluate v
    else return l

def readKeyword : Nat → Bool → ExprM ExprValue
  | 0, _ => throw (bytes "expression too deep")
  | fuel + 1, evaluate => do
    if ← acceptToken "+" then
      requireMore
      return .text (← takeArgument)
    else if ← acceptToken "length" then
      let r ← readKeyword fuel evaluate
      return .int (glyphsOf r.toText).length
    else if ← acceptToken "match" then
      let l ← readKeyword fuel evaluate
      let r ← readKeyword fuel evaluate
      if evaluate then liftM (m := Except Bytes) (matchAnchored l.toText r.toText) else return l
    else if ← acceptToken "index" then
      let l ← readKeyword fuel evaluate
      let r ← readKeyword fuel evaluate
      return .int (indexOfAny l.toText r.toText)
    else if ← acceptToken "substr" then
      let l ← readKeyword fuel evaluate
      let p ← readKeyword fuel evaluate
      let n ← readKeyword fuel evaluate
      return .text (substrOf l.toText p.toInt? n.toInt?)
    else readPrimary fuel evaluate

def readPrimary : Nat → Bool → ExprM ExprValue
  | 0, _ => throw (bytes "expression too deep")
  | fuel + 1, evaluate => do
    requireMore
    if ← acceptToken "(" then
      let v ← readEither fuel evaluate
      let c ← get
      match c.rest with
      | [] => throw (bytes "syntax error: expecting ')' after " ++ messageQuote c.last)
      | a :: _ =>
        if ← acceptToken ")" then return v
        else throw (bytes "syntax error: expecting ')' instead of " ++ messageQuote a)
    else if ← acceptToken ")" then throw (bytes "syntax error: unexpected ')'")
    else return .text (← takeArgument)

end

def exprTool (argv0 : Bytes) (args : List Bytes) (fs : Files) : ToolRun :=
  let r : ToolRun := { files := fs }
  match r.answerLoneLong "expr" argv0 args with
  | some answered => answered
  | none =>
    let args := match args with
      | [45, 45] :: more => more
      | _ => args
    if args.isEmpty then r.usageWith 2 argv0 (bytes "missing operand")
    else
      let reading : ExprM ExprValue := do
        let v ← readEither (8 * args.length + 16) true
        let c ← get
        match c.rest with
        | [] => return v
        | a :: _ => throw (bytes "syntax error: unexpected argument " ++ messageQuote a)
      match reading.run { rest := args } with
      | .error msg => r.failWith 2 argv0 msg
      | .ok (v, _) => { (r.out (v.toText ++ [10])) with status := if v.isNull then 1 else 0 }

end LintBridge.Host
