import LintBridge.Host.Basic
/-!
# Shell scripts: syntax

Words as lists of pieces (text, escapes, quotes and expansions) and the commands of the shell
language, each compound command with its own redirections. Everything is bytes.
-/

namespace LintBridge.Host.Shell

/-- How a redirection opens its file. -/
inductive FileMode where
  /-- `<`: read. -/
  | read
  /-- `>`: write from the start; with `-C` the file must not exist yet. -/
  | write
  /-- `>|`: write from the start, whether the file exists or not. -/
  | clobber
  /-- `>>`: write at the end. -/
  | append
  /-- `<>`: read and write. -/
  | readWrite
  deriving DecidableEq, Repr

mutual

/-- A piece of a word as written. -/
inductive Piece where
  /-- Text as written: unquoted, or quoted when it stands inside double quotes. -/
  | lit (s : Bytes)
  /-- A byte escaped by a backslash. -/
  | esc (b : UInt8)
  /-- Text in single quotes. -/
  | single (s : Bytes)
  /-- Pieces in double quotes. -/
  | double (ps : List Piece)
  /-- A parameter expansion `$name` or `${name…}`. -/
  | param (name : String) (op : ParamOp)
  /-- A command substitution `$(…)` or `` `…` ``. -/
  | command (body : Command)
  /-- An arithmetic expansion `$((…))`. -/
  | arith (ps : List Piece)

/-- What a parameter expansion does with the value. `colon` makes an empty value count as
unset. -/
inductive ParamOp where
  /-- The value. -/
  | plain
  /-- `${#name}`: the length of the value. -/
  | length
  /-- `${name:-word}`: the word when unset. -/
  | useDefault (colon : Bool) (w : List Piece)
  /-- `${name:=word}`: the word, also assigned, when unset. -/
  | assignDefault (colon : Bool) (w : List Piece)
  /-- `${name:?word}`: an error when unset. -/
  | errorIfUnset (colon : Bool) (w : List Piece)
  /-- `${name:+word}`: the word when set. -/
  | useAlternative (colon : Bool) (w : List Piece)
  /-- `${name%word}` and `${name%%word}`: the value without its shortest or longest suffix
  matching the pattern. -/
  | removeSuffix (longest : Bool) (w : List Piece)
  /-- `${name#word}` and `${name##word}`: the value without a matching prefix. -/
  | removePrefix (longest : Bool) (w : List Piece)
  /-- A form the shell cannot expand, refused when expanded. -/
  | bad (w : List Piece)

/-- A redirection of a file descriptor. -/
inductive Redirect where
  /-- To or from a file. -/
  | file (fd : Nat) (mode : FileMode) (target : List Piece)
  /-- `>&word` and `<&word`: a copy of another descriptor, or `-` to close. -/
  | dup (fd : Nat) (input : Bool) (target : List Piece)
  /-- A here-document, by the number under which its body is kept while reading. -/
  | here (fd : Nat) (id : Nat)
  /-- A here-document with its body. -/
  | hereBody (fd : Nat) (body : List Piece)

/-- A command. -/
inductive Command where
  /-- Assignments, words and redirections, with the line the command is on. -/
  | simple (line : Nat) (assigns : List (String × List Piece)) (words : List (List Piece))
      (redirects : List Redirect)
  /-- Commands joined by `|`, the status negated after `!`. -/
  | pipeline (negate : Bool) (parts : List Command)
  /-- `a && b`. -/
  | andThen (a b : Command)
  /-- `a || b`. -/
  | orElse (a b : Command)
  /-- `a; b`. -/
  | sequence (a b : Command)
  /-- `a &`. -/
  | background (a : Command)
  /-- `( … )`. -/
  | subshell (body : Command) (redirects : List Redirect)
  /-- `{ … }`. -/
  | group (body : Command) (redirects : List Redirect)
  /-- `if … then … else … fi`; `elif` nests another `if` in the else part. -/
  | ifThen (cond body : Command) (otherwise : Option Command) (redirects : List Redirect)
  /-- `while … do … done`, or `until` when `untilDone` is set. -/
  | loop (untilDone : Bool) (cond body : Command) (redirects : List Redirect)
  /-- `for name in words; do … done`. -/
  | forIn (line : Nat) (name : String) (words : List (List Piece)) (body : Command)
      (redirects : List Redirect)
  /-- `case word in patterns) … ;; esac`. -/
  | caseOf (line : Nat) (word : List Piece) (arms : List CaseArm) (redirects : List Redirect)
  /-- `name() command`. -/
  | function (line : Nat) (name : String) (body : Command)
  /-- An empty list, as in `$()`. -/
  | nothing

/-- An arm of a `case`: its patterns and its commands. -/
inductive CaseArm where
  | arm (patterns : List (List Piece)) (body : Option Command)

end

def allParams : List Piece := [.double [.param "@" .plain]]

def isNameStart (b : UInt8) : Bool := (65 ≤ b && b ≤ 90) || (97 ≤ b && b ≤ 122) || b == 95

def isNameByte (b : UInt8) : Bool := isNameStart b || (48 ≤ b && b ≤ 57)

def isName (s : Bytes) : Bool :=
  match s with
  | b :: rest => isNameStart b && rest.all isNameByte
  | [] => false

def specialBuiltins : List String :=
  [".", ":", "break", "continue", "eval", "exec", "exit", "export", "readonly", "return", "set",
    "shift", "times", "trap", "unset", "local"]

def asciiText (s : Bytes) : String := String.ofList (s.map fun b => Char.ofNat b.toNat)

end LintBridge.Host.Shell
