import LintBridge.Text.Blank
import LintBridge.Linter.Error
/-!
# Linter commands

The configured command is a template of words split at Unicode blanks, with single quotes,
double quotes and backslashes as a shell reads them. The file to check is added as the last
argument, and no shell sees the result.
-/

namespace LintBridge

namespace Command

/-- Where the splitter stands: between or inside words, or inside quotes. -/
inductive Mode where
  | plain
  | single
  | double
  deriving DecidableEq, Repr

def joinPath (base rest : String) : String :=
  if rest.startsWith "/" then rest
  else if base.isEmpty || base.endsWith "/" then base ++ rest
  else base ++ "/" ++ rest

/-- Puts a word that starts with `~/` in the home directory, when there is one. -/
def expandHome (home : Option String) (w : String) : String :=
  match home with
  | some h => if w.startsWith "~/" then joinPath h (w.drop 2).toString else w
  | none => w

/-- The words so far with the current word added, if there is one; a quoted word is kept as
it is, another one is home-expanded. -/
def finish (home : Option String) (words : List String) (cur : Option (List Char))
    (quoted : Bool) : List String :=
  match cur with
  | some w =>
    let w := String.ofList w.reverse
    words ++ [if quoted then w else expandHome home w]
  | none => words

/-- Adds a character to the current word, which then exists. -/
def push (cur : Option (List Char)) (c : Char) : Option (List Char) := some (c :: cur.getD [])

/-- Splits the rest of a template. `cur` is the current word, last character first, and `quoted`
says whether it has a quoted part; `none` means an unclosed quote. -/
def splitFrom (home : Option String) (words : List String) (cur : Option (List Char))
    (quoted : Bool) : Mode → List Char → Option (List String)
  | .plain, [] => some (finish home words cur quoted)
  | .plain, c :: rest =>
    if Text.isBlank c then splitFrom home (finish home words cur quoted) none false .plain rest
    else if c = '\\' then
      match rest with
      | [] => some (finish home words (push cur '\\') quoted)
      | e :: rest => splitFrom home words (push cur e) quoted .plain rest
    else if c = '\'' then splitFrom home words (some (cur.getD [])) true .single rest
    else if c = '"' then splitFrom home words (some (cur.getD [])) true .double rest
    else splitFrom home words (push cur c) quoted .plain rest
  | .single, [] => none
  | .single, c :: rest =>
    if c = '\'' then splitFrom home words cur quoted .plain rest
    else splitFrom home words (push cur c) quoted .single rest
  | .double, [] => none
  | .double, c :: rest =>
    if c = '"' then splitFrom home words cur quoted .plain rest
    else if c = '\\' then
      match rest with
      | [] => none
      | e :: rest => splitFrom home words (push cur e) quoted .double rest
    else splitFrom home words (push cur c) quoted .double rest

/-- The words of a template, or `none` when a quote is never closed. -/
def words (home : Option String) (template : String) : Option (List String) :=
  splitFrom home [] none false .plain template.toList

end Command

/-- A linter invocation: `program args… target`. -/
structure Command where
  program : String
  args : List String
  target : String
  deriving DecidableEq, Repr

namespace Command

/-- The invocation of a template on a file. -/
def ofTemplate (home : Option String) (template target : String) : Except LinterError Command :=
  match words home template with
  | none => .error (.unbalancedQuote template)
  | some [] => .error .emptyCommand
  | some (p :: args) => .ok ⟨p, args, target⟩

end Command

end LintBridge
