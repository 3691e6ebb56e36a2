/-!
# Readers of text

A reader reads something and leaves the rest, or stops: softly, when what it looked for is not
here and another reader may try, or hard, when the text is wrong here. Loops take at most one
round more than the text has characters, so every reader is total.
-/

namespace LintBridge.Config.Toml

/-- What was expected at the place a reader stopped. -/
inductive Expected where
  | char (c : Char)
  | text (s : String)
  | description (s : String)
  deriving Repr, Inhabited

/-- A note a stop gathers on its way out. -/
inductive Note where
  | label (what : String)
  | expected (e : Expected)
  deriving Repr, Inhabited

/-- Why a reader stopped: its notes, innermost first, and its cause. -/
structure Failure where
  notes : List Note := []
  cause : Option String := none
  deriving Repr, Inhabited

/-- What a reader gives: a value and the text after it, or a soft or a hard stop with the text
as it was left. -/
inductive Step (α : Type) where
  | done (a : α) (rest : List Char)
  | soft (f : Failure) (rest : List Char)
  | hard (f : Failure) (rest : List Char)
  deriving Inhabited

/-- A reader of text. -/
def Reader (α : Type) := List Char → Step α

instance {α : Type} : Inhabited (Reader α) := ⟨fun cs => .soft {} cs⟩

namespace Reader

/-- Reads nothing and gives `a`. -/
def give {α : Type} (a : α) : Reader α := fun cs => .done a cs

/-- Reads with `r`, then with what `f` makes of its value. -/
def andThen {α β : Type} (r : Reader α) (f : α → Reader β) : Reader β := fun cs =>
  match r cs with
  | .done a rest => f a rest
  | .soft e rest => .soft e rest
  | .hard e rest => .hard e rest

instance : Monad Reader where
  pure := give
  bind := andThen

/-- Stops softly where it stands. -/
def fail {α : Type} : Reader α := fun cs => .soft {} cs

def note {α : Type} (n : Note) (r : Reader α) : Reader α := fun cs =>
  match r cs with
  | .soft e rest => .soft { e with notes := e.notes ++ [n] } rest
  | .hard e rest => .hard { e with notes := e.notes ++ [n] } rest
  | s => s

/-- Names what `r` reads, for its errors. -/
def label {α : Type} (what : String) (r : Reader α) : Reader α := note (.label what) r

/-- Says what was expected where `r` stopped. -/
def expect {α : Type} (e : Expected) (r : Reader α) : Reader α := note (.expected e) r

/-- Makes a soft stop of `r` hard: past this point the text is wrong. -/
def commit {α : Type} (r : Reader α) : Reader α := fun cs =>
  match r cs with
  | .soft e rest => .hard e rest
  | s => s

/-- Reads with `r` if it can; a soft stop reads nothing instead. -/
def optional {α : Type} (r : Reader α) : Reader (Option α) := fun cs =>
  match r cs with
  | .done a rest => .done (some a) rest
  | .soft _ _ => .done none cs
  | .hard e rest => .hard e rest

/-- Tries each reader from the same place; when all stop softly, the last one's stop is given,
where it left the text. -/
def first {α : Type} : List (Reader α) → Reader α
  | [] => fail
  | [r] => r
  | r :: rs => fun cs =>
    match r cs with
    | .soft _ _ => first rs cs
    | s => s

/-- Reads with `r` and puts the text back. -/
def peek {α : Type} (r : Reader α) : Reader α := fun cs =>
  match r cs with
  | .done a _ => .done a cs
  | .soft e _ => .soft e cs
  | .hard e _ => .hard e cs

def anyChar : Reader Char := fun cs =>
  match cs with
  | c :: rest => .done c rest
  | [] => .soft {} cs

def charIf (p : Char → Bool) : Reader Char := fun cs =>
  match cs with
  | c :: rest => if p c then .done c rest else .soft {} cs
  | [] => .soft {} cs

/-- The given character. -/
def char (c : Char) : Reader Char := charIf (· == c)

/-- The given characters. -/
def word (w : String) : Reader Unit := fun cs =>
  if w.toList.isPrefixOf cs then .done () (cs.drop w.length) else .soft {} cs

def atEnd : Reader Unit := fun cs =>
  match cs with
  | [] => .done () []
  | _ => .soft {} cs

/-- The longest run of characters that pass `p`, at most `most` of them; fewer than `least`
is a soft stop. -/
def takeWhile (least : Nat) (most : Option Nat) (p : Char → Bool) : Reader (List Char) := fun cs =>
  let run := cs.takeWhile p
  let run := match most with
    | some m => run.take m
    | none => run
  if run.length < least then .soft {} cs else .done run (cs.drop run.length)

def tryMap {α β : Type} (r : Reader α) (f : α → Except String β) : Reader β := fun cs =>
  match r cs with
  | .done a rest =>
    match f a with
    | .ok b => .done b rest
    | .error m => .soft { cause := some m } cs
  | .soft e rest => .soft e rest
  | .hard e rest => .hard e rest

def verify {α : Type} (r : Reader α) (p : α → Bool) : Reader α := fun cs =>
  match r cs with
  | .done a rest => if p a then .done a rest else .soft {} cs
  | s => s

def withText {α : Type} (r : Reader α) : Reader (α × List Char) := fun cs =>
  match r cs with
  | .done a rest => .done (a, cs.take (cs.length - rest.length)) rest
  | .soft e rest => .soft e rest
  | .hard e rest => .hard e rest

/-- The characters `r` reads. -/
def text {α : Type} (r : Reader α) : Reader (List Char) := fun cs =>
  match r cs with
  | .done _ rest => .done (cs.take (cs.length - rest.length)) rest
  | .soft e rest => .soft e rest
  | .hard e rest => .hard e rest

/-- The rounds of a loop: as many as `r` reads, `acc` holding the values so far, last first.
A soft stop ends the loop where the round began; so does a round that reads nothing. -/
def loop {α : Type} (r : Reader α) : Nat → List α → Reader (List α)
  | 0, acc => fun cs => .done acc.reverse cs
  | fuel + 1, acc => fun cs =>
    match r cs with
    | .done a rest =>
      if rest.length < cs.length then loop r fuel (a :: acc) rest else .done (a :: acc).reverse rest
    | .soft _ _ => .done acc.reverse cs
    | .hard e rest => .hard e rest

/-- Reads with `r` as often as it can, maybe never. -/
def many {α : Type} (r : Reader α) : Reader (List α) := fun cs => loop r (cs.length + 1) [] cs

def many1 {α : Type} (r : Reader α) : Reader (List α) := do
  let a ← r
  let as ← many r
  pure (a :: as)

def sepLoop {α β : Type} (r : Reader α) (sep : Reader β) : Nat → List α → Reader (List α)
  | 0, acc => fun cs => .done acc.reverse cs
  | fuel + 1, acc => fun cs =>
    match sep cs with
    | .done _ afterSep =>
      match r afterSep with
      | .done a rest =>
        if rest.length < cs.length then sepLoop r sep fuel (a :: acc) rest
        else .done (a :: acc).reverse rest
      | .soft _ _ => .done acc.reverse cs
      | .hard e rest => .hard e rest
    | .soft _ _ => .done acc.reverse cs
    | .hard e rest => .hard e rest

def sepBy1 {α β : Type} (r : Reader α) (sep : Reader β) : Reader (List α) := fun cs =>
  match r cs with
  | .done a rest => sepLoop r sep (rest.length + 1) [a] rest
  | .soft e rest => .soft e rest
  | .hard e rest => .hard e rest

def sepBy {α β : Type} (r : Reader α) (sep : Reader β) : Reader (List α) := fun cs =>
  match r cs with
  | .done a rest => sepLoop r sep (rest.length + 1) [a] rest
  | .soft _ _ => .done [] cs
  | .hard e rest => .hard e rest

end Reader

/-- An expected thing as the message shows it. -/
def Expected.show : Expected → String
  | .char '\n' => "newline"
  | .char '`' => "'`'"
  | .char c => "`" ++ String.singleton c ++ "`"
  | .text s => "`" ++ s ++ "`"
  | .description s => s

/-- The message of a stop: what was being read (the innermost label), what was expected, and
the cause, each on a line of its own. -/
def Failure.message (f : Failure) : String :=
  let label := f.notes.findSome? fun
    | .label what => some what
    | _ => none
  let expected := f.notes.filterMap fun
    | .expected e => some e.show
    | _ => none
  let parts := (label.map ("invalid " ++ ·)).toList ++
    (if expected.isEmpty then [] else ["expected " ++ ", ".intercalate expected]) ++ f.cause.toList
  "\n".intercalate parts

end LintBridge.Config.Toml
