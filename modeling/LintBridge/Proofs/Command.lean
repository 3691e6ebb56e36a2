import LintBridge.Linter.Command

/-!
# Splitting a command template

A `Template` is a writing of words in single quotes, double quotes or bare, each piece with the
proof that it is of its kind. The splitter gives back the words of every template, and reports a
quote left open after one with the whole template.
-/

open LintBridge.Text

namespace LintBridge.Command

/-! ## Written templates -/

/-- How a word is written in a template. -/
inductive Quoting where
  | single
  | double
  | bare
  deriving DecidableEq, Repr

/-- The inside of single quotes: a single quote closes them, is written escaped, and opens
them again. -/
def singleBody (w : List Char) : List Char :=
  w.flatMap fun c => if c = '\'' then ['\'', '\\', '\'', '\''] else [c]

/-- The inside of double quotes: a double quote and a backslash follow a backslash. -/
def doubleBody (w : List Char) : List Char :=
  w.flatMap fun c => if c = '"' ∨ c = '\\' then ['\\', c] else [c]

namespace Quoting

/-- Whether the word is written in quotes. -/
def isQuoted : Quoting → Bool
  | .bare => false
  | _ => true

/-- The text of a word written this way. -/
def write : Quoting → List Char → List Char
  | .single, w => '\'' :: singleBody w ++ ['\'']
  | .double, w => '"' :: doubleBody w ++ ['"']
  | .bare, w => w

end Quoting

/-- A character with no meaning to the splitter: no blank, quote or backslash. -/
def Ordinary (c : Char) : Prop := isBlank c = false ∧ c ≠ '\'' ∧ c ≠ '"' ∧ c ≠ '\\'

/-- A word that may stand bare: not empty, and of ordinary characters. -/
def Bare (w : List Char) : Prop := w ≠ [] ∧ ∀ c ∈ w, Ordinary c

instance : DecidablePred Ordinary := fun _ => inferInstanceAs (Decidable (_ ∧ _ ∧ _ ∧ _))

/-- Decided a character at a time; with Batteries in scope a bare `∀ c ∈ w` would otherwise be
decided over every character. -/
instance : DecidablePred Bare := fun w =>
  have := List.decidableBAll Ordinary w
  inferInstanceAs (Decidable (_ ∧ ∀ c ∈ w, Ordinary c))

/-- A word of a template and how it is written. -/
structure Written where
  word : List Char
  quoting : Quoting
  bare_ok : quoting = .bare → Bare word

namespace Written

/-- The text of the word in the template. -/
def text (x : Written) : List Char := x.quoting.write x.word

/-- The word the template stands for: a quoted word as it is, a bare one home-expanded. -/
def result (home : Option String) (x : Written) : String :=
  if x.quoting.isQuoted then String.ofList x.word else expandHome home (String.ofList x.word)

end Written

/-- A run of blanks between two words. -/
structure Gap where
  chars : List Char
  ne_nil : chars ≠ []
  blank : ∀ c ∈ chars, isBlank c = true

/-- A template written from its words: blanks, the first word, every further word after a
gap, and blanks. -/
structure Template where
  lead : List Char
  first : Written
  rest : List (Gap × Written)
  trail : List Char
  lead_blank : ∀ c ∈ lead, isBlank c = true
  trail_blank : ∀ c ∈ trail, isBlank c = true

/-- The text of the template. -/
def Template.text (t : Template) : List Char :=
  t.lead ++ t.first.text ++ (t.rest.flatMap fun p => p.1.chars ++ p.2.text) ++ t.trail

/-- The words a template stands for. -/
def Template.results (home : Option String) (t : Template) : List String :=
  (t.first :: t.rest.map Prod.snd).map (Written.result home)

/-! ## One step at a time

The splitter between words has no current word and no quoted part. A run of blanks ends the
current word, and a word written in the template is read into the current word.
-/

section Steps

variable {home : Option String} {ws : List String} {cur : Option (List Char)} {q : Bool}

theorem splitFrom_plain_blank {c : Char} (hc : isBlank c = true) (s : List Char) :
    splitFrom home ws cur q .plain (c :: s) =
      splitFrom home (finish home ws cur q) none false .plain s := by
  cases s with
  | nil => rw [splitFrom.eq_2, if_pos hc]
  | cons e s => rw [splitFrom.eq_3, if_pos hc]

theorem splitFrom_plain_ordinary {c : Char} (hc : Ordinary c) (s : List Char) :
    splitFrom home ws cur q .plain (c :: s) = splitFrom home ws (push cur c) q .plain s := by
  obtain ⟨hb, hq, hd, hbs⟩ := hc
  have hb' : ¬isBlank c = true := by simp [hb]
  cases s with
  | nil => rw [splitFrom.eq_2, if_neg hb', if_neg hbs, if_neg hq, if_neg hd]
  | cons e s => rw [splitFrom.eq_3, if_neg hb', if_neg hbs, if_neg hq, if_neg hd]

theorem splitFrom_plain_backslash (e : Char) (s : List Char) :
    splitFrom home ws cur q .plain ('\\' :: e :: s) =
      splitFrom home ws (push cur e) q .plain s := by
  rw [splitFrom.eq_3, if_neg (by decide), if_pos rfl]

theorem splitFrom_plain_single (s : List Char) :
    splitFrom home ws cur q .plain ('\'' :: s) =
      splitFrom home ws (some (cur.getD [])) true .single s := by
  cases s <;> rfl

theorem splitFrom_plain_double (s : List Char) :
    splitFrom home ws cur q .plain ('"' :: s) =
      splitFrom home ws (some (cur.getD [])) true .double s := by
  cases s <;> rfl

theorem splitFrom_single_quote (s : List Char) :
    splitFrom home ws cur q .single ('\'' :: s) = splitFrom home ws cur q .plain s := by
  rw [splitFrom.eq_5, if_pos rfl]

theorem splitFrom_single_other {c : Char} (hc : c ≠ '\'') (s : List Char) :
    splitFrom home ws cur q .single (c :: s) = splitFrom home ws (push cur c) q .single s := by
  rw [splitFrom.eq_5, if_neg hc]

theorem splitFrom_double_quote (s : List Char) :
    splitFrom home ws cur q .double ('"' :: s) = splitFrom home ws cur q .plain s := by
  cases s with
  | nil => rw [splitFrom.eq_7, if_pos rfl]
  | cons e s => rw [splitFrom.eq_8, if_pos rfl]

theorem splitFrom_double_backslash (e : Char) (s : List Char) :
    splitFrom home ws cur q .double ('\\' :: e :: s) =
      splitFrom home ws (push cur e) q .double s := by
  rw [splitFrom.eq_8, if_neg (by decide), if_pos rfl]

theorem splitFrom_double_ordinary {c : Char} (hq : c ≠ '"') (hbs : c ≠ '\\') (s : List Char) :
    splitFrom home ws cur q .double (c :: s) = splitFrom home ws (push cur c) q .double s := by
  cases s with
  | nil => rw [splitFrom.eq_7, if_neg hq, if_neg hbs]
  | cons e s => rw [splitFrom.eq_8, if_neg hq, if_neg hbs]

theorem splitFrom_blanks_append {b : List Char} (hb : ∀ c ∈ b, isBlank c = true)
    (s : List Char) :
    splitFrom home ws none false .plain (b ++ s) = splitFrom home ws none false .plain s := by
  induction b with
  | nil => rfl
  | cons c b ih =>
    rw [List.cons_append, splitFrom_plain_blank (hb c List.mem_cons_self)]
    exact ih fun c hc => hb c (List.mem_cons_of_mem _ hc)

theorem splitFrom_gap_append {b : List Char} (hne : b ≠ []) (hb : ∀ c ∈ b, isBlank c = true)
    (s : List Char) :
    splitFrom home ws cur q .plain (b ++ s) =
      splitFrom home (finish home ws cur q) none false .plain s := by
  obtain ⟨c, b, rfl⟩ := List.exists_cons_of_ne_nil hne
  rw [List.cons_append, splitFrom_plain_blank (hb c List.mem_cons_self)]
  exact splitFrom_blanks_append (fun c hc => hb c (List.mem_cons_of_mem _ hc)) s

theorem splitFrom_end_word {s : List Char} (hs : ∀ c ∈ s.head?, isBlank c = true) :
    splitFrom home ws cur q .plain s =
      splitFrom home (finish home ws cur q) none false .plain s := by
  cases s with
  | nil => rfl
  | cons c s =>
    have hc : isBlank c = true := hs c rfl
    rw [splitFrom_plain_blank hc, splitFrom_plain_blank hc]
    rfl

theorem splitFrom_ordinary_append {w : List Char} (hw : ∀ c ∈ w, Ordinary c)
    (acc : List Char) (s : List Char) :
    splitFrom home ws (some acc) q .plain (w ++ s) =
      splitFrom home ws (some (w.reverse ++ acc)) q .plain s := by
  induction w generalizing acc with
  | nil => rfl
  | cons c w ih =>
    rw [List.cons_append, splitFrom_plain_ordinary (hw c List.mem_cons_self), push,
      Option.getD_some, ih (fun c hc => hw c (List.mem_cons_of_mem _ hc))]
    simp

theorem splitFrom_singleBody (w acc : List Char) (s : List Char) :
    splitFrom home ws (some acc) true .single (singleBody w ++ '\'' :: s) =
      splitFrom home ws (some (w.reverse ++ acc)) true .plain s := by
  induction w generalizing acc with
  | nil => rw [singleBody, List.flatMap_nil, List.nil_append, splitFrom_single_quote]; rfl
  | cons c w ih =>
    rw [singleBody, List.flatMap_cons, ← singleBody]
    by_cases hc : c = '\''
    · -- The quote is written as a closing quote, an escaped quote and an opening quote.
      subst hc
      rw [if_pos rfl]
      simp only [List.cons_append, List.nil_append]
      rw [splitFrom_single_quote, splitFrom_plain_backslash, splitFrom_plain_single, push,
        Option.getD_some, Option.getD_some, ih]
      simp
    · rw [if_neg hc, List.singleton_append, List.cons_append, splitFrom_single_other hc, push,
        Option.getD_some, ih]
      simp

theorem splitFrom_doubleBody (w acc : List Char) (s : List Char) :
    splitFrom home ws (some acc) q .double (doubleBody w ++ '"' :: s) =
      splitFrom home ws (some (w.reverse ++ acc)) q .plain s := by
  induction w generalizing acc with
  | nil => rw [doubleBody, List.flatMap_nil, List.nil_append, splitFrom_double_quote]; rfl
  | cons c w ih =>
    rw [doubleBody, List.flatMap_cons, ← doubleBody]
    by_cases hc : c = '"' ∨ c = '\\'
    · -- A double quote or a backslash follows a backslash.
      rw [if_pos hc]
      simp only [List.cons_append, List.nil_append]
      rw [splitFrom_double_backslash, push, Option.getD_some, ih]
      simp
    · rw [if_neg hc, List.singleton_append, List.cons_append,
        splitFrom_double_ordinary (fun h => hc (.inl h)) (fun h => hc (.inr h)), push,
        Option.getD_some, ih]
      simp

theorem splitFrom_written_append (x : Written) (s : List Char) :
    splitFrom home ws none false .plain (x.text ++ s) =
      splitFrom home ws (some x.word.reverse) x.quoting.isQuoted .plain s := by
  obtain ⟨w, quoting, hbare⟩ := x
  cases quoting with
  | single =>
    simp only [Written.text, Quoting.write, List.cons_append, List.append_assoc]
    rw [splitFrom_plain_single, Option.getD_none, List.nil_append, splitFrom_singleBody,
      List.append_nil]
    rfl
  | double =>
    simp only [Written.text, Quoting.write, List.cons_append, List.append_assoc]
    rw [splitFrom_plain_double, Option.getD_none, List.nil_append, splitFrom_doubleBody,
      List.append_nil]
    rfl
  | bare =>
    obtain ⟨hne, hw⟩ := hbare rfl
    obtain ⟨c, w, rfl⟩ := List.exists_cons_of_ne_nil hne
    simp only [Written.text, Quoting.write, List.cons_append]
    rw [splitFrom_plain_ordinary (hw c List.mem_cons_self), push, Option.getD_none,
      splitFrom_ordinary_append (fun c hc => hw c (List.mem_cons_of_mem _ hc))]
    simp
    rfl

theorem finish_written (x : Written) :
    finish home ws (some x.word.reverse) x.quoting.isQuoted = ws ++ [x.result home] := by
  simp only [finish, List.reverse_reverse, Written.result]

theorem splitFrom_single_unclosed {s : List Char} (hs : '\'' ∉ s) :
    splitFrom home ws cur q .single s = none := by
  induction s generalizing cur with
  | nil => rfl
  | cons c s ih =>
    rw [splitFrom_single_other (List.ne_of_not_mem_cons hs).symm,
      ih (List.not_mem_of_not_mem_cons hs)]

theorem splitFrom_double_unclosed (cur : Option (List Char)) (s : List Char) (hs : '"' ∉ s) :
    splitFrom home ws cur q .double s = none := by
  match s with
  | [] => rfl
  | c :: s =>
    have hc : c ≠ '"' := (List.ne_of_not_mem_cons hs).symm
    have htail : '"' ∉ s := List.not_mem_of_not_mem_cons hs
    by_cases hbs : c = '\\'
    · -- A backslash takes the next character, if there is one, along with it.
      subst hbs
      cases s with
      | nil => rfl
      | cons e s =>
        rw [splitFrom_double_backslash,
          splitFrom_double_unclosed _ s (List.not_mem_of_not_mem_cons htail)]
    · rw [splitFrom_double_ordinary hc hbs, splitFrom_double_unclosed _ s htail]

end Steps

/-! ## Whole templates -/

section Templates

variable {home : Option String}

theorem splitFrom_words_append (x : Written) (rest : List (Gap × Written)) (ws : List String)
    {s : List Char} (hs : ∀ c ∈ s.head?, isBlank c = true) :
    splitFrom home ws none false .plain
        (x.text ++ ((rest.flatMap fun p => p.1.chars ++ p.2.text) ++ s)) =
      splitFrom home (ws ++ (x :: rest.map Prod.snd).map (Written.result home)) none false
        .plain s := by
  induction rest generalizing ws x with
  | nil =>
    rw [List.flatMap_nil, List.nil_append, splitFrom_written_append, splitFrom_end_word hs,
      finish_written]
    rfl
  | cons p rest ih =>
    obtain ⟨g, y⟩ := p
    simp only [List.flatMap_cons, List.append_assoc]
    rw [splitFrom_written_append, splitFrom_gap_append g.ne_nil g.blank, finish_written, ih]
    simp

theorem splitFrom_template_append (t : Template) (ws : List String) {s : List Char}
    (hs : ∀ c ∈ s.head?, isBlank c = true) :
    splitFrom home ws none false .plain (t.text ++ s) =
      splitFrom home (ws ++ t.results home) none false .plain s := by
  -- Trailing blanks keep a blank or the end after the last word.
  have htrail : ∀ c ∈ (t.trail ++ s).head?, isBlank c = true := by
    cases htr : t.trail with
    | nil => simpa using hs
    | cons c cs =>
      simp only [List.cons_append, List.head?_cons, Option.mem_def, Option.some.injEq]
      rintro _ rfl
      exact t.trail_blank c (by rw [htr]; exact List.mem_cons_self)
  simp only [Template.text, List.append_assoc]
  rw [splitFrom_blanks_append t.lead_blank, splitFrom_words_append _ _ _ htrail,
    splitFrom_blanks_append t.trail_blank]
  rfl

theorem splitFrom_open_quote {ws : List String} {c qc : Char} {rest : List Char}
    (hc : isBlank c = true) (hq : qc = '\'' ∨ qc = '"') (hrest : qc ∉ rest) :
    splitFrom home ws none false .plain (c :: qc :: rest) = none := by
  rw [splitFrom_plain_blank hc]
  rcases hq with rfl | rfl
  · rw [splitFrom_plain_single, splitFrom_single_unclosed hrest]
  · rw [splitFrom_plain_double, splitFrom_double_unclosed _ _ hrest]

theorem words_template (t : Template) :
    words home (String.ofList t.text) = some (t.results home) := by
  rw [words, String.toList_ofList, ← List.append_nil t.text,
    splitFrom_template_append t [] (by simp)]
  rfl

theorem words_blanks {b : List Char} (hb : ∀ c ∈ b, isBlank c = true) :
    words home (String.ofList b) = some [] := by
  rw [words, String.toList_ofList, ← List.append_nil b, splitFrom_blanks_append hb]
  rfl

theorem words_open_quote {T : List Char}
    (hT : (∀ c ∈ T, isBlank c = true) ∨ ∃ t : Template, t.text = T) {c qc : Char}
    {rest : List Char} (hc : isBlank c = true) (hq : qc = '\'' ∨ qc = '"') (hrest : qc ∉ rest) :
    words home (String.ofList (T ++ c :: qc :: rest)) = none := by
  rw [words, String.toList_ofList]
  rcases hT with hb | ⟨t, rfl⟩
  · rw [splitFrom_blanks_append hb, splitFrom_open_quote hc hq hrest]
  · rw [splitFrom_template_append t [] (by simpa using hc), splitFrom_open_quote hc hq hrest]

/-- The command of a template written from words: the first word is the program, the others are
its arguments, each as written in quotes or, bare, started in the home directory. A template of
blanks only names no program, and a quote opened after such a template, or after a blank that
follows a whole template, and never closed is reported with the whole template. -/
theorem ofTemplate_written (home : Option String) (target : String) :
    (∀ t : Template, ofTemplate home (String.ofList t.text) target =
        .ok ⟨t.first.result home, t.rest.map (·.2.result home), target⟩) ∧
    (∀ b : List Char, (∀ c ∈ b, isBlank c = true) →
        ofTemplate home (String.ofList b) target = .error .emptyCommand) ∧
    (∀ T : List Char, ((∀ c ∈ T, isBlank c = true) ∨ ∃ t : Template, t.text = T) →
      ∀ c qc rest, isBlank c = true → (qc = '\'' ∨ qc = '"') → qc ∉ rest →
        ofTemplate home (String.ofList (T ++ c :: qc :: rest)) target =
          .error (.unbalancedQuote (String.ofList (T ++ c :: qc :: rest)))) := by
  refine ⟨fun t => ?_, fun b hb => ?_, fun T hT c qc rest hc hq hrest => ?_⟩
  · rw [ofTemplate, words_template, Template.results, List.map_cons, List.map_map]
    rfl
  · rw [ofTemplate, words_blanks hb]
  · rw [ofTemplate, words_open_quote hT hc hq hrest]

/-- Blanks only name no program, and a double quote left open after the bare word `a` is
reported with the template. -/
theorem ofTemplate_blanks_or_open_quote :
    ofTemplate (some "/home/u") "  " "t.c" = .error .emptyCommand ∧
      ofTemplate (some "/home/u") "a \"x" "t.c" = .error (.unbalancedQuote "a \"x") := by
  obtain ⟨-, hblank, hopen⟩ := ofTemplate_written (some "/home/u") "t.c"
  let t : Template := ⟨[], ⟨['a'], .bare, fun _ => by decide⟩, [], [], by simp, by simp⟩
  exact ⟨hblank [' ', ' '] (List.all_eq_true.mp (by decide)),
    hopen ['a'] (.inr ⟨t, rfl⟩) ' ' '"' ['x'] (by decide) (.inr rfl) (by decide)⟩

end Templates

end LintBridge.Command
