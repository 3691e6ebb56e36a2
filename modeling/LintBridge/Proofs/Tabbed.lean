import LintBridge.Report.Tabbed
import LintBridge.Proofs.Report

/-!
# The grammar of a tabbed line

`Parts` is one way of writing a tabbed line, each piece with the proof that it is of its kind.
The reader accepts exactly the texts of `Parts` and gives the finding the parts determine.
-/

open LintBridge.Text

namespace LintBridge.Report.Tabbed

/-! ## The grammar -/

/-- A run of capital letters, at least one. -/
def Capitals (g : List Char) : Prop := g ≠ [] ∧ ∀ c ∈ g, isCapital c = true

/-- `[A-Z]+(_[A-Z]+)*`: groups of capitals joined by single underscores. -/
inductive Identifier : List Char → Prop
  | group {g : List Char} : Capitals g → Identifier g
  | join {g rest : List Char} : Capitals g → Identifier rest → Identifier (g ++ '_' :: rest)

/-- What a tabbed line starts with: a tab, or `Error:` and any blanks. -/
def Marker (m : List Char) : Prop :=
  m = ['\t'] ∨ ∃ b, m = "Error:".toList ++ b ∧ ∀ c ∈ b, isBlank c = true

/-- A tabbed line cut into its pieces. -/
structure Parts where
  marker : List Char
  ident : List Char
  gap : List Char
  lineGap : List Char
  lineDigits : List Char
  commaGap : List Char
  colGap : List Char
  colDigits : List Char
  pad : List Char
  message : List Char
  marker_ok : Marker marker
  ident_ok : Identifier ident
  gap_ne_nil : gap ≠ []
  gap_blank : ∀ c ∈ gap, isBlank c = true
  lineGap_blank : ∀ c ∈ lineGap, isBlank c = true
  lineDigits_ok : IsDigits lineDigits
  commaGap_blank : ∀ c ∈ commaGap, isBlank c = true
  colGap_blank : ∀ c ∈ colGap, isBlank c = true
  colDigits_ok : IsDigits colDigits
  pad_ok : ∀ c ∈ pad, c = '\t' ∨ c = ' '
  message_ok : '\n' ∉ message

namespace Parts

/-- The line the parts make. -/
def text (p : Parts) : List Char :=
  p.marker ++ p.ident ++ p.gap ++ "(line:".toList ++ p.lineGap ++ p.lineDigits ++ ",".toList ++
    p.commaGap ++ "col:".toList ++ p.colGap ++ p.colDigits ++ "):".toList ++ p.pad ++ p.message

/-- The finding the parts determine: the identifier, the zero-based line of the line number,
the column when it fits in 32 bits, and the message normalised. -/
def finding (p : Parts) : Finding where
  identifier := String.ofList p.ident
  line := Finding.lineOfNumber (decimalValue p.lineDigits)
  column := Finding.columnOfNumber (decimalValue p.colDigits)
  message := String.ofList (Finding.normalizeMessage p.message)

end Parts

/-! ## Identifiers -/

theorem Identifier.cons {c : Char} {cs : List Char} (hc : isCapital c = true)
    (h : Identifier cs) : Identifier (c :: cs) := by
  cases h with
  | group hg =>
    exact .group ⟨List.cons_ne_nil c _, by simpa [hc] using hg.2⟩
  | join hg hrest =>
    exact .join (g := c :: _) ⟨List.cons_ne_nil c _, by simpa [hc] using hg.2⟩ hrest

theorem identifier_cons_iff (c : Char) (t : List Char) :
    Identifier (c :: t) ↔
      isCapital c = true ∧ (t = [] ∨ Identifier t ∨ ∃ r, t = '_' :: r ∧ Identifier r) := by
  constructor
  · intro h
    generalize he : c :: t = l at h
    cases h with
    | group hg =>
      subst he
      refine ⟨hg.2 c List.mem_cons_self, ?_⟩
      rcases t with _ | ⟨d, t⟩
      · exact .inl rfl
      · exact .inr (.inl (.group
          ⟨List.cons_ne_nil d t, fun x hx => hg.2 x (List.mem_cons_of_mem c hx)⟩))
    | @join g rest hg hrest =>
      obtain ⟨g0, g', rfl⟩ := List.exists_cons_of_ne_nil hg.1
      simp only [List.cons_append, List.cons.injEq] at he
      obtain ⟨rfl, rfl⟩ := he
      refine ⟨hg.2 c List.mem_cons_self, .inr ?_⟩
      rcases g' with _ | ⟨d, g'⟩
      · exact .inr ⟨rest, rfl, hrest⟩
      · exact .inl (.join
          ⟨List.cons_ne_nil d g', fun x hx => hg.2 x (List.mem_cons_of_mem c hx)⟩ hrest)
  · rintro ⟨hc, rfl | ht | ⟨r, rfl, hr⟩⟩
    · exact .group ⟨List.cons_ne_nil c [], by simp [hc]⟩
    · exact ht.cons hc
    · exact .join (g := [c]) ⟨List.cons_ne_nil c [], by simp [hc]⟩ hr

theorem not_identifier_nil : ¬ Identifier [] := by
  intro h
  generalize he : ([] : List Char) = l at h
  cases h with
  | group hg => exact hg.1 he.symm
  | join _ _ => simp at he

theorem Identifier.ne_nil {ident : List Char} (h : Identifier ident) : ident ≠ [] := by
  rintro rfl
  exact not_identifier_nil h

theorem ne_underscore_of_isCapital {c : Char} (h : isCapital c = true) : c ≠ '_' := by
  rintro rfl; simp [isCapital] at h

theorem isIdentifier_cons_iff (c : Char) (t : List Char) :
    isIdentifier (c :: t) = true ↔ isCapital c = true ∧
      (t = [] ∨ isIdentifier t = true ∨ ∃ r, t = '_' :: r ∧ isIdentifier r = true) := by
  have hu : isCapital '_' = false := rfl
  have hc := @ne_underscore_of_isCapital c
  rcases t with _ | ⟨d, _ | ⟨e, t⟩⟩
  · simp +contextual [isIdentifier, isIdentChar]
  · -- Two characters: an underscore cannot end an identifier.
    have hd := @ne_underscore_of_isCapital d
    by_cases hdu : d = '_' <;> simp_all [isIdentifier, isIdentChar]
  · -- An underscore in second place starts a new group at `e`.
    have hd := @ne_underscore_of_isCapital d
    have he := @ne_underscore_of_isCapital e
    by_cases hdu : d = '_'
    · subst hdu
      simp_all [isIdentifier, isIdentChar]
      tauto
    · simp [isIdentifier, isIdentChar, hdu]
      tauto

theorem isIdentifier_iff (cs : List Char) : isIdentifier cs = true ↔ Identifier cs := by
  match cs with
  | [] => simp [isIdentifier, not_identifier_nil]
  | c :: t =>
    -- The two readings agree clause by clause; the last clause is on a shorter text.
    rw [isIdentifier_cons_iff, identifier_cons_iff, isIdentifier_iff t]
    refine and_congr_right fun _ => or_congr_right (or_congr_right
      (exists_congr fun r => and_congr_right fun ht => ?_))
    subst ht
    exact isIdentifier_iff r
termination_by cs.length

theorem Identifier.identChars {ident : List Char} (h : Identifier ident) :
    ∀ c ∈ ident, isIdentChar c = true := by
  have h' := (isIdentifier_iff ident).mpr h
  simp only [isIdentifier, Bool.and_eq_true, List.all_eq_true] at h'
  exact h'.1.1.1

theorem not_blank_of_identChar {c : Char} (h : isIdentChar c = true) : isBlank c = false := by
  simp only [isIdentChar, isCapital, Bool.or_eq_true, Bool.and_eq_true, decide_eq_true_eq,
    beq_iff_eq] at h
  rcases h with ⟨hA, hZ⟩ | rfl
  · have hA' : 65 ≤ c.toNat := hA
    have hZ' : c.toNat ≤ 90 := hZ
    simp only [isBlank, Bool.or_eq_false_iff, Bool.and_eq_false_iff, beq_eq_false_iff_ne,
      decide_eq_false_iff_not]
    omega
  · rfl

/-! ## The pieces of the reader -/

theorem expect_append (lit rest : List Char) : expect lit (lit ++ rest) = some rest := by
  simp [expect]

theorem eq_append_of_expect {lit cs rest : List Char} (h : expect lit cs = some rest) :
    cs = lit ++ rest := by
  unfold expect at h
  split at h
  · obtain rfl := Option.some.inj h
    obtain ⟨t, rfl⟩ := (List.isPrefixOf_iff_prefix.mp ‹_›)
    simp
  · cases h

theorem readMarker_append {m rest : List Char} (hm : Marker m) (hr : dropBlanks rest = rest) :
    readMarker (m ++ rest) = some rest := by
  rcases hm with rfl | ⟨b, rfl, hb⟩
  · rfl
  · rw [List.append_assoc]
    show Option.map dropBlanks (expect "Error:".toList ("Error:".toList ++ (b ++ rest))) = _
    rw [expect_append, Option.map_some, dropBlanks_blanks_append hb, hr]

theorem exists_marker_of_readMarker {l rest : List Char} (h : readMarker l = some rest) :
    ∃ m, Marker m ∧ l = m ++ rest := by
  unfold readMarker at h
  split at h
  · obtain rfl := Option.some.inj h
    exact ⟨['\t'], .inl rfl, rfl⟩
  · -- Any other first character: the line must start with `Error:`.
    obtain ⟨cs, hcs, rfl⟩ := Option.map_eq_some_iff.mp h
    refine ⟨"Error:".toList ++ cs.takeWhile isBlank, .inr ⟨_, rfl, blanks_takeWhile cs⟩, ?_⟩
    rw [eq_append_of_expect hcs, List.append_assoc, takeWhile_blank_append_dropBlanks]

theorem readIdentifier_append {ident cs : List Char} {c : Char} (hi : Identifier ident)
    (hc : isBlank c = true) : readIdentifier (ident ++ c :: cs) = some (ident, c :: cs) := by
  have hall := hi.identChars
  have hstop : ¬ isIdentChar c = true := fun h => by simp [not_blank_of_identChar h] at hc
  have htake : (ident ++ c :: cs).takeWhile isIdentChar = ident := by
    rw [List.takeWhile_append_of_pos hall, List.takeWhile_cons_of_neg hstop, List.append_nil]
  have hdrop : (ident ++ c :: cs).dropWhile isIdentChar = c :: cs := by
    rw [List.dropWhile_append_of_pos hall, List.dropWhile_cons_of_neg hstop]
  simp [readIdentifier, htake, hdrop, (isIdentifier_iff ident).mpr hi, hc]

theorem eq_append_of_readIdentifier {cs ident rest : List Char}
    (h : readIdentifier cs = some (ident, rest)) :
    Identifier ident ∧ cs = ident ++ rest ∧ ∃ c r, rest = c :: r ∧ isBlank c = true := by
  unfold readIdentifier at h
  dsimp only at h
  split at h
  · rename_i c r hr
    simp only [Bool.and_eq_true, Option.ite_none_right_eq_some, Option.some.injEq,
      Prod.mk.injEq] at h
    obtain ⟨⟨hid, hc⟩, rfl, rfl⟩ := h
    exact ⟨(isIdentifier_iff _).mp hid, (List.takeWhile_append_dropWhile).symm, c, r, hr, hc⟩
  · cases h

theorem readNumber_append {ds rest : List Char} (hd : IsDigits ds)
    (hr : rest.takeWhile isDigit = []) : readNumber (ds ++ rest) = some (ds, rest) := by
  have htake : (ds ++ rest).takeWhile isDigit = ds := by
    rw [List.takeWhile_append_of_pos hd.2, hr, List.append_nil]
  have hdrop : (ds ++ rest).dropWhile isDigit = rest := by
    rw [List.dropWhile_append_of_pos hd.2]
    simpa [hr] using List.takeWhile_append_dropWhile (p := isDigit) (l := rest)
  simp [readNumber, htake, hdrop, hd.1]

theorem eq_append_of_readNumber {cs ds rest : List Char} (h : readNumber cs = some (ds, rest)) :
    IsDigits ds ∧ cs = ds ++ rest := by
  unfold readNumber at h
  dsimp only at h
  split at h
  · cases h
  · rename_i hne
    obtain ⟨rfl, rfl⟩ := Prod.mk.inj (Option.some.inj h)
    refine ⟨⟨fun h0 => hne (by rw [h0]; rfl), fun _ hc => List.mem_takeWhile_imp hc⟩, ?_⟩
    exact (List.takeWhile_append_dropWhile).symm

/-! ## Reading the parts back -/

theorem readMarker_append_identifier {m ident : List Char} (hm : Marker m)
    (hi : Identifier ident) (rest : List Char) :
    readMarker (m ++ (ident ++ rest)) = some (ident ++ rest) := by
  obtain ⟨i, is, rfl⟩ := List.exists_cons_of_ne_nil hi.ne_nil
  have hblank : isBlank i = false := not_blank_of_identChar (hi.identChars i List.mem_cons_self)
  exact readMarker_append hm (dropBlanks_cons_of_not_blank hblank)

theorem readIdentifier_append_blanks {ident gap : List Char} (hi : Identifier ident)
    (hne : gap ≠ []) (hgap : ∀ c ∈ gap, isBlank c = true) (rest : List Char) :
    readIdentifier (ident ++ (gap ++ rest)) = some (ident, gap ++ rest) := by
  obtain ⟨g, gs, rfl⟩ := List.exists_cons_of_ne_nil hne
  exact readIdentifier_append hi (hgap g List.mem_cons_self)

theorem dropBlanks_blanks_digits {b ds : List Char} (hb : ∀ c ∈ b, isBlank c = true)
    (hd : IsDigits ds) (rest : List Char) : dropBlanks (b ++ (ds ++ rest)) = ds ++ rest := by
  obtain ⟨d, ds, rfl⟩ := List.exists_cons_of_ne_nil hd.1
  exact dropBlanks_blanks_cons hb (not_blank_of_isDigit (hd.2 d List.mem_cons_self))

/-- Whether a character is one of the tabs and spaces before the message. -/
abbrev isPad (c : Char) : Bool := c == '\t' || c == ' '

theorem isBlank_of_isPad {c : Char} (h : isPad c = true) : isBlank c = true := by
  rcases (by simpa [isPad] using h : c = '\t' ∨ c = ' ') with rfl | rfl <;> rfl

theorem Parts.pad_blank (p : Parts) : ∀ c ∈ p.pad, isBlank c = true := fun c hc => by
  rcases p.pad_ok c hc with rfl | rfl <;> rfl

theorem readParts_text (p : Parts) :
    readParts p.text =
      some (p.ident, p.lineDigits, p.colDigits, (p.pad ++ p.message).dropWhile isPad) := by
  obtain ⟨marker, ident, gap, lineGap, lineDigits, commaGap, colGap, colDigits, pad, message,
    hm, hi, hne, hgap, hlineGap, hld, hcommaGap, hcolGap, hcd, hpad, hmsg⟩ := p
  -- The literals of the grammar start with neither a blank nor a digit.
  have hline : ∀ rest, dropBlanks ("(line:".toList ++ rest) = "(line:".toList ++ rest :=
    fun _ => rfl
  have hcol : ∀ rest, dropBlanks ("col:".toList ++ rest) = "col:".toList ++ rest := fun _ => rfl
  have hcomma : ∀ rest, (",".toList ++ rest).takeWhile isDigit = [] := fun _ => rfl
  have hclose : ∀ rest, ("):".toList ++ rest).takeWhile isDigit = [] := fun _ => rfl
  simp only [readParts, Parts.text, List.append_assoc, Option.bind_eq_bind,
    readMarker_append_identifier hm hi, Option.bind_some, readIdentifier_append_blanks hi hne hgap,
    dropBlanks_blanks_append hgap, hline, expect_append, dropBlanks_blanks_digits hlineGap hld,
    readNumber_append hld (hcomma _), dropBlanks_blanks_append hcommaGap, hcol,
    dropBlanks_blanks_digits hcolGap hcd, readNumber_append hcd (hclose _)]
  -- What is left is the message, which carries no line feed.
  have hnl : '\n' ∉ (pad ++ message).dropWhile isPad := fun h => by
    rcases List.mem_append.mp ((List.dropWhile_suffix isPad).subset h) with h | h
    · rcases hpad _ h with h | h <;> simp at h
    · exact hmsg h
  simp [hnl]

theorem readLine_text (p : Parts) : readLine p.text = some p.finding := by
  -- The tabs and spaces before the message are blanks, which normalising drops anyway.
  have hmsg : Finding.normalizeMessage ((p.pad ++ p.message).dropWhile isPad) =
      Finding.normalizeMessage p.message := by
    rw [Finding.normalizeMessage, Finding.normalizeMessage,
      dropBlanks_dropWhile fun _ => isBlank_of_isPad, dropBlanks_blanks_append p.pad_blank]
  simp [readLine, readParts_text, Finding.make, Parts.finding, hmsg,
    Finding.normalizeLine_of_isDigits p.lineDigits_ok, Finding.columnOf_of_isDigits p.colDigits_ok]

/-! ## Every accepted line is made of parts -/

theorem eq_blanks_append_of_dropBlanks {cs rest : List Char} (h : dropBlanks cs = rest) :
    ∃ b, (∀ c ∈ b, isBlank c = true) ∧ cs = b ++ rest :=
  ⟨cs.takeWhile isBlank, blanks_takeWhile cs, by rw [← h, takeWhile_blank_append_dropBlanks]⟩

theorem exists_parts_of_readParts {l : List Char} {q} (h : readParts l = some q) :
    ∃ p : Parts, p.text = l := by
  simp only [readParts, Option.bind_eq_bind, Option.bind_eq_some_iff] at h
  obtain ⟨cs1, h1, ⟨ident, cs2⟩, h2, cs3, h3, ⟨ld, cs4⟩, h4, cs5, h5, cs6, h6, ⟨cd, cs7⟩, h7,
    cs8, h8, h9⟩ := h
  -- Each reader's result says how its input is written.
  obtain ⟨m, hm, rfl⟩ := exists_marker_of_readMarker h1
  obtain ⟨hi, rfl, c, r, hcr, hc⟩ := eq_append_of_readIdentifier h2
  obtain ⟨gap, hgap, rfl⟩ := eq_blanks_append_of_dropBlanks (eq_append_of_expect h3)
  obtain ⟨lineGap, hlineGap, hcs3⟩ := eq_blanks_append_of_dropBlanks (eq_append_of_readNumber h4).2
  obtain rfl := hcs3
  obtain rfl := eq_append_of_expect h5
  obtain ⟨commaGap, hcommaGap, rfl⟩ := eq_blanks_append_of_dropBlanks (eq_append_of_expect h6)
  obtain ⟨colGap, hcolGap, rfl⟩ := eq_blanks_append_of_dropBlanks (eq_append_of_readNumber h7).2
  obtain rfl := eq_append_of_expect h8
  have hmsg : '\n' ∉ cs8.dropWhile isPad := fun hn => by simp [hn] at h9
  -- The first blank run is not empty: the identifier stops at a blank.
  have hne : gap ≠ [] := by
    rintro rfl
    have hparen : c = '(' := (List.cons.inj hcr.symm).1
    subst hparen
    exact absurd hc (by decide)
  refine ⟨⟨m, ident, gap, lineGap, ld, commaGap, colGap, cd, cs8.takeWhile isPad,
    cs8.dropWhile isPad, hm, hi, hne, hgap, hlineGap, (eq_append_of_readNumber h4).1, hcommaGap,
    hcolGap, (eq_append_of_readNumber h7).1, fun x hx => ?_, hmsg⟩, ?_⟩
  · have := List.mem_takeWhile_imp hx
    simpa [isPad] using this
  · simp [Parts.text, List.append_assoc]

/-! ## The reader and the grammar -/

theorem exists_parts_of_readLine {l : List Char} {f : Finding}
    (h : Layout.readLine .tabbed l = some f) : ∃ p : Parts, p.text = l ∧ p.finding = f := by
  obtain ⟨q, hq, -⟩ := Option.map_eq_some_iff.mp h
  obtain ⟨p, rfl⟩ := exists_parts_of_readParts hq
  exact ⟨p, rfl, Option.some.inj ((readLine_text p).symm.trans h)⟩

theorem Parts.finding_eq_of_text_eq {p p' : Parts} (h : p.text = p'.text) :
    p.finding = p'.finding :=
  Option.some.inj ((readLine_text p).symm.trans (h ▸ readLine_text p'))

theorem readLine_tabbed_eq_none_iff (l : List Char) :
    Layout.readLine .tabbed l = none ↔ ∀ p : Parts, p.text ≠ l := by
  rw [Option.eq_none_iff_forall_ne_some]
  constructor
  · rintro h p rfl
    exact h p.finding (readLine_text p)
  · intro h f hf
    obtain ⟨p, hp, -⟩ := exists_parts_of_readLine hf
    exact h p hp

/-- The tabbed reader is its grammar: a line gives a finding exactly when it can be cut into
parts, the finding is then the one the parts determine, and every other line is ignored. -/
theorem readLine_tabbed_iff_parts (l : List Char) :
    (∀ f, Layout.readLine .tabbed l = some f ↔ ∃ p : Parts, p.text = l ∧ p.finding = f) ∧
      (Layout.readLine .tabbed l = none ↔ ∀ p : Parts, p.text ≠ l) :=
  ⟨fun _ => ⟨exists_parts_of_readLine, fun ⟨p, hp, hf⟩ => hp ▸ hf ▸ readLine_text p⟩,
    readLine_tabbed_eq_none_iff l⟩

end LintBridge.Report.Tabbed
