import LintBridge.Report.Colon
import LintBridge.Proofs.Report

/-!
# The colon layout

A colon line is a location, the first colon and a message. Banners, lines without a colon and
verdicts carry no finding; every other line carries the one its location and message determine,
the line and column being the first two runs of digits in the location.
-/

open LintBridge.Text

namespace LintBridge.Report.Colon

/-! ## Runs of digits -/

/-- The first maximal run of ASCII digits in a text: skip what is not a digit, then take the
digits that follow. -/
def firstDigitRun (cs : List Char) : Option (List Char) :=
  match (cs.dropWhile fun c => !isDigit c).takeWhile isDigit with
  | [] => none
  | ds => some ds

/-- What follows the first maximal run of ASCII digits in a text. -/
def afterFirstDigitRun (cs : List Char) : List Char :=
  (cs.dropWhile fun c => !isDigit c).dropWhile isDigit

/-- The second maximal run of ASCII digits in a text: the first one after the first. -/
def secondDigitRun (cs : List Char) : Option (List Char) := firstDigitRun (afterFirstDigitRun cs)

theorem firstDigitRun_cons_of_isDigit {c : Char} (hc : isDigit c = true) (cs : List Char) :
    firstDigitRun (c :: cs) = some (c :: cs.takeWhile isDigit) := by
  rw [firstDigitRun, List.dropWhile_cons_of_neg (by simp [hc]), List.takeWhile_cons_of_pos hc]

theorem firstDigitRun_cons_of_not_isDigit {c : Char} (hc : isDigit c = false) (cs : List Char) :
    firstDigitRun (c :: cs) = firstDigitRun cs := by
  rw [firstDigitRun, firstDigitRun, List.dropWhile_cons_of_pos (by simp [hc])]

theorem afterFirstDigitRun_cons_of_isDigit {c : Char} (hc : isDigit c = true) (cs : List Char) :
    afterFirstDigitRun (c :: cs) = cs.dropWhile isDigit := by
  rw [afterFirstDigitRun, List.dropWhile_cons_of_neg (by simp [hc]), List.dropWhile_cons_of_pos hc]

theorem afterFirstDigitRun_cons_of_not_isDigit {c : Char} (hc : isDigit c = false)
    (cs : List Char) : afterFirstDigitRun (c :: cs) = afterFirstDigitRun cs := by
  rw [afterFirstDigitRun, afterFirstDigitRun, List.dropWhile_cons_of_pos (by simp [hc])]

theorem digitRunsFrom_of_ne_nil {cur : List Char} (hcur : cur ≠ []) (cs : List Char) :
    digitRunsFrom cur cs =
      (cur.reverse ++ cs.takeWhile isDigit) :: digitRuns (cs.dropWhile isDigit) := by
  induction cs generalizing cur with
  | nil => simp [digitRunsFrom, hcur, digitRuns]
  | cons c cs ih =>
    by_cases hc : isDigit c = true
    · rw [digitRunsFrom, if_pos hc, ih (List.cons_ne_nil c cur), List.takeWhile_cons_of_pos hc,
        List.dropWhile_cons_of_pos hc]
      simp
    · -- The run ends at `c`, which starts no run of its own.
      rw [digitRunsFrom, if_neg hc, if_neg (by simpa using hcur), List.takeWhile_cons_of_neg hc,
        List.dropWhile_cons_of_neg hc, List.append_nil, digitRuns, digitRunsFrom, if_neg hc,
        if_pos List.isEmpty_nil]

theorem digitRuns_eq (cs : List Char) :
    digitRuns cs = (firstDigitRun cs).elim [] fun r => r :: digitRuns (afterFirstDigitRun cs) := by
  induction cs with
  | nil => rfl
  | cons c cs ih =>
    by_cases hc : isDigit c = true
    · rw [digitRuns, digitRunsFrom, if_pos hc, digitRunsFrom_of_ne_nil (List.cons_ne_nil c []),
        firstDigitRun_cons_of_isDigit hc, afterFirstDigitRun_cons_of_isDigit hc]
      rfl
    · have hc' : isDigit c = false := by simpa using hc
      rw [firstDigitRun_cons_of_not_isDigit hc', afterFirstDigitRun_cons_of_not_isDigit hc', ← ih,
        digitRuns, digitRunsFrom, if_neg hc, if_pos List.isEmpty_nil]
      rfl

theorem head?_digitRuns (cs : List Char) : (digitRuns cs).head? = firstDigitRun cs := by
  rw [digitRuns_eq]
  cases firstDigitRun cs <;> rfl

theorem isDigits_of_firstDigitRun {cs ds : List Char} (h : firstDigitRun cs = some ds) :
    IsDigits ds := by
  unfold firstDigitRun at h
  split at h
  · cases h
  · obtain rfl := Option.some.inj h
    exact ⟨‹_›, fun _ hc => List.mem_takeWhile_imp hc⟩

theorem afterFirstDigitRun_of_firstDigitRun_none {cs : List Char} (h : firstDigitRun cs = none) :
    afterFirstDigitRun cs = [] := by
  unfold firstDigitRun at h
  unfold afterFirstDigitRun
  split at h
  · rename_i hrun
    cases hd : cs.dropWhile (fun c => !isDigit c) with
    | nil => rfl
    | cons d ds =>
      -- What is left after skipping the non-digits starts with a digit.
      have hdigit : isDigit d = true := by
        have hhead := List.head?_dropWhile_not (fun c => !isDigit c) cs
        rw [hd] at hhead
        simpa using hhead
      rw [hd, List.takeWhile_cons_of_pos hdigit] at hrun
      cases hrun
  · cases h

/-! ## Locations -/

theorem eq_location_append {l : List Char} (h : ':' ∈ l) :
    l = l.takeWhile (· ≠ ':') ++ ':' :: (l.dropWhile (· ≠ ':')).drop 1 := by
  obtain ⟨c, rest, hdrop⟩ := List.exists_cons_of_ne_nil (l := l.dropWhile (· ≠ ':')) fun h0 => by
    simpa using (List.dropWhile_eq_nil_iff.mp h0) ':' h
  have hc : c = ':' := by
    have hhead := List.head?_dropWhile_not (fun x => decide (x ≠ ':')) l
    rw [hdrop] at hhead
    simpa using hhead
  subst hc
  rw [hdrop, List.drop_one, List.tail_cons, ← hdrop, List.takeWhile_append_dropWhile]

theorem exists_location_of_readLine {l : List Char} {f : Finding} (h : readLine l = some f) :
    ∃ loc msg, l = loc ++ ':' :: msg ∧ ':' ∉ loc ∧
      f.line = Finding.lineOfPrinted ((firstDigitRun loc).map decimalValue) := by
  unfold readLine at h
  dsimp only at h
  split at h
  · cases h
  split at h
  · rename_i hcolon
    split at h
    · cases h
    obtain rfl := Option.some.inj h
    refine ⟨l.takeWhile (· ≠ ':'), (l.dropWhile (· ≠ ':')).drop 1,
      eq_location_append (List.contains_iff_mem.mp hcolon),
      fun hmem => by simpa using List.mem_takeWhile_imp hmem, ?_⟩
    -- The first run of digits, if there is one, is read as the line.
    generalize l.takeWhile (· ≠ ':') = loc
    have hhead := head?_digitRuns loc
    cases hruns : digitRuns loc with
    | nil =>
      rw [hruns] at hhead
      simp [Finding.make, ← hhead, Finding.lineOfPrinted]
    | cons r rs =>
      rw [hruns] at hhead
      simp [Finding.make, ← hhead, Finding.lineOfPrinted,
        Finding.normalizeLine_of_isDigits (isDigits_of_firstDigitRun hhead.symm)]
  · cases h

/-! ## The reader in full -/

theorem takeWhile_dropWhile_location {loc : List Char} (hloc : ':' ∉ loc) (msg : List Char) :
    (loc ++ ':' :: msg).takeWhile (· ≠ ':') = loc ∧
      ((loc ++ ':' :: msg).dropWhile (· ≠ ':')).drop 1 = msg := by
  have hpos : ∀ c ∈ loc, decide (c ≠ ':') = true := fun c hc => by
    simp only [ne_eq, decide_eq_true_eq]
    rintro rfl
    exact hloc hc
  rw [List.takeWhile_append_of_pos hpos, List.dropWhile_append_of_pos hpos]
  simp

theorem readLine_location (loc msg : List Char) (hloc : ':' ∉ loc) :
    readLine (loc ++ ':' :: msg) =
      if "Norme:".toList.isPrefixOf (loc ++ ':' :: msg) then none
      else if verdicts.contains (String.ofList (trimBlanks msg)) then none
      else some (Finding.make "" (Finding.lineOfPrinted ((firstDigitRun loc).map decimalValue))
        ((secondDigitRun loc).bind fun r => Finding.columnOfNumber (decimalValue r))
        (String.ofList msg)) := by
  obtain ⟨htake, hdrop⟩ := takeWhile_dropWhile_location hloc msg
  have hcolon : (loc ++ ':' :: msg).contains ':' = true := by simp
  have hruns := digitRuns_eq loc
  unfold readLine
  simp only [htake, hdrop, hcolon, if_true]
  by_cases hbanner : "Norme:".toList.isPrefixOf (loc ++ ':' :: msg) = true
  · rw [if_pos hbanner, if_pos hbanner]
  rw [if_neg hbanner, if_neg hbanner]
  by_cases hverdict : verdicts.contains (String.ofList (trimBlanks msg)) = true
  · rw [if_pos hverdict, if_pos hverdict]
  rw [if_neg hverdict, if_neg hverdict]
  -- The two matches of the reader read the first two runs of the location.
  cases hfirst : firstDigitRun loc with
  | none =>
    have hsecond : secondDigitRun loc = none := by
      rw [secondDigitRun, afterFirstDigitRun_of_firstDigitRun_none hfirst]
      rfl
    rw [hfirst] at hruns
    simp only [Option.elim_none] at hruns
    simp only [hruns, hsecond, Option.map_none, Option.bind_none, Finding.lineOfPrinted]
  | some r =>
    have hr := isDigits_of_firstDigitRun hfirst
    rw [hfirst, Option.elim_some, digitRuns_eq (afterFirstDigitRun loc), ← secondDigitRun] at hruns
    cases hsecond : secondDigitRun loc with
    | none =>
      simp only [hsecond, Option.elim_none] at hruns
      simp only [hruns, Option.map_some, Finding.lineOfPrinted,
        Finding.normalizeLine_of_isDigits hr, Option.bind_none]
    | some r' =>
      simp only [hsecond, Option.elim_some] at hruns
      simp only [hruns, Option.map_some, Finding.lineOfPrinted,
        Finding.normalizeLine_of_isDigits hr, Option.bind_some,
        Finding.columnOf_of_isDigits (isDigits_of_firstDigitRun hsecond)]

/-- The colon reader in full. A line without a colon carries no finding. A line with one is a
location without a colon, the first colon, and a message. It carries no finding when it starts
with `Norme:` or when its message, trimmed of blanks at both ends, is a verdict. Otherwise its
finding has no identifier and the message normalised; its line is that of the first maximal run
of digits in the location, or line 0 when there is none, and its column is the second run, when
there is one and it fits in 32 bits. -/
theorem readLine_colon (l : List Char) :
    (':' ∉ l → Layout.readLine .colon l = none) ∧
    ∀ loc msg, ':' ∉ loc → l = loc ++ ':' :: msg →
      Layout.readLine .colon l =
        if "Norme:".toList <+: l ∨ String.ofList (trimBlanks msg) ∈ ["OK!", "KO!", "Error!"] then
          none
        else
          some ⟨"", Finding.lineOfPrinted ((firstDigitRun loc).map decimalValue),
            (secondDigitRun loc).bind fun r => Finding.columnOfNumber (decimalValue r),
            String.ofList (Finding.normalizeMessage msg)⟩ := by
  refine ⟨fun hl => ?_, fun loc msg hloc hl => ?_⟩
  · have hcolon : l.contains ':' = false := by simpa using hl
    simp only [Layout.readLine, readLine, hcolon, Bool.false_eq_true, if_false]
    split <;> rfl
  · subst hl
    rw [Layout.readLine, readLine_location loc msg hloc]
    simp only [List.isPrefixOf_iff_prefix, List.contains_iff_mem, verdicts, Finding.make, ite_or,
      String.toList_ofList]

theorem readLine_colon_banner_and_location :
    (':' ∉ "file.c".toList ∧ Layout.readLine .colon "file.c".toList = none) ∧
    (':' ∉ "Error (line 12, col 4)".toList ∧
      Layout.readLine .colon ("Error (line 12, col 4)".toList ++ ':' :: " space".toList) =
        if "Norme:".toList <+: "Error (line 12, col 4)".toList ++ ':' :: " space".toList ∨
            String.ofList (trimBlanks " space".toList) ∈ ["OK!", "KO!", "Error!"] then none
        else
          some ⟨"", Finding.lineOfPrinted
              ((firstDigitRun "Error (line 12, col 4)".toList).map decimalValue),
            (secondDigitRun "Error (line 12, col 4)".toList).bind
              fun r => Finding.columnOfNumber (decimalValue r),
            String.ofList (Finding.normalizeMessage " space".toList)⟩) :=
  ⟨⟨by decide, (readLine_colon _).1 (by decide)⟩,
    ⟨by decide, (readLine_colon _).2 _ _ (by decide) rfl⟩⟩

end LintBridge.Report.Colon
