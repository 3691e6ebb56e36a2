import LintBridge.Cli.Run
import LintBridge.Proofs.Records

/-!
# The check command

For every command line that asks for a check and every configuration that loads, each setting is
the option given or else the loaded one, and the run prints the records of every file that could
be checked, in order, before its exit status. A record on the last line a 32-bit word holds
cannot be printed one-based, and the run faults there.
-/

namespace LintBridge.Cli

/-! ## Checking the files -/

/-- The report of a file whose check succeeded: its records under its absolute path. -/
def fileReport (launch : Launcher) (home : Option String) (cwd : String) (s : Settings)
    (file : String) : Option FileReport :=
  (checkFile launch home (absolutePath cwd file) s).toOption.map (FileReport.mk (absolutePath cwd file))

/-- Every record of every file that could be checked, with the absolute path of its file, in file
order and then record order. -/
def checkedRows (launch : Launcher) (home : Option String) (cwd : String) (s : Settings)
    (files : List String) : List (String × Record) :=
  (files.filterMap (fileReport launch home cwd s)).flatMap FileReport.rows

/-- The exit status of a check: 2 when some file could not be checked, else 1 when there is a
record, else 0. -/
def checkStatus (launch : Launcher) (home : Option String) (cwd : String) (s : Settings)
    (files : List String) : Nat :=
  if files.any (fun f => !(checkFile launch home (absolutePath cwd f) s).isOk) then 2
  else if checkedRows launch home cwd s files = [] then 0 else 1

section Files

variable (launch : Launcher) (home : Option String) (cwd : String) (s : Settings)

theorem foldl_checkStep_reports (files : List String) (acc : List FileReport × String × Bool) :
    (files.foldl (checkStep launch home cwd s) acc).1 =
      acc.1 ++ files.filterMap (fileReport launch home cwd s) := by
  induction files generalizing acc with
  | nil => simp
  | cons f files ih =>
    rw [List.foldl_cons, ih]
    cases h : checkFile launch home (absolutePath cwd f) s <;>
      simp [checkStep, fileReport, h, Except.toOption]

theorem foldl_checkStep_failed (files : List String) (acc : List FileReport × String × Bool) :
    (files.foldl (checkStep launch home cwd s) acc).2.2 =
      (acc.2.2 || files.any fun f => !(checkFile launch home (absolutePath cwd f) s).isOk) := by
  induction files generalizing acc with
  | nil => simp
  | cons f files ih =>
    rw [List.foldl_cons, ih]
    cases h : checkFile launch home (absolutePath cwd f) s <;>
      simp [checkStep, h, Except.isOk, Except.toBool]

theorem foldl_checkStep_files (files : List String) :
    files.foldl (checkStep launch home cwd s) ([], "", false) =
      (files.filterMap (fileReport launch home cwd s),
        (files.foldl (checkStep launch home cwd s) ([], "", false)).2.1,
        files.any fun f => !(checkFile launch home (absolutePath cwd f) s).isOk) := by
  refine Prod.ext ?_ (Prod.ext rfl ?_)
  · simpa using foldl_checkStep_reports launch home cwd s files ([], "", false)
  · simpa using foldl_checkStep_failed launch home cwd s files ([], "", false)

theorem any_records_iff (reports : List FileReport) :
    (reports.any fun r => !r.records.isEmpty) = true ↔ reports.flatMap FileReport.rows ≠ [] := by
  simp [FileReport.rows, List.flatMap_eq_nil_iff]

theorem checkStatus_eq (files : List String) :
    checkStatus launch home cwd s files =
      if (files.any fun f => !(checkFile launch home (absolutePath cwd f) s).isOk) then 2
      else if (files.filterMap (fileReport launch home cwd s)).any (!·.records.isEmpty) then 1
      else 0 := by
  rw [checkStatus]
  by_cases hrows : checkedRows launch home cwd s files = []
  · have hany := mt (any_records_iff (files.filterMap (fileReport launch home cwd s))).mp
      (not_not.mpr hrows)
    simp only [hrows, if_true, Bool.not_eq_true] at hany ⊢
    simp [hany]
  · have hany := (any_records_iff (files.filterMap (fileReport launch home cwd s))).mpr hrows
    simp [hrows, hany]

end Files

/-! ## Printing the rows -/

theorem foldl_printRow_stopped (rows : List (String × Record)) (out : String) (f : Fault) :
    rows.foldl printRow (out, some f) = (out, some f) := by
  induction rows with
  | nil => rfl
  | cons row rows ih => exact ih

theorem foldl_printRow_lines (rows : List (String × Record)) (lines : List String)
    (h : rows.map (fun row => row.2.render row.1) = lines.map .ok) (out : String) :
    rows.foldl printRow (out, none) = (out ++ String.join (lines.map (· ++ "\n")), none) := by
  induction rows generalizing lines out with
  | nil =>
    have hnil : lines = [] := by simpa [eq_comm] using h
    simp [hnil]
  | cons row rows ih =>
    cases lines with
    | nil => simp at h
    | cons line lines =>
      simp only [List.map_cons, List.cons.injEq] at h
      obtain ⟨hrow, hrows⟩ := h
      rw [List.foldl_cons, printRow, hrow, ih lines hrows]
      simp [String.append_assoc]

theorem foldl_printRow_fault (pre post : List (String × Record)) (row : String × Record)
    (lines : List String) (hpre : pre.map (fun row => row.2.render row.1) = lines.map .ok)
    (hrow : row.2.range.start.line.toNat = 4294967295) (out : String) :
    (pre ++ row :: post).foldl printRow (out, none) =
      (out ++ String.join (lines.map (· ++ "\n")), some .addOverflow) := by
  have hfail : row.2.render row.1 = .error .addOverflow :=
    (Record.render_eq_error_iff row.2 row.1).mpr hrow
  rw [List.foldl_append, foldl_printRow_lines pre lines hpre, List.foldl_cons, printRow, hfail]
  exact foldl_printRow_stopped post _ _

theorem exists_lines_of_fit (rows : List (String × Record))
    (h : ∀ row ∈ rows, row.2.range.start.line.toNat ≠ 4294967295) :
    ∃ lines : List String, rows.map (fun row => row.2.render row.1) = lines.map .ok := by
  induction rows with
  | nil => exact ⟨[], rfl⟩
  | cons row rows ih =>
    obtain ⟨lines, hlines⟩ := ih fun x hx => h x (List.mem_cons_of_mem _ hx)
    obtain ⟨rest, hrest⟩ := Record.render_of_ne_max row.2 row.1 (h row List.mem_cons_self)
    exact ⟨(row.1 ++ ":" ++ toString (row.2.range.start.line.toNat + 1) ++ ":" ++ rest) :: lines,
      by rw [List.map_cons, List.map_cons, hrest, hlines]⟩

/-! ## A whole check run -/

theorem CheckRequest.settings_eq (r : CheckRequest) (d : Settings) :
    r.settings d =
      { command := r.command.getD d.command, showErrors := r.showErrors.getD d.showErrors,
        maxErrors := r.maxErrors.or d.maxErrors, outputFormat := r.format.getD d.outputFormat,
        severity := r.severity.getD d.severity, docsUrl := d.docsUrl } := by
  cases h : r.maxErrors <;> simp [CheckRequest.settings, h, Option.or]

theorem run_of_check {launch : Launcher} {home : Option String} {world : Config.Surroundings}
    {inv : Invocation} {r : CheckRequest} {d : Settings} (hreq : inv.request = .check r)
    (hload : Config.loadFrom world (inv.config.or (world.env.lookup Config.pathVariable)) = .ok d) :
    run launch home world inv = runCheck launch home world.cwd r (r.settings d) := by
  cases hconfig : inv.config with
  | none =>
    rw [hconfig, Option.none_or] at hload
    simp only [run, hconfig, Config.load, hload, hreq]
  | some path =>
    rw [hconfig, Option.some_or] at hload
    simp only [run, hconfig, hload, hreq]

section Run

variable (launch : Launcher) (home : Option String) (cwd : String) (r : CheckRequest)
  (s : Settings)

theorem runCheck_json (hjson : r.json = true) :
    (runCheck launch home cwd r s).ending = .exit (checkStatus launch home cwd s r.files) := by
  rw [runCheck, foldl_checkStep_files, checkStatus_eq]
  simp [hjson]

theorem runCheck_lines (hjson : r.json = false) :
    (runCheck launch home cwd r s).out =
        ((checkedRows launch home cwd s r.files).foldl printRow ("", none)).1 ∧
      (runCheck launch home cwd r s).ending =
        ((checkedRows launch home cwd s r.files).foldl printRow ("", none)).2.elim
          (.exit (checkStatus launch home cwd s r.files)) .fault := by
  have hlines : reportLines (r.files.filterMap (fileReport launch home cwd s)) =
      (checkedRows launch home cwd s r.files).foldl printRow ("", none) := rfl
  rw [runCheck, foldl_checkStep_files, checkStatus_eq, ← hlines]
  rcases hprint : reportLines (r.files.filterMap (fileReport launch home cwd s)) with
    ⟨out, _ | f⟩ <;> simp [hjson, hprint]

end Run

/-- A check, in full. For a command line that asks for a check and a configuration that loads,
each setting is the option given, or else the loaded one. With `--json` the run ends with the exit
status: 2 when some file could not be checked, else 1 when some file has a record, else 0. Without
it, when no record stands on the last line a 32-bit word holds, every record of every file that
could be checked is printed, in file order and then record order, and the run ends with the exit
status; otherwise the records before the first on that line are printed, and the run faults. -/
theorem run_check (launch : Launcher) (home : Option String) (world : Config.Surroundings)
    (inv : Invocation) (r : CheckRequest) (d : Settings) (hreq : inv.request = .check r)
    (hload : Config.loadFrom world (inv.config.or (world.env.lookup Config.pathVariable)) = .ok d) :
    let s : Settings :=
      { command := r.command.getD d.command, showErrors := r.showErrors.getD d.showErrors,
        maxErrors := r.maxErrors.or d.maxErrors, outputFormat := r.format.getD d.outputFormat,
        severity := r.severity.getD d.severity, docsUrl := d.docsUrl }
    let rows := checkedRows launch home world.cwd s r.files
    let status := checkStatus launch home world.cwd s r.files
    (r.json = true → (run launch home world inv).ending = .exit status) ∧
    (r.json = false → (∀ row ∈ rows, row.2.range.start.line.toNat ≠ 4294967295) →
      ∃ lines : List String, rows.map (fun row => row.2.render row.1) = lines.map .ok ∧
        (run launch home world inv).out = String.join (lines.map (· ++ "\n")) ∧
        (run launch home world inv).ending = .exit status) ∧
    (r.json = false → ∀ pre row post, rows = pre ++ row :: post →
      (∀ x ∈ pre, x.2.range.start.line.toNat ≠ 4294967295) →
      row.2.range.start.line.toNat = 4294967295 →
      ∃ lines : List String, pre.map (fun row => row.2.render row.1) = lines.map .ok ∧
        (run launch home world inv).out = String.join (lines.map (· ++ "\n")) ∧
        (run launch home world inv).ending = .fault .addOverflow) := by
  intro s rows status
  have hrun : run launch home world inv = runCheck launch home world.cwd r s := by
    rw [run_of_check hreq hload, CheckRequest.settings_eq]
  rw [hrun]
  refine ⟨runCheck_json launch home world.cwd r s, fun hjson hfit => ?_,
    fun hjson pre row post hrows hpre hrow => ?_⟩
  · -- Every row is printed, and nothing stops the run.
    obtain ⟨lines, hlines⟩ := exists_lines_of_fit rows hfit
    obtain ⟨hout, hend⟩ := runCheck_lines launch home world.cwd r s hjson
    have hprint := foldl_printRow_lines rows lines hlines ""
    refine ⟨lines, hlines, ?_, ?_⟩
    · rw [hout]
      simp [rows, hprint]
    · rw [hend]
      simp [rows, hprint, status]
  · -- The rows before the first on the last line are printed, and that row stops the run.
    obtain ⟨lines, hlines⟩ := exists_lines_of_fit pre hpre
    obtain ⟨hout, hend⟩ := runCheck_lines launch home world.cwd r s hjson
    have hprint := foldl_printRow_fault pre post row lines hlines hrow ""
    have hsplit : checkedRows launch home world.cwd s r.files = pre ++ row :: post := hrows
    refine ⟨lines, hlines, ?_, ?_⟩
    · rw [hout, hsplit, hprint, String.empty_append]
    · rw [hend, hsplit, hprint]
      rfl

/-- A check of one file, with no configuration file and a linter that reports nothing: the
settings are the defaults, and the run ends with 0 after printing nothing. -/
theorem run_check_one_quiet_file :
    (⟨none, .check ⟨["a.c"], none, none, none, none, none, false⟩⟩ : Invocation).request =
        .check ⟨["a.c"], none, none, none, none, none, false⟩ ∧
      Config.loadFrom ⟨"/", [], []⟩
          ((none : Option String).or (([] : List (String × String)).lookup Config.pathVariable)) =
        .ok Settings.default ∧
    let r : CheckRequest := ⟨["a.c"], none, none, none, none, none, false⟩
    let d := Settings.default
    let launch : Launcher := fun _ _ => .finished (some 0) [] []
    let world : Config.Surroundings := ⟨"/", [], []⟩
    let inv : Invocation := ⟨none, .check r⟩
    let s : Settings :=
      { command := r.command.getD d.command, showErrors := r.showErrors.getD d.showErrors,
        maxErrors := r.maxErrors.or d.maxErrors, outputFormat := r.format.getD d.outputFormat,
        severity := r.severity.getD d.severity, docsUrl := d.docsUrl }
    let rows := checkedRows launch none world.cwd s r.files
    let status := checkStatus launch none world.cwd s r.files
    (r.json = true → (run launch none world inv).ending = .exit status) ∧
    (r.json = false → (∀ row ∈ rows, row.2.range.start.line.toNat ≠ 4294967295) →
      ∃ lines : List String, rows.map (fun row => row.2.render row.1) = lines.map .ok ∧
        (run launch none world inv).out = String.join (lines.map (· ++ "\n")) ∧
        (run launch none world inv).ending = .exit status) ∧
    (r.json = false → ∀ pre row post, rows = pre ++ row :: post →
      (∀ x ∈ pre, x.2.range.start.line.toNat ≠ 4294967295) →
      row.2.range.start.line.toNat = 4294967295 →
      ∃ lines : List String, pre.map (fun row => row.2.render row.1) = lines.map .ok ∧
        (run launch none world inv).out = String.join (lines.map (· ++ "\n")) ∧
        (run launch none world inv).ending = .fault .addOverflow) :=
  have hload : Config.loadFrom ⟨"/", [], []⟩
      ((none : Option String).or (([] : List (String × String)).lookup Config.pathVariable)) =
        .ok Settings.default := by
    rfl
  ⟨rfl, hload, run_check (fun _ _ => .finished (some 0) [] []) none ⟨"/", [], []⟩
    ⟨none, .check ⟨["a.c"], none, none, none, none, none, false⟩⟩
    ⟨["a.c"], none, none, none, none, none, false⟩ Settings.default rfl hload⟩

end LintBridge.Cli
