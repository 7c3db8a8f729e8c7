import ChainLint.CommandLine.Run
import ChainLint.Proofs.Report.Entries

/-!
# The lines, the document and the exit status

The lines of reports are read off the document of the same reports, and the exit status off the number
of errors in it.  Leaving warnings out beforehand is the same as not listing them, and changes no exit
status.

* `listing entries`: the lines and the summary of a document.
* `renderPretty_eq_listing`: lines without colours are those of the document.
* `exitStatus_eq`: the exit status is one if the document counts an error, whatever is listed.
* `listing_exit_agree`: both, for every run of the program that comes to reports.
-/

namespace ChainLint

/-! ### The listing of a document -/

/-- The line of a finding. -/
def Finding.line (file : String) (f : Finding) : String :=
  file ++ ":" ++ toString f.place.line ++ ":" ++ toString f.place.column ++ "  " ++ f.level.text ++
    "  " ++ f.message ++ "  " ++ f.rule ++ "\n"

/-- The lines of an entry: why there are no findings, or one for each finding. -/
def Entry.lines (e : Entry) : List String :=
  match e.error with
  | some text => [e.file ++ "  " ++ Level.error.text ++ "  " ++ text ++ "\n"]
  | none => e.findings.map (Finding.line e.file)

/-- The entries with an error and the findings that are errors. -/
def errorCount (entries : List Entry) : Nat :=
  entries.countP (·.error.isSome) + (entries.flatMap Entry.findings).countP (·.level = .error)

/-- The findings that are warnings. -/
def warningCount (entries : List Entry) : Nat :=
  (entries.flatMap Entry.findings).countP (·.level = .warning)

/-- The summary of two counts. -/
def countsText (errors warnings : Nat) : String :=
  if errors + warnings = 0 then "No problems found\n"
  else
    "\nFound " ++ toString (errors + warnings) ++ " problem(s) (" ++ toString errors ++
      " error(s), " ++ toString warnings ++ " warning(s))\n"

/-- The lines of a document with their summary. -/
def listing (entries : List Entry) : String :=
  String.join (entries.flatMap Entry.lines) ++
    countsText (errorCount entries) (warningCount entries)

theorem errorCount_cons (e : Entry) (es : List Entry) :
    errorCount (e :: es) = errorCount [e] + errorCount es := by
  simp only [errorCount, List.countP_cons, List.countP_nil, List.flatMap_cons, List.flatMap_nil,
    List.countP_append]
  omega

theorem warningCount_cons (e : Entry) (es : List Entry) :
    warningCount (e :: es) = warningCount [e] + warningCount es := by
  simp only [warningCount, List.flatMap_cons, List.flatMap_nil, List.countP_append,
    List.countP_nil, Nat.add_zero]

/-! ### The counts of reports -/

section Counts

variable (quiet : Bool)

/-- Every error is listed. -/
theorem countP_shown_error (source : List Char) (found : List Diagnostic) :
    ((shown quiet found).map (Diagnostic.toFinding source)).countP (·.level = .error) =
      countLevel .error found := by
  have hlevel : (fun f : Finding => decide (f.level = .error)) ∘ Diagnostic.toFinding source =
      fun d => decide (d.level = .error) := rfl
  rw [List.countP_map, hlevel, countLevel]
  cases quiet with
  | false => simp [shown]
  | true => simp [shown, List.countP_filter]

/-- What a list of findings adds to the counts. -/
theorem foldl_one (source : List Char) (found : List Diagnostic) (t : Tally) :
    (found.map fun d => Tally.one d.level).foldl Tally.add t =
      ⟨t.errors + (found.map (Diagnostic.toFinding source)).countP (·.level = .error),
        t.warnings + (found.map (Diagnostic.toFinding source)).countP (·.level = .warning)⟩ := by
  induction found generalizing t with
  | nil => rfl
  | cons d found ih =>
    rw [List.map_cons, List.foldl_cons, ih, List.map_cons, List.countP_cons, List.countP_cons]
    cases hlevel : d.level <;> simp [Tally.add, Tally.one, Diagnostic.toFinding, hlevel] <;> omega

theorem tally_eq (r : Report) :
    r.tally quiet = ⟨errorCount [r.toEntry quiet], warningCount [r.toEntry quiet]⟩ := by
  rw [Report.tally, Report.toEntry]
  cases r.outcome with
  | ok found =>
    simp only [foldl_one r.source]
    simp [Tally.zero, errorCount, warningCount]
  | error e => rfl

/-- What reports add to the counts. -/
theorem foldl_tally (reports : List Report) (t : Tally) :
    (reports.map (Report.tally quiet)).foldl Tally.add t =
      ⟨t.errors + errorCount (reports.map (Report.toEntry quiet)),
        t.warnings + warningCount (reports.map (Report.toEntry quiet))⟩ := by
  induction reports generalizing t with
  | nil => rfl
  | cons r reports ih =>
    rw [List.map_cons, List.foldl_cons, ih, List.map_cons, errorCount_cons, warningCount_cons,
      tally_eq, Tally.add, Nat.add_assoc, Nat.add_assoc]

/-- A file makes the program fail if its entry counts an error. -/
theorem hasErrors_iff (r : Report) :
    r.hasErrors = true ↔ 0 < errorCount [r.toEntry quiet] := by
  rw [Report.hasErrors, Report.toEntry]
  cases r.outcome with
  | ok found =>
    have hcount := countP_shown_error quiet r.source found
    simp [errorCount, hcount, countLevel, List.countP_pos_iff]
  | error e => simp [errorCount]

theorem any_hasErrors_iff (reports : List Report) :
    reports.any Report.hasErrors = true ↔
      0 < errorCount (reports.map (Report.toEntry quiet)) := by
  induction reports with
  | nil => simp [errorCount]
  | cons r reports ih =>
    rw [List.any_cons, Bool.or_eq_true, ih, hasErrors_iff quiet, List.map_cons,
      errorCount_cons (r.toEntry quiet) (reports.map (Report.toEntry quiet))]
    omega

/-- The exit status tells whether an error is counted, whatever is listed. -/
theorem exitStatus_eq (reports : List Report) :
    CommandLine.exitStatus reports =
      if 0 < errorCount (reports.map (Report.toEntry quiet)) then 1 else 0 := by
  rw [CommandLine.exitStatus, if_congr (any_hasErrors_iff quiet reports) rfl rfl]

end Counts

/-! ### Lines without colours -/

theorem Palette.level_plain (level : Level) : Palette.plain.level level = level.text := by
  cases level <;> rfl

theorem Report.lines_plain (quiet : Bool) (r : Report) :
    r.lines .plain quiet = (r.toEntry quiet).lines := by
  rw [lines, toEntry]
  cases r.outcome with
  | ok found =>
    simp only [Entry.lines, List.map_map]
    refine List.map_congr_left fun d _ => ?_
    simp only [findingLine, Palette.level_plain]
    rfl
  | error e => rfl

theorem summary_plain (t : Tally) : summary .plain t = countsText t.errors t.warnings := rfl

/-- Lines without colours are those of the document. -/
theorem renderPretty_eq_listing (quiet : Bool) (reports : List Report) :
    renderPretty .plain quiet reports = listing (reports.map (Report.toEntry quiet)) := by
  have hlines : reports.flatMap (Report.lines .plain quiet) =
      (reports.map (Report.toEntry quiet)).flatMap Entry.lines := by
    rw [List.flatMap_map]
    exact List.flatMap_congr fun r _ => r.lines_plain quiet
  rw [renderPretty, listing, hlines, foldl_tally, summary_plain]
  simp only [Tally.zero, Nat.zero_add]

/-! ### Leaving warnings out -/

/-- A report without the warnings. -/
def Report.onlyErrors (r : Report) : Report :=
  { r with outcome := r.outcome.map (·.filter (·.level = .error)) }

theorem shown_true (found : List Diagnostic) :
    shown true found = shown false (found.filter (·.level = .error)) := by
  simp [shown]

section OnlyErrors

variable (r : Report)

theorem Report.lines_onlyErrors (p : Palette) :
    r.lines p true = r.onlyErrors.lines p false := by
  rw [lines, lines, onlyErrors]
  cases r.outcome with
  | ok found => simp only [Except.map, shown_true]
  | error e => rfl

theorem Report.tally_onlyErrors : r.tally true = r.onlyErrors.tally false := by
  rw [tally, tally, onlyErrors]
  cases r.outcome with
  | ok found => simp only [Except.map, shown_true]
  | error e => rfl

theorem Report.toJson_onlyErrors : r.toJson true = r.onlyErrors.toJson false := by
  rw [toJson, toJson, onlyErrors]
  cases r.outcome with
  | ok found => simp only [Except.map, shown_true]
  | error e => rfl

end OnlyErrors

/-- Without warnings the lines are those of the reports without the warnings. -/
theorem renderPretty_onlyErrors (p : Palette) (reports : List Report) :
    renderPretty p true reports = renderPretty p false (reports.map Report.onlyErrors) := by
  have hlines : reports.flatMap (Report.lines p true) =
      (reports.map Report.onlyErrors).flatMap (Report.lines p false) := by
    rw [List.flatMap_map]
    exact List.flatMap_congr fun r _ => r.lines_onlyErrors p
  have htally : reports.map (Report.tally true) =
      (reports.map Report.onlyErrors).map (Report.tally false) := by
    rw [List.map_map]
    exact List.map_congr_left fun r _ => r.tally_onlyErrors
  rw [renderPretty, renderPretty, hlines, htally]

/-- Without warnings the document is that of the reports without the warnings. -/
theorem renderJson_onlyErrors (reports : List Report) :
    renderJson true reports = renderJson false (reports.map Report.onlyErrors) := by
  have hitems : reports.map (Report.toJson true) =
      (reports.map Report.onlyErrors).map (Report.toJson false) := by
    rw [List.map_map]
    exact List.map_congr_left fun r _ => r.toJson_onlyErrors
  rw [renderJson, renderJson, reportsToJson, reportsToJson, hitems]

/-! ### Runs of the program -/

namespace CommandLine

/-- The reports of a request, unless it fails before; they depend on its paths and its configuration
alone. -/
def reportsOf (disk : Disk) (r : LintRequest) : Except Failure (List Report) := do
  let rules ← loadRules disk r.config
  let files ← collect disk r.paths
  files.mapM (lintFile rules)

theorem lintAnswer_of_reports {disk : Disk} {r : LintRequest} {reports : List Report} (p : Palette)
    (h : reportsOf disk r = .ok reports) :
    (lintAnswer p disk r).output = render p r reports ∧
      (lintAnswer p disk r).exit = exitStatus reports := by
  rw [reportsOf] at h
  rw [lintAnswer]
  cases hrules : loadRules disk r.config with
  | error f =>
    rw [hrules] at h
    cases h
  | ok rules =>
    cases hfiles : collect disk r.paths with
    | error f =>
      rw [hrules, hfiles] at h
      cases h
    | ok files =>
      rw [hrules, hfiles] at h
      have hreports : files.mapM (lintFile rules) = .ok reports := h
      simp only [hreports, and_self]

end CommandLine

/-- **The renderings and the exit status agree.**  Lines without colours are those of the document of
the same reports.  Not listing warnings is listing the reports without them, in any colours and as a
document.  A run that comes to reports prints them in its format, and exits with one exactly if the
document, with or without warnings, counts an error. -/
theorem listing_exit_agree (reports : List Report) :
    ∃ entries : Bool → List Entry,
      (∀ quiet, entries? (reportsToJson quiet reports) = some (entries quiet) ∧
        renderPretty .plain quiet reports = listing (entries quiet)) ∧
      (∀ p, renderPretty p true reports = renderPretty p false (reports.map Report.onlyErrors)) ∧
      renderJson true reports = renderJson false (reports.map Report.onlyErrors) ∧
      ∀ p disk args r, CommandLine.Request.ofArguments args = .ok (.lint r) →
        CommandLine.reportsOf disk r = .ok reports →
        (CommandLine.run p disk args).output = CommandLine.render p r reports ∧
        ∀ quiet, (CommandLine.run p disk args).exit =
          if 0 < errorCount (entries quiet) then 1 else 0 := by
  refine ⟨fun quiet => reports.map (Report.toEntry quiet), fun quiet => ⟨?_, ?_⟩,
    fun p => renderPretty_onlyErrors p reports, renderJson_onlyErrors reports,
    fun p disk args r hargs hreports => ?_⟩
  · exact entries?_reportsToJson quiet reports
  · exact renderPretty_eq_listing quiet reports
  · obtain ⟨houtput, hexit⟩ := CommandLine.lintAnswer_of_reports p hreports
    rw [CommandLine.run, hargs]
    exact ⟨houtput, fun quiet => hexit.trans (exitStatus_eq quiet reports)⟩

/-- A run over a malformed file exits with one, although warnings are not listed. -/
theorem listing_exit_agree_malformed :
    let disk : CommandLine.Disk := fun _ => .ok (.file "const = ;".toUTF8)
    let request : CommandLine.LintRequest := ⟨["a.ts"], none, .pretty, true⟩
    let report : Report :=
      ⟨"a.ts", "const = ;".toList, .error (.malformed "a.ts" malformedMessages)⟩
    CommandLine.Request.ofArguments ["-q", "a.ts"] = .ok (.lint request) ∧
    CommandLine.reportsOf disk request = .ok [report] ∧
    (CommandLine.run .plain disk ["-q", "a.ts"]).output = renderPretty .plain true [report] ∧
    (CommandLine.run .plain disk ["-q", "a.ts"]).exit = 1 := by
  intro disk request report
  have hargs : CommandLine.Request.ofArguments ["-q", "a.ts"] = .ok (.lint request) := by decide
  have hreports : CommandLine.reportsOf disk request = .ok [report] := by
    have hfound : CommandLine.filesAtAll disk request.paths =
        .ok [⟨"a.ts", "const = ;".toUTF8⟩] := rfl
    have hfiles : CommandLine.collect disk request.paths = .ok [⟨"a.ts", "const = ;".toUTF8⟩] := by
      rw [CommandLine.collect, hfound]
      simp [Except.map, CommandLine.dropRepeats]
    rw [CommandLine.reportsOf, hfiles]
    rfl
  obtain ⟨entries, hentries, -, -, hrun⟩ := listing_exit_agree [report]
  have hread : entries true = [report.toEntry true] :=
    Option.some.inj ((hentries true).1.symm.trans (entries?_reportsToJson true [report]))
  obtain ⟨houtput, hexit⟩ := hrun .plain disk ["-q", "a.ts"] request hargs hreports
  rw [hexit true, hread]
  exact ⟨hargs, hreports, houtput, rfl⟩

end ChainLint
