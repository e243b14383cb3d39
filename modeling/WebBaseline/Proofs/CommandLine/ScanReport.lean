import WebBaseline.Proofs.CommandLine.Loading
import WebBaseline.Proofs.Report.Summary
import WebBaseline.Proofs.Scan.Soundness

/-! The report of a scan.

A scan passes over the findings that its settings hide before it writes the lines of a file, and the lines
pass over them again. The summary then counts what is left, over all files, by tier. `runScan_report` says
that these agree: each line is for one finding (`Row`), the summary shows how many lines there are of each
tier, and a strict run has the status one if there are any. -/
namespace WebBaseline.CommandLine

/-! ### Lines and findings -/

/-- A line of a report, and the finding that it is for. -/
structure Row where
  finding : Finding
  line : StyledLine

/-- The lines of the report on a file that are for findings. -/
def FileReport.rows (settings : Settings) : FileReport → List Row
  | skipped _ => []
  | scanned path findings => findings.filterMap fun f =>
      (settings.severityFor f.status).map fun severity => ⟨f, f.line path severity⟩

theorem FileReport.lines_scanned (settings : Settings) (path : Text) (findings : List Finding) :
    (scanned path findings).lines settings =
      ((scanned path findings).rows settings).map (·.line.plain) := by
  simp only [lines, rows, Report.lines, List.map_filterMap, Option.map_map, Function.comp_def]

/-- There is a line for each finding that is reported. -/
theorem FileReport.finding_rows (settings : Settings) (path : Text) (findings : List Finding) :
    ((scanned path findings).rows settings).map (·.finding) = Report.reported settings findings := by
  unfold rows Report.reported
  induction findings with
  | nil => rfl
  | cons f rest ih =>
    cases hseverity : settings.severityFor f.status <;> simpa [hseverity] using ih

theorem isSome_severityFor_of_mem_rows {settings : Settings} {report : FileReport} {row : Row}
    (h : row ∈ report.rows settings) : (settings.severityFor row.finding.status).isSome = true := by
  cases report with
  | skipped path => cases h
  | scanned path findings =>
    obtain ⟨f, -, hrow⟩ := List.mem_filterMap.mp h
    obtain ⟨severity, hseverity, rfl⟩ := Option.map_eq_some_iff.mp hrow
    exact Option.isSome_of_eq_some hseverity

/-- Without a severity for limited availability, only what is newly available is reported. Otherwise all
findings of a scan are, since none is widely available. -/
theorem reported_scan (settings : Settings) (l : Language) (text : Text) (index : Index) (parse : Script.Parser) :
    Report.reported settings (l.scan text index parse) =
      (l.scan text index parse).filter fun f =>
        f.status = .newly ∨ settings.severityForLimited ≠ .none := by
  apply List.filter_congr
  intro f hf
  have hstatus := (Language.reports_of_mem_scan hf).notWidely
  cases hf : f.status with
  | widely => exact absurd hf hstatus
  | newly => simp [Settings.severityFor]
  | limited => by_cases hnone : settings.severityForLimited = .none <;> simp [Settings.severityFor, hnone]

theorem reported_reported (settings : Settings) (findings : List Finding) :
    Report.reported settings (Report.reported settings findings) = Report.reported settings findings := by
  simp only [Report.reported, List.filter_filter, Bool.and_self]

/-! ### Files -/

/-- The language of a file: the one that is asked for, or else the one of its name. -/
def languageOf (language : Option Language) (path : Text) : Option Language :=
  language.orElse fun _ => Language.ofPath? path

/-- What the report on a file has to say. -/
inductive FileReport.IsOf (world : World) (settings : Settings) (index : Index) (language : Option Language)
    (path : Text) : FileReport → Prop
  /-- The language is not known, and there are no findings. -/
  | skipped (hlanguage : languageOf language path = none) : IsOf world settings index language path (.skipped path)
  /-- There is a line for each finding that is newly available, and for all others if these are not hidden. -/
  | scanned {l : Language} {text : Text} {findings : List Finding} (hlanguage : languageOf language path = some l)
    (htext : readSource world.files path = .ok text)
    (hfindings : findings = (l.scan text index world.parse).filter fun f =>
      f.status = .newly ∨ settings.severityForLimited ≠ .none)
    (hrows : ((FileReport.scanned path findings).rows settings).map (·.finding) = findings)
    (hlines : (FileReport.scanned path findings).lines settings =
      ((FileReport.scanned path findings).rows settings).map (·.line.plain)) :
    IsOf world settings index language path (.scanned path findings)

variable {world : World} {settings : Settings} {index : Index} {language : Option Language}

theorem isOf_of_scanFile {path : Text} {report : FileReport}
    (h : scanFile world settings index language path = .ok report) :
    report.IsOf world settings index language path := by
  unfold scanFile at h
  split at h
  · rename_i hlanguage
    cases h
    exact .skipped hlanguage
  · rename_i l hlanguage
    obtain ⟨text, htext, rfl⟩ := map_eq_ok_iff.mp h
    refine .scanned hlanguage htext (reported_scan ..) ?_ (FileReport.lines_scanned ..)
    rw [FileReport.finding_rows, reported_reported]

/-- Where no file is refused, each one has its report. -/
theorem forall₂_of_scanFiles {paths : List Text} {reports : List FileReport}
    (h : scanFiles world settings index language paths = (reports, none)) :
    List.Forall₂ (fun path report => report.IsOf world settings index language path) paths reports := by
  induction paths generalizing reports with
  | nil =>
    cases h
    exact .nil
  | cons path paths ih =>
    unfold scanFiles at h
    split at h
    · cases h
    · rename_i report hreport
      obtain ⟨rfl, hfault⟩ := Prod.mk.inj h
      exact .cons (isOf_of_scanFile hreport) (ih (Prod.ext rfl hfault))

theorem FileReport.IsOf.finding_rows {path : Text} {report : FileReport}
    (h : report.IsOf world settings index language path) :
    (report.rows settings).map (·.finding) = report.findings := by
  cases h with
  | skipped => rfl
  | scanned hlanguage htext hfindings hrows hlines => exact hrows

/-! ### Counts -/

/-- The lines for findings, over all files. -/
def rowsOf (settings : Settings) (reports : List FileReport) : List Row :=
  reports.flatMap (·.rows settings)

theorem isSome_severityFor_of_mem_rowsOf {reports : List FileReport} {row : Row}
    (h : row ∈ rowsOf settings reports) : (settings.severityFor row.finding.status).isSome = true := by
  obtain ⟨report, -, hrow⟩ := List.mem_flatMap.mp h
  exact isSome_severityFor_of_mem_rows hrow

/-- No line is for a finding that is widely available, so that the two other tiers make up all lines. -/
theorem length_rowsOf (settings : Settings) (reports : List FileReport) :
    (rowsOf settings reports).length =
      (rowsOf settings reports).countP (·.finding.status = .limited) +
        (rowsOf settings reports).countP (·.finding.status = .newly) := by
  rw [List.length_eq_countP_add_countP (fun row : Row => decide (row.finding.status = .limited))]
  congr 1
  apply List.countP_congr
  intro row hrow
  have hsome := isSome_severityFor_of_mem_rowsOf hrow
  cases hstatus : row.finding.status with
  | widely =>
    rw [hstatus] at hsome
    cases hsome
  | newly => simp
  | limited => simp

theorem finding_rowsOf {paths : List Text} {reports : List FileReport}
    (h : List.Forall₂ (fun path report => report.IsOf world settings index language path) paths reports) :
    (rowsOf settings reports).map (·.finding) = reports.flatMap (·.findings) := by
  induction h with
  | nil => rfl
  | cons hreport _ ih =>
    rw [rowsOf, List.flatMap_cons, List.flatMap_cons, List.map_append, hreport.finding_rows]
    exact congrArg _ ih

theorem count_findings {paths : List Text} {reports : List FileReport}
    (h : List.Forall₂ (fun path report => report.IsOf world settings index language path) paths reports)
    (status : Status) :
    Report.count status (reports.flatMap (·.findings)) =
      (rowsOf settings reports).countP (·.finding.status = status) := by
  rw [← finding_rowsOf h, Report.count, List.countP_map]
  rfl

/-! ### The run -/

/-- A run that ended without an error. -/
def Run.Succeeds (run : Run) : Prop :=
  run.err = [] ∧ run.escaped = none

instance (run : Run) : Decidable run.Succeeds :=
  inferInstanceAs (Decidable (_ ∧ _))

/-- A text without line breaks, tabs and characters that are not shown is one line. -/
theorem plainLines_of_all {s : Text} (h : s.all Report.isSummaryChar = true) : plainLines s = [s] := by
  have hother : ∀ c ∈ s, ∀ d, Report.isSummaryChar d = false → c ≠ d := fun c hc d hd he => by
    have hchar := List.all_eq_true.mp h c hc
    rw [he, hd] at hchar
    cases hchar
  have hclean : Text.cleaned s = s := by
    apply List.filter_eq_self.mpr
    intro c hc
    have hne := hother c hc
    simp [Text.movesCursor, hne '\x07' (by decide), hne '\x08' (by decide), hne '\x0b' (by decide),
      hne '\x0c' (by decide), hne '\r' (by decide)]
  have hsplit : ∀ d, Report.isSummaryChar d = false → Text.splitOn d s = [s] := fun d hd =>
    Text.splitBy_free fun c hc => beq_eq_false_iff_ne.mpr (hother c hc d hd)
  rw [plainLines, hclean, hsplit '\n' (by decide), List.map_singleton, Text.expandTabs,
    hsplit '\t' (by decide), Text.joinAtStops]

/-- Loading itself writes nothing. -/
theorem loadIndex_silent (world : World) (sources : Sources) (severity : Option Text) :
    (loadIndex world sources severity).1.out = [] ∧ (loadIndex world sources severity).1.status = 0 := by
  unfold loadIndex
  split
  · exact ⟨rfl, rfl⟩
  · simp only
    split <;> exact ⟨rfl, rfl⟩

theorem not_succeeds_fail (run : Run) (message : Text) : ¬ (run.fail message).Succeeds := fun h =>
  List.append_ne_nil_of_right_ne_nil _ (List.cons_ne_nil _ _) h.1

theorem not_succeeds_failWith (run : Run) (f : Failure) : ¬ (run.failWith f).Succeeds := by
  unfold Run.failWith
  split
  · exact not_succeeds_fail run f.message
  · exact fun h => Option.some_ne_none f h.2

/-- What a scan has written. The reports are those of the files in order, and the summary and the status
agree with the lines of the reports that are for findings. -/
structure IsReport (world : World) (request : ScanRequest) (settings : Settings) (run : Run)
    (reports : List FileReport) (summary : Text) : Prop where
  files : List.Forall₂ (fun path report => report.IsOf world settings run.published request.language path)
    request.paths reports
  out : run.out = (reports.flatMap (·.lines settings)).flatMap plainLines ++ [summary]
  limited : Report.shown .limited summary = (rowsOf settings reports).countP (·.finding.status = .limited)
  newly : Report.shown .newly summary = (rowsOf settings reports).countP (·.finding.status = .newly)
  total : (rowsOf settings reports).length = Report.shown .limited summary + Report.shown .newly summary
  ok : summary = "Baseline: OK".toList ↔ rowsOf settings reports = []
  status : run.status = if request.strict ∧ rowsOf settings reports ≠ [] then 1 else 0
  /-- What is hidden has no line and no count. -/
  hidden : settings.severityForLimited = .none →
    Report.shown .limited summary = 0 ∧ ∀ row ∈ rowsOf settings reports, row.finding.status = .newly

theorem status_of_hidden {reports : List FileReport} {row : Row} (h : settings.severityForLimited = .none)
    (hrow : row ∈ rowsOf settings reports) : row.finding.status = .newly := by
  have hsome := isSome_severityFor_of_mem_rowsOf hrow
  cases hstatus : row.finding.status with
  | newly => rfl
  | widely =>
    rw [hstatus] at hsome
    cases hsome
  | limited =>
    rw [hstatus, Settings.severityFor, if_pos h] at hsome
    cases hsome

/-- The summary of the findings in reports agrees with their lines. -/
theorem isReport_summary {world : World} {request : ScanRequest} {run : Run} {reports : List FileReport}
    (hfiles : List.Forall₂
      (fun path report => report.IsOf world settings run.published request.language path)
      request.paths reports)
    (hout : run.out = (reports.flatMap (·.lines settings)).flatMap plainLines ++
      plainLines (Report.summary (reports.flatMap (·.findings))))
    (hstatus : run.status =
      if request.strict && !(reports.flatMap (·.findings)).isEmpty then 1 else 0) :
    IsReport world request settings run reports (Report.summary (reports.flatMap (·.findings))) := by
  have hcount := count_findings hfiles
  have hlimited := (Report.shown_summary (by decide : Status.limited ≠ .widely) _).trans (hcount .limited)
  have hnewly := (Report.shown_summary (by decide : Status.newly ≠ .widely) _).trans (hcount .newly)
  have hlength := length_rowsOf settings reports
  refine ⟨hfiles, ?_, hlimited, hnewly, ?_, ?_, ?_, fun hnone => ⟨?_, fun row => status_of_hidden hnone⟩⟩
  · rw [hout, plainLines_of_all (Report.all_summary _)]
  · rw [hlimited, hnewly, hlength]
  · rw [Report.summary_eq_ok_iff, hcount, hcount, ← List.length_eq_zero_iff]
    omega
  · rw [hstatus, ← finding_rowsOf hfiles]
    simp
  · rw [hlimited, List.countP_eq_zero]
    intro row hrow
    simp [status_of_hidden hnone hrow]

/-- **A report agrees with its summary and its status.** A scan that ends without an error has written a
report on each file and then a summary. The summary shows the numbers of lines for findings, by tier; it is
the one without counts if there is no such line, and otherwise a strict run has the status one. -/
theorem runScan_report (world : World) (request : ScanRequest) (h : (runScan world request).Succeeds) :
    ∃ settings reports summary,
      (loadIndex world request.sources request.severity).2 = .ok settings ∧
      IsReport world request settings (runScan world request) reports summary := by
  have hsilent := loadIndex_silent world request.sources request.severity
  unfold runScan at h ⊢
  generalize loadIndex world request.sources request.severity = load at h hsilent ⊢
  obtain ⟨run, loaded⟩ := load
  cases loaded with
  | error f => exact absurd h (not_succeeds_failWith run f)
  | ok settings =>
    simp only at h hsilent ⊢
    cases hscan : scanFiles world settings run.published request.language request.paths with
    | mk reports failure =>
      rw [hscan] at h
      cases failure with
      | some f => exact absurd h (not_succeeds_failWith _ f)
      | none =>
        refine ⟨settings, reports, _, rfl, isReport_summary ?_ ?_ ?_⟩
        · have hfiles := forall₂_of_scanFiles hscan
          simp only
          split <;> exact hfiles
        · simp only
          split <;> simp [Run.addOut, hsilent.1]
        · simp only
          split <;> simp_all [Run.addOut]

/-- A strict run over a style sheet and a file of no known language. -/
theorem runScan_report_gap :
    let record : Text :=
      "\x7b\"name\":\"F\",\"status\":\x7b\"baseline\":\"low\"\x7d,\"compat_features\":[\"css.properties.gap\"]\x7d"
    let dataset : Text := "\x7b\"features\":\x7b\"f\":" ++ record ++ "\x7d\x7d"
    let world : World := { files := .ofList "/work" [("d.json", .file (Text.Utf8.encode dataset)),
      ("a.css", .file (Text.Utf8.encode "a\x7bgap:1px\x7d"))] }
    let request : ScanRequest := ⟨["a.css", "b.txt"], ⟨"d.json", none, [], none⟩, none, none, true⟩
    (runScan world request).Succeeds ∧ ∃ settings reports summary,
      IsReport world request settings (runScan world request) reports summary ∧
      Report.shown .newly summary = 1 ∧ rowsOf settings reports ≠ [] := by
  intro record dataset world request
  have hrun : (runScan world request).Succeeds ∧
      (runScan world request).out.getLast? = some "Baseline Lite: 1 newly".toList := by decide +kernel
  obtain ⟨hsucceeds, hlast⟩ := hrun
  obtain ⟨settings, reports, summary, -, hreport⟩ := runScan_report world request hsucceeds
  have hsummary : summary = "Baseline Lite: 1 newly".toList := by
    rw [hreport.out, List.getLast?_concat] at hlast
    exact Option.some.inj hlast
  have hshown : Report.shown .newly summary = 1 := by
    rw [hsummary]
    rfl
  refine ⟨hsucceeds, settings, reports, summary, hreport, hshown, fun hnil => ?_⟩
  have hnewly := hreport.newly
  rw [hnil, hshown] at hnewly
  cases hnewly

end WebBaseline.CommandLine
