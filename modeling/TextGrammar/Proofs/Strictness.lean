import TextGrammar.Command.Run
import TextGrammar.Proofs.Evaluation
import TextGrammar.Proofs.ReadingBack
/-!
# Strict runs

A strict run asks that all of the text is consumed. It takes the same way as a run that does not,
and only what is left over decides between their reports. What the reports say about the text rests
on the cursor at which a parse stops.
-/
namespace TextGrammar

theorem RuleSet.parse_located [Engine] [Targets] (set : RuleSet) (rule : String)
    (text : List Char) :
    (∀ parsed, set.parse rule text = .ok parsed → parsed.rest.IsIn text) ∧
    ∀ failure position, set.parse rule text = .error failure →
      failure.position? = some position → IsBoundary text position := by
  rw [parse]
  cases set.rules.find? rule with
  | none =>
    constructor
    · intro parsed h
      cases h
    · rintro _ _ ⟨⟩ ⟨⟩
  | some grammar =>
    have hlocated := (evaluates_matchNode set.matcher grammar (Object.record rule)
      (Cursor.start text)).located (.refl _) trivial
    simp only [Matcher.parseObject, Matcher.parseInto]
    rcases hmatch : set.matcher.matchNode grammar (Object.record rule) (Cursor.start text) with
      ⟨failed | ⟨yield, rest⟩, object⟩ <;> rw [hmatch] at hlocated
    · constructor
      · intro parsed h
        cases h
      · rintro _ position ⟨⟩ hposition
        obtain ⟨place, hplace, rfl⟩ := hlocated position hposition
        exact Cursor.IsIn.isBoundary hplace
    · constructor
      · rintro _ ⟨⟩
        exact hlocated
      · intro failure position h
        cases h

theorem Cursor.IsIn.isAtEnd_iff_offset {cursor : Cursor} {text : List Char}
    (h : cursor.IsIn text) : cursor.isAtEnd = true ↔ cursor.offset = byteLength text := by
  have hle := h.isBoundary.le_byteLength
  rw [h.isAtEnd_iff]
  omega

section Reports

variable {outcome : Except Failure Parsed} {parsed : Parsed} {strict : Bool} {text : List Char}

theorem reportParse_of_complete (h : parsed.isComplete = true) :
    reportParse (.ok parsed) strict text = .ok (.ofParsed parsed) := by
  simp [reportParse, Parsed.demand, h]

theorem reportParse_of_leftOver (h : parsed.isComplete = false) :
    reportParse (.ok parsed) true text =
      .error (.ofFailure (.trailingInput parsed.rest.offset) text) := by
  simp [reportParse, Parsed.demand, h]

theorem strict_report_iff (hin : ∀ parsed, outcome = .ok parsed → parsed.rest.IsIn text)
    (report : ParseReport) :
    reportParse outcome true text = .ok report ↔
      reportParse outcome false text = .ok report ∧ report.consumed = byteLength text := by
  rcases outcome with failure | parsed
  · exact ⟨nofun, nofun⟩
  · have hend : parsed.isComplete = true ↔ parsed.rest.offset = byteLength text :=
      (hin parsed rfl).isAtEnd_iff_offset
    cases hcomplete : parsed.isComplete with
    | true =>
      rw [reportParse_of_complete hcomplete, reportParse_of_complete hcomplete]
      constructor
      · rintro ⟨⟩
        exact ⟨rfl, hend.mp hcomplete⟩
      · exact And.left
    | false =>
      rw [reportParse_of_leftOver hcomplete]
      constructor
      · nofun
      · rintro ⟨⟨⟩, hconsumed⟩
        exact absurd (hend.mpr hconsumed) (Bool.eq_false_iff.mp hcomplete)

/-- Left-over input is reported where the other report says that the parse stopped. -/
theorem strict_report_of_leftOver (hin : ∀ parsed, outcome = .ok parsed → parsed.rest.IsIn text)
    {report : ParseReport} (h : reportParse outcome false text = .ok report)
    (hleft : report.consumed ≠ byteLength text) :
    reportParse outcome true text =
        .error (.ofFailure (.trailingInput report.consumed) text) ∧
      ∃ parsed, outcome = .ok parsed ∧
        parsed.complete = .error (.trailingInput report.consumed) := by
  rcases outcome with failure | parsed
  · cases h
  · cases h
    have hcomplete : parsed.isComplete = false :=
      Bool.eq_false_iff.mpr fun hend => hleft ((hin parsed rfl).isAtEnd_iff_offset.mp hend)
    refine ⟨reportParse_of_leftOver hcomplete, parsed, rfl, ?_⟩
    rw [Parsed.complete, hcomplete]
    rfl

theorem strict_report_of_error {report : FailureReport}
    (h : reportParse outcome false text = .error report) :
    reportParse outcome true text = .error report := by
  rcases outcome with failure | parsed
  · exact h
  · cases h

theorem Parsed.demand_cases (parsed : Parsed) (strict : Bool) :
    parsed.demand strict = .ok parsed ∨
      parsed.demand strict = .error (.trailingInput parsed.rest.offset) := by
  rw [demand]
  split
  · exact .inr rfl
  · exact .inl rfl

theorem reportParse_eq_ok {report : ParseReport}
    (h : reportParse outcome strict text = .ok report) :
    ∃ parsed, outcome = .ok parsed ∧ report = .ofParsed parsed := by
  rcases outcome with failure | parsed
  · cases h
  · rcases parsed.demand_cases strict with hdemand | hdemand <;>
      simp only [reportParse, hdemand] at h <;> cases h
    exact ⟨parsed, rfl, rfl⟩

theorem reportParse_eq_error {report : FailureReport}
    (h : reportParse outcome strict text = .error report) :
    ∃ failure, report = .ofFailure failure text ∧
      (outcome = .error failure ∨
        ∃ parsed, outcome = .ok parsed ∧ failure = .trailingInput parsed.rest.offset) := by
  rcases outcome with failure | parsed
  · cases h
    exact ⟨failure, rfl, .inl rfl⟩
  · rcases parsed.demand_cases strict with hdemand | hdemand <;>
      simp only [reportParse, hdemand] at h <;> cases h
    exact ⟨_, rfl, .inr ⟨parsed, rfl, rfl⟩⟩

theorem report_partitions (hin : ∀ parsed, outcome = .ok parsed → parsed.rest.IsIn text)
    {report : ParseReport} (h : reportParse outcome strict text = .ok report) :
    (∃ before, text = before ++ report.remaining.toList ∧ report.consumed = byteLength before) ∧
      (report.complete = true ↔ report.remaining = "") := by
  obtain ⟨parsed, houtcome, rfl⟩ := reportParse_eq_ok h
  obtain ⟨before, htext, hoffset⟩ := Cursor.isIn_iff.mp (hin parsed houtcome)
  refine ⟨⟨before, ?_, hoffset⟩, ?_⟩
  · rw [ParseReport.ofParsed, String.toList_ofList]
    exact htext
  · simp [ParseReport.ofParsed, Parsed.isComplete, Cursor.isAtEnd]

theorem report_locates (hin : ∀ parsed, outcome = .ok parsed → parsed.rest.IsIn text)
    (hat : ∀ failure position, outcome = .error failure → failure.position? = some position →
      IsBoundary text position)
    {report : FailureReport} (h : reportParse outcome strict text = .error report) {offset : Nat}
    (hoffset : report.offset = some offset) :
    IsBoundary text offset ∧ report.location = some (Location.locate text offset) := by
  obtain ⟨failure, rfl, hfailure⟩ := reportParse_eq_error h
  have hposition : failure.position? = some offset := hoffset
  refine ⟨?_, by rw [FailureReport.ofFailure, hposition, Option.map_some]⟩
  rcases hfailure with houtcome | ⟨parsed, houtcome, rfl⟩
  · exact hat failure offset houtcome hposition
  · cases hposition
    exact (hin parsed houtcome).isBoundary

end Reports

namespace Command

def Source.content (contents : Input → Except ReadError String) :
    Source → Except ReadError String
  | .text given => .ok given
  | .file path => contents (.file path)
  | .stdin => contents .stdin

def Source.unreadable (error : ReadError) : Source → Option RunError
  | .text _ => none
  | .file path => some (.unreadableFile path error)
  | .stdin => some (.unreadableStdin error)

def Loads [Engine] (contents : Input → Except ReadError String) (grammar : String)
    (set : RuleSet) : Prop :=
  ∃ content, contents (.file grammar) = .ok content ∧ loadRules grammar content = .ok set

/-- The inputs of a run give a loaded rule set, the name of a rule and a text. -/
def Provides [Engine] (contents : Input → Except ReadError String) (grammar : String)
    (rule : Option String) (source : Source) (set : RuleSet) (name text : String) : Prop :=
  Loads contents grammar set ∧ rule.or set.start = some name ∧ source.content contents = .ok text

/-- The inputs of a run leave it without a rule set, a rule or a text, for which it has an error. -/
inductive Lacks [Engine] (contents : Input → Except ReadError String) (grammar : String)
    (rule : Option String) (source : Source) : RunError → Prop
  | grammar {error} : contents (.file grammar) = .error error →
    Lacks contents grammar rule source (.unreadableGrammar grammar error)
  | rules {content error} : contents (.file grammar) = .ok content →
    loadRules grammar content = .error error → Lacks contents grammar rule source error
  | rule {set} : Loads contents grammar set → rule.or set.start = none →
    Lacks contents grammar rule source (.noRule grammar)
  | text {set name reason error} : Loads contents grammar set → rule.or set.start = some name →
    source.content contents = .error reason → source.unreadable reason = some error →
    Lacks contents grammar rule source error

def loadedRecord (grammar : String) : Log.Record :=
  logged "config" s!"loaded grammar file {grammar}"

theorem toResult_status_eq_zero_iff {outcome : RunOutcome} {filter : Log.Filter} :
    (outcome.toResult filter).status = 0 ↔ outcome.error = none := by
  cases herror : outcome.error <;> simp [RunOutcome.toResult, herror]

section Runs

variable {contents : Input → Except ReadError String} {grammar : String} {rule : Option String}
  {source : Source} {set : RuleSet} {name text : String} {error : RunError}

theorem run_withText (h : source.content contents = .ok text)
    (next : String → Reading RunOutcome) :
    (withText source next).run contents = (next text).run contents := by
  cases source with
  | text given =>
    cases h
    rfl
  | file path =>
    have hread : contents (.file path) = .ok text := h
    simp only [withText, Reading.run, hread]
  | stdin =>
    have hread : contents .stdin = .ok text := h
    simp only [withText, Reading.run, hread]

theorem run_withText_of_unreadable {reason : ReadError}
    (h : source.content contents = .error reason) (herror : source.unreadable reason = some error)
    (next : String → Reading RunOutcome) :
    (withText source next).run contents = .failed error := by
  cases source with
  | text given => cases h
  | file path =>
    have hread : contents (.file path) = .error reason := h
    cases herror
    simp only [withText, Reading.run, hread]
  | stdin =>
    have hread : contents .stdin = .error reason := h
    cases herror
    simp only [withText, Reading.run, hread]

variable [Engine]

theorem run_withRules (h : Loads contents grammar set) (next : RuleSet → Reading RunOutcome) :
    (withRules grammar next).run contents =
      ((next set).run contents).logAbove [loadedRecord grammar] := by
  obtain ⟨content, hcontent, hset⟩ := h
  simp only [withRules, Reading.run, Reading.run_map, hcontent, hset, loadedRecord]

theorem provides_or_lacks (contents : Input → Except ReadError String) (grammar : String)
    (rule : Option String) (source : Source) :
    (∃ set name text, Provides contents grammar rule source set name text) ∨
      ∃ error, Lacks contents grammar rule source error := by
  cases hcontent : contents (.file grammar) with
  | error error => exact .inr ⟨_, .grammar hcontent⟩
  | ok content =>
    cases hset : loadRules grammar content with
    | error error => exact .inr ⟨error, .rules hcontent hset⟩
    | ok set =>
      have hloads : Loads contents grammar set := ⟨content, hcontent, hset⟩
      cases hname : rule.or set.start with
      | none => exact .inr ⟨_, .rule hloads hname⟩
      | some name =>
        cases htext : source.content contents with
        | ok text => exact .inl ⟨set, name, text, hloads, hname, htext⟩
        | error reason =>
          obtain ⟨error, herror⟩ : ∃ error, source.unreadable reason = some error := by
            cases source with
            | text given => cases htext
            | file path => exact ⟨_, rfl⟩
            | stdin => exact ⟨_, rfl⟩
          exact .inr ⟨error, .text hloads hname htext herror⟩

variable [Targets]

theorem run_of_provides (h : Provides contents grammar rule source set name text) (strict : Bool)
    (mode : OutputMode) :
    (parse grammar rule strict source mode).run contents =
      (parseText set name strict mode text).logAbove [loadedRecord grammar] := by
  obtain ⟨hset, hname, htext⟩ := h
  rw [parse, run_withRules hset, hname]
  simp only [run_withText htext, Reading.run]

theorem run_of_lacks (h : Lacks contents grammar rule source error) :
    ∃ log, ∀ strict mode, (parse grammar rule strict source mode).run contents =
      (RunOutcome.failed error).logAbove log := by
  cases h with
  | grammar hcontent =>
    refine ⟨[], fun strict mode => ?_⟩
    simp only [parse, withRules, Reading.run, hcontent, RunOutcome.logAbove, List.nil_append]
  | rules hcontent herror =>
    -- A file that was read is on record also where it gives no rules.
    refine ⟨[loadedRecord grammar], fun strict mode => ?_⟩
    simp only [parse, withRules, Reading.run, Reading.map, hcontent, herror, loadedRecord]
  | rule hset hname =>
    refine ⟨[loadedRecord grammar], fun strict mode => ?_⟩
    rw [parse, run_withRules hset, hname]
    rfl
  | text hset hname htext herror =>
    refine ⟨[loadedRecord grammar], fun strict mode => ?_⟩
    rw [parse, run_withRules hset, hname]
    simp only [run_withText_of_unreadable htext herror]

end Runs

section Endings

variable [Engine] [Targets]

theorem parseText_of_ok {set : RuleSet} {rule : String} {strict : Bool} {text : String}
    {report : ParseReport}
    (h : reportParse (set.parse rule text.toList) strict text.toList = .ok report)
    (mode : OutputMode) :
    (parseText set rule strict mode text).output = report.render mode ∧
      (parseText set rule strict mode text).error = none := by
  simp only [parseText, h, and_self]

theorem parseText_of_error {set : RuleSet} {rule : String} {strict : Bool} {text : String}
    {report : FailureReport}
    (h : reportParse (set.parse rule text.toList) strict text.toList = .error report)
    (mode : OutputMode) :
    (parseText set rule strict mode text).output = report.render mode ∧
      (parseText set rule strict mode text).error = some (.noMatch rule) := by
  simp only [parseText, h, and_self]

theorem parseText_error_eq_none_iff {set : RuleSet} {rule : String} {strict : Bool}
    {mode : OutputMode} {text : String} :
    (parseText set rule strict mode text).error = none ↔
      ∃ report, reportParse (set.parse rule text.toList) strict text.toList = .ok report := by
  cases hreport : reportParse (set.parse rule text.toList) strict text.toList with
  | ok report => simp [(parseText_of_ok hreport mode).2]
  | error report => simp [(parseText_of_error hreport mode).2]

theorem parseText_error_eq_of_mode (set : RuleSet) (rule : String) (strict : Bool) (text : String)
    (mode mode' : OutputMode) :
    (parseText set rule strict mode text).error = (parseText set rule strict mode' text).error := by
  cases hreport : reportParse (set.parse rule text.toList) strict text.toList with
  | ok report => rw [(parseText_of_ok hreport mode).2, (parseText_of_ok hreport mode').2]
  | error report => rw [(parseText_of_error hreport mode).2, (parseText_of_error hreport mode').2]

theorem parseText_strict_eq (set : RuleSet) (rule : String) (mode : OutputMode) {text : String}
    (h : (parseText set rule true mode text).error = none ∨
      (parseText set rule false mode text).error ≠ none) :
    parseText set rule true mode text = parseText set rule false mode text := by
  have hin := (set.parse_located rule text.toList).1
  have hreport : reportParse (set.parse rule text.toList) true text.toList =
      reportParse (set.parse rule text.toList) false text.toList := by
    rcases h with h | h
    · obtain ⟨report, hreport⟩ := parseText_error_eq_none_iff.mp h
      rw [hreport, ((strict_report_iff hin report).mp hreport).1]
    · cases hreport : reportParse (set.parse rule text.toList) false text.toList with
      | ok report => exact absurd (parseText_error_eq_none_iff.mpr ⟨report, hreport⟩) h
      | error report => exact strict_report_of_error hreport
  simp only [parseText, hreport]

section Statuses

variable {contents : Input → Except ReadError String} {grammar : String} {rule : Option String}
  {source : Source} {set : RuleSet} {name text : String} {mode : OutputMode} {filter : Log.Filter}

theorem status_eq_zero_iff_of_provides {strict : Bool}
    (h : Provides contents grammar rule source set name text) :
    (((parse grammar rule strict source mode).run contents).toResult filter).status = 0 ↔
      (parseText set name strict mode text).error = none := by
  rw [toResult_status_eq_zero_iff, run_of_provides h]
  rfl

theorem strict_status_iff (h : Provides contents grammar rule source set name text) :
    (((parse grammar rule true source mode).run contents).toResult filter).status = 0 ↔
      (((parse grammar rule false source mode).run contents).toResult filter).status = 0 ∧
        ∃ printed, reportParse (set.parse name text.toList) false text.toList = .ok printed ∧
          printed.consumed = byteLength text.toList := by
  have hin := (set.parse_located name text.toList).1
  rw [status_eq_zero_iff_of_provides h, status_eq_zero_iff_of_provides h,
    parseText_error_eq_none_iff, parseText_error_eq_none_iff]
  constructor
  · rintro ⟨printed, hprinted⟩
    have hlax := (strict_report_iff hin printed).mp hprinted
    exact ⟨⟨printed, hlax.1⟩, printed, hlax⟩
  · rintro ⟨_, printed, hlax⟩
    exact ⟨printed, (strict_report_iff hin printed).mpr hlax⟩

theorem run_strict_eq (h : Provides contents grammar rule source set name text)
    (hstatus : (((parse grammar rule true source mode).run contents).toResult filter).status = 0 ∨
      (((parse grammar rule false source mode).run contents).toResult filter).status ≠ 0) :
    (parse grammar rule true source mode).run contents =
      (parse grammar rule false source mode).run contents := by
  rw [ne_eq, status_eq_zero_iff_of_provides h, status_eq_zero_iff_of_provides h] at hstatus
  rw [run_of_provides h, run_of_provides h, parseText_strict_eq set name mode hstatus]

end Statuses

theorem status_eq_of_mode (contents : Input → Except ReadError String) (grammar : String)
    (rule : Option String) (source : Source) (strict : Bool) (mode mode' : OutputMode)
    (filter : Log.Filter) :
    (((parse grammar rule strict source mode).run contents).toResult filter).status =
      (((parse grammar rule strict source mode').run contents).toResult filter).status := by
  have herror : ((parse grammar rule strict source mode).run contents).error =
      ((parse grammar rule strict source mode').run contents).error := by
    rcases provides_or_lacks contents grammar rule source with
      ⟨set, name, text, hprovides⟩ | ⟨error, hlacks⟩
    · rw [run_of_provides hprovides, run_of_provides hprovides]
      exact parseText_error_eq_of_mode set name strict text mode mode'
    · obtain ⟨log, hrun⟩ := run_of_lacks hlacks
      rw [hrun, hrun]
  simp only [RunOutcome.toResult, herror]

/-- Strict and other runs agree. A run prints the report of its parse. There is a strict report
exactly where the other report says that all of the text was consumed, and then it is the same.
Where something is left over, a strict run fails at the offset at which the other one stopped, as
`Parsed.complete` does; where the other run fails, it fails alike. Reports divide the text into what
was consumed and what remains, and failures are located in it. A command whose inputs provide rules,
a rule and a text comes to that parse, and succeeds strictly exactly if it succeeds otherwise and
consumed the text; one that lacks something stops with the error for it, strict or not. No run
depends on the mode in how it ends. -/
theorem strict_runs_agree :
    (∀ (set : RuleSet) (rule text : String),
      let report := fun strict => reportParse (set.parse rule text.toList) strict text.toList
      let run := fun strict mode => parseText set rule strict mode text
      (∀ strict mode,
        (∀ printed, report strict = .ok printed →
          (run strict mode).output = printed.render mode ∧ (run strict mode).error = none) ∧
        ∀ printed, report strict = .error printed →
          (run strict mode).output = printed.render mode ∧
            (run strict mode).error = some (.noMatch rule)) ∧
      (∀ printed, report true = .ok printed ↔
        report false = .ok printed ∧ printed.consumed = byteLength text.toList) ∧
      (∀ printed, report false = .ok printed → printed.consumed ≠ byteLength text.toList →
        report true = .error (.ofFailure (.trailingInput printed.consumed) text.toList) ∧
          ∃ parsed, set.parse rule text.toList = .ok parsed ∧
            parsed.complete = .error (.trailingInput printed.consumed)) ∧
      (∀ printed, report false = .error printed → report true = .error printed) ∧
      (∀ strict printed, report strict = .ok printed →
        (∃ before, text.toList = before ++ printed.remaining.toList ∧
          printed.consumed = byteLength before) ∧
        (printed.complete = true ↔ printed.remaining = "")) ∧
      ∀ strict printed offset, report strict = .error printed → printed.offset = some offset →
        IsBoundary text.toList offset ∧ offset ≤ byteLength text.toList ∧
          printed.location = some (Location.locate text.toList offset)) ∧
    ∀ (contents : Input → Except ReadError String) (grammar : String) (rule : Option String)
      (source : Source),
      let run := fun strict mode => (parse grammar rule strict source mode).run contents
      let status := fun strict mode filter => ((run strict mode).toResult filter).status
      (∀ set name text, Provides contents grammar rule source set name text →
        (∀ strict mode, run strict mode =
          (parseText set name strict mode text).logAbove [loadedRecord grammar]) ∧
        ∀ mode filter,
          (status true mode filter = 0 ↔ status false mode filter = 0 ∧
            ∃ printed, reportParse (set.parse name text.toList) false text.toList = .ok printed ∧
              printed.consumed = byteLength text.toList) ∧
          (status true mode filter = 0 ∨ status false mode filter ≠ 0 →
            run true mode = run false mode)) ∧
      ((¬ ∃ set name text, Provides contents grammar rule source set name text) →
        ∃ error log, Lacks contents grammar rule source error ∧
          ∀ strict mode, run strict mode = (RunOutcome.failed error).logAbove log) ∧
      ∀ strict mode mode' filter, status strict mode filter = status strict mode' filter := by
  constructor
  · intro set rule text report run
    obtain ⟨hin, hat⟩ := set.parse_located rule text.toList
    refine ⟨?_, ?_, ?_, ?_, ?_, ?_⟩
    · exact fun strict mode =>
        ⟨fun _ h => parseText_of_ok h mode, fun _ h => parseText_of_error h mode⟩
    · exact strict_report_iff hin
    · exact fun _ h hleft => strict_report_of_leftOver hin h hleft
    · exact fun _ h => strict_report_of_error h
    · exact fun _ _ h => report_partitions hin h
    · intro strict printed offset h hoffset
      obtain ⟨hboundary, hlocation⟩ := report_locates hin hat h hoffset
      exact ⟨hboundary, hboundary.le_byteLength, hlocation⟩
  · intro contents grammar rule source run status
    refine ⟨?_, ?_, ?_⟩
    · intro set name text hprovides
      exact ⟨run_of_provides hprovides,
        fun _ _ => ⟨strict_status_iff hprovides, run_strict_eq hprovides⟩⟩
    · intro hnone
      obtain ⟨error, hlacks⟩ := (provides_or_lacks contents grammar rule source).resolve_left hnone
      obtain ⟨log, hrun⟩ := run_of_lacks hlacks
      exact ⟨error, log, hlacks, hrun⟩
    · exact status_eq_of_mode contents grammar rule source

end Endings

/-- A command with a grammar file and two characters on its standard input. The first of them takes
two bytes, so a strict run fails at the second byte offset and the second column. -/
theorem strict_runs_agree_leftOver :
    let file : GrammarFile :=
      ⟨some "item", defaultMaxDepth, [("item", .attribute "x" (.terminal "é"))]⟩
    let set : RuleSet :=
      { rules := [("item", .attribute "x" (.terminal "é"))], start := some "item" }
    let contents : Input → Except ReadError String := fun
      | .file _ => .ok (Json.compact file.toDocument)
      | .stdin => .ok "éa"
    let run := fun strict => (parse "item.json" none strict .stdin .human).run contents
    let report := fun strict => reportParse (set.parse "item" "éa".toList) strict "éa".toList
    let lax : ParseReport := .ofParsed ⟨⟨"item", .record, [("x", .text "é")]⟩, ⟨2, ['a']⟩⟩
    let failed : FailureReport := .ofFailure (.trailingInput 2) "éa".toList
    Provides contents "item.json" none .stdin set "item" "éa" ∧
      report false = .ok lax ∧ lax.consumed = 2 ∧
      (run false).output = lax.render .human ∧ (run false).error = none ∧
      report true = .error failed ∧ failed.location = some ⟨1, 2⟩ ∧
      (run true).output = failed.render .human ∧ (run true).error = some (.noMatch "item") ∧
      (∀ filter, ((run true).toResult filter).status ≠ 0) ∧
      ∃ before, "éa".toList = before ++ lax.remaining.toList ∧
        lax.consumed = byteLength before := by
  intro file set contents run report lax failed
  obtain ⟨hreports, hcommands⟩ := strict_runs_agree
  obtain ⟨hprints, _, hleft, _, hparts, _⟩ := hreports set "item" "éa"
  have hload : loadRules "item.json" (Json.compact file.toDocument) = .ok set := by
    let item : Document := .object [("attribute", .object [("name", .string "x"),
      ("part", .object [("terminal", .string "é")])])]
    let document : Document :=
      .object [("start", .string "item"), ("rules", .object [("item", item)])]
    have hfile : GrammarFile.ofDocument? .json document = some file := by rfl
    have hread := GrammarFile.readJson_compact_toDocument (by decide) hfile
    have hjson : isJsonPath "item.json" = true := by decide
    simp only [loadRules, decodeGrammar, hjson, if_true, hread, Option.elim]
    rfl
  have hprovides : Provides contents "item.json" none .stdin set "item" "éa" :=
    ⟨⟨_, rfl, hload⟩, rfl, rfl⟩
  obtain ⟨hrun, hstatus⟩ := (hcommands contents "item.json" none .stdin).1 set "item" "éa" hprovides
  have hlax : report false = .ok lax := by rfl
  have hstrict := (hleft lax hlax (by decide)).1
  have hends (strict : Bool) : run strict =
      (parseText set "item" strict .human "éa").logAbove [loadedRecord "item.json"] :=
    hrun strict .human
  obtain ⟨houtput, herror⟩ := (hprints false .human).1 lax hlax
  obtain ⟨houtput', herror'⟩ := (hprints true .human).2 failed hstrict
  rw [hends false, hends true]
  refine ⟨hprovides, hlax, rfl, houtput, herror, hstrict, by rfl, houtput', herror', ?_,
    (hparts false lax hlax).1⟩
  intro filter hzero
  rw [← hends true] at hzero
  obtain ⟨_, printed, hprinted, hconsumed⟩ := (hstatus .human filter).1.mp hzero
  cases hlax.symm.trans hprinted
  exact absurd hconsumed (by decide)

end Command

end TextGrammar
