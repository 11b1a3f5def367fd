import TerseMarkup.Command.Outcome
import TerseMarkup.Proofs.Command.Arguments
import TerseMarkup.Proofs.Source.Lines

/-!
# The commands agree

The three commands read their arguments, their configuration and their source
in the same way. Without definitions on the command line, checking a source
prints what compiling it to HTML reports, and showing its tree reports the
first part of that.
-/

namespace TerseMarkup.Command

/-! ## Carrying out a request -/

section CarriedOut

variable {surroundings : Surroundings} {request : Request}
  {configuration : Configuration} {source : String}

/-- The configuration depends on nothing in a request but its file. -/
theorem Request.configuration_of_config_eq {other : Request}
    (same : other.config = request.config) :
    other.configuration surroundings = request.configuration surroundings := by
  unfold Request.configuration
  rw [same]

theorem Request.bindings_of_undefined (undefined : request.definitions = []) :
    request.bindings configuration = configuration.bindings := by
  rw [Request.bindings, undefined, List.foldl_nil]

theorem run_of_read {arguments : List String} {verb : Verb}
    (read : Invocation.read arguments = .ok (.run verb request))
    (loaded : request.configuration surroundings = .ok configuration)
    (readable : surroundings.source request.path = .ok source) :
    run arguments surroundings =
      request.outcomeOn verb configuration source := by
  rw [run, read]
  simp only [Invocation.outcome, Request.outcome, loaded, readable]

end CarriedOut

/-! ## What is printed -/

/-- The lines of a text that is printed. An empty stretch behind the last line
feed is not a line. -/
def printedLines (text : String) : List Line :=
  let stretches := Line.stretches text.toList
  if stretches.getLast? = some [] then stretches.dropLast else stretches

namespace Outcome

theorem stretches_reportLines (diagnostics : List Diagnostic) :
    Line.stretches (reportLines diagnostics).toList =
      diagnostics.flatMap (fun report =>
        Line.stretches report.display.toList) ++ [[]] := by
  induction diagnostics with
  | nil => rfl
  | cons report rest inductionHypothesis =>
      have text : (reportLines (report :: rest)).toList =
          report.display.toList ++ '\n' :: (reportLines rest).toList := by
        simp [reportLines, String.toList_join]
      rw [text, Line.stretches_append, inductionHypothesis, List.flatMap_cons,
        List.append_assoc]

theorem printedLines_reportLines (diagnostics : List Diagnostic) :
    printedLines (reportLines diagnostics) =
      diagnostics.flatMap (fun report =>
        Line.stretches report.display.toList) := by
  rw [printedLines, stretches_reportLines, List.getLast?_concat]
  simp only [if_true, List.dropLast_concat]

theorem printedLines_prefix_append (first second : List Diagnostic) :
    printedLines (reportLines first) <+:
      printedLines (reportLines (first ++ second)) := by
  rw [printedLines_reportLines, printedLines_reportLines, List.flatMap_append]
  exact List.prefix_append _ _

theorem codeOf_eq (diagnostics : List Diagnostic) :
    codeOf diagnostics = if diagnostics = [] then 0 else 1 := by
  simp only [codeOf, List.isEmpty_iff]

theorem codeOf_append_of_reported {first : List Diagnostic}
    (second : List Diagnostic) (reported : codeOf first = 1) :
    codeOf (first ++ second) = 1 := by
  cases first with
  | nil => contradiction
  | cons report rest => rfl

end Outcome

/-- The three commands on one source and one configuration agree: checking
prints what compiling to HTML reports, with the same exit code, and showing
the tree reports the first lines of that. -/
theorem run_agrees
    (surroundings : Surroundings) (compiling checking showing : List String)
    (compiled checked shown : Request)
    (configuration : Configuration) (source : String)
    (compiles : Invocation.read compiling = .ok (.run .compile compiled))
    (checks : Invocation.read checking = .ok (.run .check checked))
    (shows : Invocation.read showing = .ok (.run .tree shown))
    (isHtml : compiled.format = .html) (undefined : compiled.definitions = [])
    (samePath : checked.path = compiled.path ∧ shown.path = compiled.path)
    (sameConfig :
      checked.config = compiled.config ∧ shown.config = compiled.config)
    (loaded : compiled.configuration surroundings = .ok configuration)
    (readable : surroundings.source compiled.path = .ok source) :
    let compilation :=
      compile configuration.compile configuration.bindings.evaluator source
    (run checking surroundings).output = (run compiling surroundings).errors ∧
      (run checking surroundings).code = (run compiling surroundings).code ∧
      (run compiling surroundings).code =
        (if compilation.diagnostics = [] then 0 else 1) ∧
      printedLines (run showing surroundings).errors <+:
        printedLines (run compiling surroundings).errors ∧
      ((run showing surroundings).code = 1 →
        (run compiling surroundings).code = 1 ∧
          (run checking surroundings).code = 1) := by
  intro compilation
  have undefinedChecked : checked.definitions = [] :=
    Invocation.definitions_of_read (by decide) checks
  have compileRun : run compiling surroundings =
      compileOutcome .html compilation := by
    rw [run_of_read compiles loaded readable, Request.outcomeOn, isHtml,
      Request.bindings_of_undefined undefined]
  have checkRun : run checking surroundings = checkOutcome compilation := by
    rw [run_of_read checks
        ((Request.configuration_of_config_eq sameConfig.1).trans loaded)
        (samePath.1 ▸ readable),
      Request.outcomeOn, Request.bindings_of_undefined undefinedChecked]
  have showRun : run showing surroundings =
      treeOutcome shown.format
        (Document.parse configuration.compile source) := by
    rw [run_of_read shows
        ((Request.configuration_of_config_eq sameConfig.2).trans loaded)
        (samePath.2 ▸ readable),
      Request.outcomeOn]
  -- the reports on reading the source come first
  obtain ⟨later, reports⟩ : ∃ later, compilation.diagnostics =
      (Document.parse configuration.compile source).diagnostics ++ later :=
    ⟨_, List.append_assoc _ _ _⟩
  rw [compileRun, checkRun, showRun]
  refine ⟨rfl, rfl, Outcome.codeOf_eq _, ?_, ?_⟩
  · simp only [compileOutcome, treeOutcome, reports]
    exact Outcome.printedLines_prefix_append _ later
  · intro reported
    simp only [compileOutcome, checkOutcome, reports]
    have code := Outcome.codeOf_append_of_reported later reported
    exact ⟨code, code⟩

/-- A token that is no element is reported by all three commands, and a repeat
count above the limit of the configuration by two of them. -/
theorem run_agrees_reported :
    let surroundings : Surroundings :=
      { input := "?\np*3".toUTF8
        file := fun name =>
          if name = "c.toml" then .ok "[compile]\nmax_repeat = 2".toUTF8
          else .error .missing }
    let compiling := ["compile", "-", "--config=c.toml"]
    let checking := ["check", "-c", "c.toml", "--", "-"]
    let showing := ["ast", "-cc.toml", "-", "-f", "yaml"]
    (run checking surroundings).output = (run compiling surroundings).errors ∧
      (run checking surroundings).code = 1 ∧
      printedLines (run showing surroundings).errors <+:
        printedLines (run compiling surroundings).errors ∧
      (printedLines (run showing surroundings).errors).length = 1 ∧
      (printedLines (run compiling surroundings).errors).length = 2 := by
  intro surroundings compiling checking showing
  have agrees := run_agrees surroundings compiling checking showing
    { path := "-", config := some "c.toml" }
    { path := "-", config := some "c.toml" }
    { path := "-", config := some "c.toml", format := .yaml }
    { compile := { maxRepeat := 2 } } "?\np*3"
    (eq_ok_of_toOption (by decide +kernel))
    (eq_ok_of_toOption (by decide +kernel))
    (eq_ok_of_toOption (by decide +kernel)) rfl rfl ⟨rfl, rfl⟩ ⟨rfl, rfl⟩
    (eq_ok_of_toOption (by decide +kernel))
    (eq_ok_of_toOption (by decide +kernel))
  refine ⟨agrees.1, ?_, agrees.2.2.2.1, ?_, ?_⟩
  · decide +kernel
  · decide +kernel
  · decide +kernel

end TerseMarkup.Command
