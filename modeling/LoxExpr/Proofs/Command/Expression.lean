import LoxExpr.Proofs.Command.Console
import LoxExpr.Proofs.Command.Execution

/-!
# An expression on the command line

With the default settings the command prints the outcome of an expression and nothing else. Main
statement `run_expression`: on a console that shows texts as is documented, the printed line is the
output or the diagnostic itself only if that is plain.
-/

namespace LoxExpr.Command

section
variable {console : Console} {s : Surroundings} {settings : Settings}

theorem logs_info_of_logsTrees (h : logsTrees settings = true) : logs settings .info = true := by
  have hlevel : Settings.levelNumber settings.logLevel ≤ Level.number .debug := of_decide_eq_true h
  exact decide_eq_true (hlevel.trans (by decide))

/-- A log that takes no notes of the upper level stays empty. -/
theorem writeLog_of_quiet (hquiet : logs settings .info = false) (notes : List Note) :
    (writeLog settings notes).1 = .nothing := by
  have hnone (level : Level) : logs settings level = false := by
    cases level with
    | info => exact hquiet
    | debug => exact Bool.eq_false_iff.2 fun h => by simp [logs_info_of_logsTrees h] at hquiet
  simp [writeLog, hnone, writeNotes]

/-- Without a log, tokens and trees, a source text prints its outcome only. -/
theorem once_eq_outcome (console : Console) (hquiet : logs settings .info = false)
    (htokens : settings.showTokens = false) (htree : settings.showTree = false) (source : String) :
    ∃ outcome, IsOutcome console source outcome ∧
      once console settings source = ⟨outcome, .exit (sourceCode source)⟩ := by
  obtain ⟨r, hr⟩ := exists_tells source
  have hlogs : ¬logsTrees settings := fun h => by simp [logs_info_of_logsTrees h] at hquiet
  have hwritable : ¬Unwritable settings source := by simp [Unwritable, hlogs, htree]
  obtain ⟨tree, hprint, hexecute⟩ := execute_eq_of_writable console hr hwritable
  have hnothing : tree = .nothing := by
    simpa [printTree, htree, eq_comm] using hprint
  refine ⟨_, isOutcome_printOutcome hr, ?_⟩
  simp [once, hexecute, hnothing, writeLog_of_quiet hquiet, printTokens, htokens,
    exitCode_of_tells hr]

/-- With the default settings, an expression of the command line prints its outcome only. -/
theorem run_eq_outcome (console : Console)
    (hload : Settings.load s none = .ok (Settings.defaults, [])) (source : String)
    (input : UserInput) : ∃ outcome, IsOutcome console source outcome ∧
      run console s (.ofExpression source) input = ⟨outcome, .exit (sourceCode source)⟩ := by
  have hquiet : logs Settings.defaults .info = false := by decide +kernel
  obtain ⟨outcome, houtcome, honce⟩ := once_eq_outcome console hquiet rfl rfl source
  refine ⟨outcome, houtcome, ?_⟩
  have hstart : start console s (.ofExpression source) =
      (.nothing, .finished (once console Settings.defaults source)) := by
    have hnone : (Arguments.ofExpression source).settings.map Path.ofString = none := rfl
    simp only [start, hnone, hload]
    rfl
  simp [run, hstart, honce]

/-- With the default settings, the command prints the output of an expression as a line of standard
output, or its diagnostic as a line of standard error, and on the other stream nothing. On a console
that shows texts as is documented, the line is the text itself, of whatever length, if there are no
tabs, control codes and blanks at line ends in it; with a tab or a control code in the text, it is
not. -/
theorem run_expression (hconsole : console.ShowsTexts)
    (hload : Settings.load s none = .ok (Settings.defaults, [])) (source : String)
    (input : UserInput) :
    (∀ text, runSource source = .ok text →
      run console s (.ofExpression source) input = ⟨.onOut (console.line text), .exit 0⟩ ∧
        IsLineOf text (console.line text)) ∧
    ∀ failure, runSource source = .error failure → ∃ d, failure.diagnostic = some d ∧
      run console s (.ofExpression source) input =
        ⟨.onErr (console.line d.message), .exit (sourceCode source)⟩ ∧
      IsLineOf d.message (console.line d.message) := by
  obtain ⟨outcome, houtcome, hrun⟩ := run_eq_outcome console hload source input
  refine ⟨fun text htext => ⟨?_, hconsole.isLineOf text⟩, fun failure hfailure => ?_⟩
  · have hcode : sourceCode source = 0 := by simp [sourceCode, htext]
    rw [hrun, hcode, houtcome.unique (.value htext)]
  · cases houtcome with
    | value h => cases hfailure.symm.trans h
    | diagnostic h hd =>
      cases hfailure.symm.trans h
      exact ⟨_, hd, hrun, hconsole.isLineOf _⟩

end

/-- A backspace and a tab in a string, and a tab in a string that a diagnostic quotes. -/
theorem run_expression_of_controls :
    let s : Surroundings := ⟨fun _ => .error .missing, fun _ => some .missing, "/home", []⟩
    Terminal.console.ShowsTexts ∧ Settings.load s none = .ok (Settings.defaults, []) ∧
      run Terminal.console s (.ofExpression "\"a\x08\tb\"") ⟨[], .ended⟩ =
        ⟨.onOut "a       b\n", .exit 0⟩ ∧
      run Terminal.console s (.ofExpression "nil \"\t\"") ⟨[], .ended⟩ =
        ⟨.onErr "[line 1] Error at '\"    \"': Expect end of expression.\n", .exit 65⟩ := by
  intro s
  have hload : Settings.load s none = .ok (Settings.defaults, []) := rfl
  refine ⟨Terminal.showsTexts_console, hload, ?_, ?_⟩
  · have hstring : runSource "\"a\x08\tb\"" = .ok "a\x08\tb" := by cbv
    have hline : Terminal.console.line "a\x08\tb" = "a       b\n" := by decide +kernel
    obtain ⟨hok, -⟩ :=
      run_expression Terminal.showsTexts_console hload "\"a\x08\tb\"" ⟨[], .ended⟩
    rw [(hok _ hstring).1, hline]
  · obtain ⟨error, herror⟩ : ∃ error : ParseError,
        error = ⟨.endExpected, ⟨.string, "\"\t\"", .text "\t", 1⟩⟩ := ⟨_, rfl⟩
    have hwords : runSource "nil \"\t\"" = .error (.parse (.refused error)) := by
      rw [herror]
      cbv
    have hline : Terminal.console.line error.diagnostic.message =
        "[line 1] Error at '\"    \"': Expect end of expression.\n" := by
      rw [herror]
      decide +kernel
    obtain ⟨-, hfailed⟩ :=
      run_expression Terminal.showsTexts_console hload "nil \"\t\"" ⟨[], .ended⟩
    obtain ⟨d, hd, hrun, -⟩ := hfailed _ hwords
    cases hd
    rw [hrun, hline, sourceCode, hwords]
    rfl

/-- A tab is the output of an expression, and no console that shows texts as is documented prints it
as it is. -/
theorem run_expression_not_exact :
    ¬∃ console : Console, console.ShowsTexts ∧ ∀ s source input text,
      Settings.load s none = .ok (Settings.defaults, []) → runSource source = .ok text →
        (run console s (.ofExpression source) input).printed = .onOut (text ++ "\n") := by
  rintro ⟨console, hconsole, h⟩
  let s : Surroundings := ⟨fun _ => .error .missing, fun _ => some .missing, "/home", []⟩
  have hload : Settings.load s none = .ok (Settings.defaults, []) := rfl
  have htab : runSource "\"\t\"" = .ok "\t" := by cbv
  have hprinted := h s _ ⟨[], .ended⟩ _ hload htab
  obtain ⟨outcome, houtcome, hrun⟩ := run_eq_outcome console hload "\"\t\"" ⟨[], .ended⟩
  rw [hrun, houtcome.unique (.value htab)] at hprinted
  have hline : console.line "\t" = "\t" ++ "\n" := congrArg Printed.out hprinted
  exact absurd ((hconsole.isLineOf "\t").plain hline) (by decide)

end LoxExpr.Command
