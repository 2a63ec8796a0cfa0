import LoxExpr.Command.Run
import LoxExpr.Proofs.Session
import LoxExpr.Proofs.Settings.Loading

/-!
# How the command ends

An exit code is due for every run of the command: `dueCode` says which. The command ends with it
unless it meets a failure that nothing handles (`Breaks`): loading the settings knows six kinds of
those, a script or the input can be no UTF-8, and a tree can nest too deeply to be written. Main
statement `run_ending`: there is no other way to end, whatever the console prints.
-/

namespace LoxExpr

namespace Command

/-! ## What is due -/

/-- The exit code that is due for a source text. -/
def sourceCode (source : String) : Nat :=
  match runSource source with
  | .ok _ => 0
  | .error (.scan _) => exitData
  | .error (.parse _) => exitData
  | .error (.eval _) => exitSoftware

/-- The text of a script, if it can be read and is UTF-8. -/
def scriptText? (s : Surroundings) (script : String) : Option String :=
  (s.files (.ofString script)).toOption.bind decodeText?

/-- The settings that are loaded for arguments, with those replaced that the arguments replace. -/
def settingsFor (s : Surroundings) (a : Arguments) : Except SettingsFailure Settings :=
  (Settings.load s (a.settings.map Path.ofString)).map fun (settings, _) =>
    { settings with
      showTokens := settings.showTokens || a.showTokens
      showTree := settings.showTree || a.showTree }

/-- The exit code that is due: for wrong usage if the settings cannot be loaded, if there are two
source texts, or if the script cannot be read as text; else for the source text, if there is one. -/
def dueCode (s : Surroundings) (a : Arguments) : Nat :=
  match settingsFor s a, a.expression, a.script with
  | .error _, _, _ => exitUsage
  | .ok _, some _, some _ => exitUsage
  | .ok _, some expression, none => sourceCode expression
  | .ok _, none, some script => (scriptText? s script).elim exitUsage sourceCode
  | .ok _, none, none => 0

/-- The source texts that the command runs: the expression, the script, or all lines of input that
are not blank. -/
inductive Runs (s : Surroundings) (a : Arguments) (input : UserInput) : String → Prop
  | expression {expression : String} (h : a.expression = some expression)
      (hscript : a.script = none) : Runs s a input expression
  | script {script source : String} (hexpression : a.expression = none) (h : a.script = some script)
      (hsource : scriptText? s script = some source) : Runs s a input source
  | line {line : String} (hexpression : a.expression = none) (hscript : a.script = none)
      (h : line ∈ input.lines) (hblank : ¬line.toList.all Text.isBlank) : Runs s a input line

/-- A source text is read as a tree that nests too deeply to be written. -/
def HasHighTree (source : String) : Prop :=
  ∃ tokens tree, scan source = .ok tokens ∧ parse tokens = .ok tree ∧ tree.render? = none

/-- The tree of a source text is to be written, to the log or as output, and nests too deeply. -/
def Unwritable (settings : Settings) (source : String) : Prop :=
  (logsTrees settings ∨ settings.showTree) ∧ HasHighTree source

/-- The failures that nothing handles. Input that is not UTF-8 is one only if the lines before it
are all answered. -/
inductive Breaks (s : Surroundings) (a : Arguments) (input : UserInput) : Breakdown → Prop
  | settings {failure : SettingsFailure} (hload : settingsFor s a = .error failure)
      (h : failure.IsUnhandled) : Breaks s a input (.settings failure)
  | notUtf8 {settings : Settings} {script : String} {bytes : ByteArray}
      (hload : settingsFor s a = .ok settings) (hexpression : a.expression = none)
      (hscript : a.script = some script) (hfile : s.files (.ofString script) = .ok bytes)
      (h : decodeText? bytes = none) : Breaks s a input .notUtf8
  | treeTooDeep {settings : Settings} {source : String} (hload : settingsFor s a = .ok settings)
      (hruns : Runs s a input source) (h : Unwritable settings source) :
      Breaks s a input .treeTooDeep
  | inputNotUtf8 {settings : Settings} (hload : settingsFor s a = .ok settings)
      (hexpression : a.expression = none) (hscript : a.script = none)
      (h : input.last = .notUtf8)
      (hlines : ∀ source, Runs s a input source → ¬Unwritable settings source) :
      Breaks s a input .inputNotUtf8

/-! ## One source text -/

section
variable {console : Console} {settings : Settings} {source : String} {s : Session} {r : Report}

theorem exitCode_of_tells (h : r.Tells source) :
    exitCode (Session.fresh.after r) = sourceCode source := by
  have halone := h.alone
  cases r with
  | unscanned error =>
    have halone : runSource source = .error (.scan error) := halone
    simp only [sourceCode, halone]
    rfl
  | unread tokens error =>
    have halone : runSource source = .error (.parse (.refused error)) := halone
    simp only [sourceCode, halone]
    rfl
  | failed tokens tree error =>
    have halone : runSource source = .error (.eval (.error error)) := halone
    simp only [sourceCode, halone]
    rfl
  | finished tokens tree value =>
    obtain ⟨text, -, halone⟩ := halone
    simp only [sourceCode, halone]
    rfl

/-- The tree of a report is the one that the source text is read as. -/
theorem tree_eq_some_iff (h : r.Tells source) {tree : Expr} :
    r.tree = some tree ↔ ∃ tokens, scan source = .ok tokens ∧ parse tokens = .ok tree := by
  have hstages := h.stages
  cases r with
  | unscanned error =>
    obtain ⟨hscan, -⟩ := hstages
    simp [Report.tree, hscan]
  | unread tokens error =>
    obtain ⟨hscan, hparse, -⟩ := hstages
    replace hscan : scan source = .ok tokens := hscan
    replace hparse : parse tokens = .error (.refused error) := hparse
    simp [Report.tree, hscan, hparse]
  | failed tokens tree' error =>
    obtain ⟨hscan, -, read, ⟨⟩, hparse, -⟩ := hstages
    replace hscan : scan source = .ok tokens := hscan
    replace hparse : parse tokens = .ok tree' := hparse
    simp [Report.tree, hscan, hparse]
  | finished tokens tree' value =>
    obtain ⟨hscan, read, _, ⟨⟩, -, hparse, -⟩ := hstages
    replace hscan : scan source = .ok tokens := hscan
    replace hparse : parse tokens = .ok tree' := hparse
    simp [Report.tree, hscan, hparse]

/-- Notes that all have a message are all written. -/
theorem writeNotes_snd (notes : List Note) :
    (writeNotes notes).2 =
      if notes.all (·.message.isSome) then .ok () else .error .treeTooDeep := by
  induction notes with
  | nil => rfl
  | cons note notes ih =>
    cases hmessage : note.message with
    | none => simp [writeNotes, hmessage]
    | some message => simpa [writeNotes, hmessage] using ih

/-- Writing to the log fails exactly if a tree is to be written to it that nests too deeply. -/
theorem writeLog_snd (settings : Settings) (r : Report) :
    (writeLog settings (notes r)).2 =
      if logsTrees settings && r.tree.any (·.render?.isNone) then .error .treeTooDeep
      else .ok () := by
  rw [writeLog, writeNotes_snd]
  cases r with
  | unscanned error => simp [notes, Note.failed, Report.tree]
  | unread tokens error => simp [notes, Note.failed, Note.scanned, Report.tree]
  | failed tokens tree error =>
    cases hlogs : logs settings .debug <;> cases hrender : tree.render? <;>
      simp [notes, Note.failed, Note.scanned, Note.parsed, Report.tree, logsTrees, hlogs, hrender]
  | finished tokens tree value =>
    cases hlogs : logs settings .debug <;> cases hrender : tree.render? <;>
      simp [notes, Note.scanned, Note.parsed, Note.evaluated, Report.tree, logsTrees, hlogs,
        hrender]

/-- A run as what it writes to the log, and then what it prints if the log could be written. -/
theorem execute_eq (hr : r.Tells source) (s : Session) :
    execute console settings s source =
      let log := (writeLog settings (notes r)).1
      if logsTrees settings && r.tree.any (·.render?.isNone) then (log, .error .treeTooDeep)
      else
        let tokens := printTokens console settings r
        match printTree console settings r with
        | .error breakdown => (log ++ tokens, .error breakdown)
        | .ok tree => (log ++ tokens ++ tree ++ printOutcome console r, .ok (s.after r)) := by
  obtain ⟨log, outcome, hwrite⟩ : ∃ log outcome, writeLog settings (notes r) = (log, outcome) :=
    ⟨_, _, rfl⟩
  have houtcome := writeLog_snd settings r
  simp only [hwrite] at houtcome
  simp only [execute, Session.run, hr.ofSource, bind, Except.bind, pure, Except.pure, hwrite,
    houtcome]
  cases logsTrees settings && r.tree.any (·.render?.isNone) with
  | true => rfl
  | false => rfl

/-- A run that a tree breaks down prints the log and the tokens at most. -/
theorem execute_eq_of_unwritable (console : Console) (hr : r.Tells source)
    (h : Unwritable settings source) (s : Session) :
    execute console settings s source =
      (if logsTrees settings then (writeLog settings (notes r)).1
        else (writeLog settings (notes r)).1 ++ printTokens console settings r,
        .error .treeTooDeep) := by
  obtain ⟨hwrites, tokens, tree, hscan, hparse, hrender⟩ := h
  have htree : r.tree = some tree := (tree_eq_some_iff hr).2 ⟨tokens, hscan, hparse⟩
  rw [execute_eq hr]
  cases hlogs : logsTrees settings with
  | true => simp [htree, hrender]
  | false =>
    have hshow : settings.showTree = true := by simpa [hlogs] using hwrites
    simp [printTree, hshow, htree, hrender]

theorem execute_of_unwritable (console : Console) (h : Unwritable settings source) (s : Session) :
    (execute console settings s source).2 = .error .treeTooDeep := by
  obtain ⟨r, hr⟩ := exists_tells source
  rw [execute_eq_of_unwritable console hr h s]

/-- A run that breaks nothing down prints what the settings ask for, and then how it ended. -/
theorem execute_eq_of_writable (console : Console) (hr : r.Tells source)
    (h : ¬Unwritable settings source) :
    ∃ tree, printTree console settings r = .ok tree ∧ ∀ s : Session,
      execute console settings s source =
        ((writeLog settings (notes r)).1 ++ printTokens console settings r ++ tree ++
          printOutcome console r, .ok (s.after r)) := by
  simp only [execute_eq hr]
  cases htree : r.tree with
  | none => simp [printTree, htree]
  | some tree =>
    obtain ⟨tokens, hscan, hparse⟩ := (tree_eq_some_iff hr).1 htree
    cases hrender : tree.render? with
    | none =>
      have hwrites : ¬(logsTrees settings ∨ settings.showTree) :=
        fun hwrites => h ⟨hwrites, tokens, tree, hscan, hparse, hrender⟩
      simp only [not_or, Bool.not_eq_true] at hwrites
      simp [printTree, hwrites]
    | some text => cases hshow : settings.showTree <;> simp [printTree, htree, hshow, hrender]

theorem execute_of_writable (console : Console) (hr : r.Tells source)
    (h : ¬Unwritable settings source) (s : Session) :
    (execute console settings s source).2 = .ok (s.after r) := by
  obtain ⟨tree, -, hexecute⟩ := execute_eq_of_writable console hr h
  rw [hexecute s]

/-- A source text on its own ends the command with the code that is due for it. -/
theorem once_ending (console : Console) (settings : Settings) (source : String) :
    (once console settings source).ending = .breakdown .treeTooDeep ∧ Unwritable settings source ∨
      (once console settings source).ending = .exit (sourceCode source) ∧
        ¬Unwritable settings source := by
  obtain ⟨r, hr⟩ := exists_tells source
  by_cases h : Unwritable settings source
  · left
    exact ⟨by simp [once, execute_eq_of_unwritable console hr h], h⟩
  · right
    obtain ⟨tree, -, hexecute⟩ := execute_eq_of_writable console hr h
    exact ⟨by simp [once, hexecute, exitCode_of_tells hr], h⟩

end

/-! ## Lines of input -/

section
variable {console : Console} {settings : Settings} {last : InputEnd} {line : String} {s : Session}

/-- A line to answer is not blank, and its tree cannot be written. -/
def Stops (settings : Settings) (line : String) : Prop :=
  ¬line.toList.all Text.isBlank ∧ Unwritable settings line

theorem answer_of_stops (h : Stops settings line) :
    (answer console settings s line).2 = .error .treeTooDeep := by
  obtain ⟨hblank, h⟩ := h
  have hexecute := execute_of_unwritable console h s
  simp [answer, hblank, hexecute, Except.map]

theorem answer_of_not_stops (console : Console) (h : ¬Stops settings line) (s : Session) :
    ∃ s', (answer console settings s line).2 = .ok s' := by
  by_cases hblank : line.toList.all Text.isBlank
  · exact ⟨s, by simp [answer, hblank]⟩
  · obtain ⟨r, hr⟩ := exists_tells line
    have hexecute := execute_of_writable console hr (fun hwrites => h ⟨hblank, hwrites⟩) s
    exact ⟨.fresh, by simp [answer, hblank, hexecute, Except.map, Session.reset]⟩

theorem interact_of_answered {lines : List String} {s' : Session}
    (h : (answer console settings s line).2 = .ok s') :
    interact console settings last s (line :: lines) =
      ⟨prompt console settings ++ (answer console settings s line).1 ++
          (interact console settings last s' lines).printed,
        (interact console settings last s' lines).ending⟩ := by
  rw [interact]
  split
  · next heq =>
    rw [heq] at h ⊢
    cases h
    rfl
  · next heq =>
    rw [heq] at h
    cases h

theorem interact_of_stopped {lines : List String} {cause : Breakdown}
    (h : (answer console settings s line).2 = .error cause) :
    interact console settings last s (line :: lines) =
      ⟨prompt console settings ++ (answer console settings s line).1, .breakdown cause⟩ := by
  rw [interact]
  split
  · next heq =>
    rw [heq] at h
    cases h
  · next heq =>
    rw [heq] at h ⊢
    cases h
    rfl

/-- Input ends the command as it ends itself, unless a line stops it before. -/
theorem interact_ending (console : Console) (settings : Settings) (last : InputEnd) (s : Session)
    (lines : List String) :
    (interact console settings last s lines).ending = .breakdown .treeTooDeep ∧
        (∃ line ∈ lines, Stops settings line) ∨
      (interact console settings last s lines).ending = (afterLines last).ending ∧
        ∀ line ∈ lines, ¬Stops settings line := by
  induction lines generalizing s with
  | nil => exact .inr ⟨rfl, by simp⟩
  | cons line lines ih =>
    by_cases h : Stops settings line
    · left
      rw [interact_of_stopped (answer_of_stops h)]
      exact ⟨rfl, line, List.mem_cons_self, h⟩
    · obtain ⟨s', hanswer⟩ := answer_of_not_stops console h s
      rw [interact_of_answered hanswer]
      rcases ih s' with ⟨hending, stopping, hmem, hstops⟩ | ⟨hending, hnone⟩
      · exact .inl ⟨hending, stopping, List.mem_cons_of_mem _ hmem, hstops⟩
      · exact .inr ⟨hending, List.forall_mem_cons.2 ⟨h, hnone⟩⟩

end

/-! ## The command -/

section
variable {console : Console} {s : Surroundings} {a : Arguments} {input : UserInput}
  {settings : Settings}

theorem runs_iff_of_expression {expression source : String}
    (hexpression : a.expression = some expression) :
    Runs s a input source ↔ a.script = none ∧ source = expression := by
  constructor
  · intro h
    cases h with
    | expression h hscript => exact ⟨hscript, Option.some_inj.1 (h.symm.trans hexpression)⟩
    | script h | line h => cases h.symm.trans hexpression
  · rintro ⟨hscript, rfl⟩
    exact .expression hexpression hscript

theorem runs_iff_of_script {script source : String} (hexpression : a.expression = none)
    (hscript : a.script = some script) :
    Runs s a input source ↔ scriptText? s script = some source := by
  constructor
  · intro h
    cases h with
    | expression h => cases h.symm.trans hexpression
    | script _ h hsource =>
      cases h.symm.trans hscript
      exact hsource
    | line _ h => cases h.symm.trans hscript
  · exact .script hexpression hscript

theorem runs_iff_of_input {source : String} (hexpression : a.expression = none)
    (hscript : a.script = none) :
    Runs s a input source ↔ source ∈ input.lines ∧ ¬source.toList.all Text.isBlank := by
  constructor
  · intro h
    cases h with
    | expression h => cases h.symm.trans hexpression
    | script _ h => cases h.symm.trans hscript
    | line _ _ h hblank => exact ⟨h, hblank⟩
  · rintro ⟨h, hblank⟩
    exact .line hexpression hscript h hblank

/-- The command meets one unhandled failure at most. -/
theorem Breaks.unique {cause cause' : Breakdown} (h : Breaks s a input cause)
    (h' : Breaks s a input cause') : cause = cause' := by
  have hnot {script source bytes} (hexpression : a.expression = none)
      (hscript : a.script = some script) (hfile : s.files (.ofString script) = .ok bytes)
      (hdecode : decodeText? bytes = none) : ¬Runs s a input source := by
    rw [runs_iff_of_script hexpression hscript]
    simp [scriptText?, hfile, Except.toOption, hdecode]
  cases h with
  | settings hload _ =>
    cases h' with
    | settings hload' _ =>
      cases hload.symm.trans hload'
      rfl
    | notUtf8 hload' | treeTooDeep hload' | inputNotUtf8 hload' => cases hload.symm.trans hload'
  | notUtf8 hload hexpression hscript hfile hdecode =>
    cases h' with
    | settings hload' => cases hload.symm.trans hload'
    | notUtf8 => rfl
    | treeTooDeep _ hruns _ => exact absurd hruns (hnot hexpression hscript hfile hdecode)
    | inputNotUtf8 _ _ hscript' => cases hscript.symm.trans hscript'
  | treeTooDeep hload hruns hwrites =>
    cases h' with
    | settings hload' => cases hload.symm.trans hload'
    | notUtf8 _ hexpression hscript hfile hdecode =>
      exact absurd hruns (hnot hexpression hscript hfile hdecode)
    | treeTooDeep => rfl
    | inputNotUtf8 hload' _ _ _ hlines =>
      cases hload.symm.trans hload'
      exact absurd hwrites (hlines _ hruns)
  | inputNotUtf8 hload _ hscript _ hlines =>
    cases h' with
    | settings hload' => cases hload.symm.trans hload'
    | notUtf8 _ _ hscript' => cases hscript.symm.trans hscript'
    | treeTooDeep hload' hruns hwrites =>
      cases hload.symm.trans hload'
      exact absurd hwrites (hlines _ hruns)
    | inputNotUtf8 => rfl

/-- The command ends in an unhandled failure, or with the code that is due. -/
def EndsIn (s : Surroundings) (a : Arguments) (input : UserInput) (ending : Ending) : Prop :=
  (∃ cause, Breaks s a input cause ∧ ending = .breakdown cause) ∨
    (∀ cause, ¬Breaks s a input cause) ∧ ending = .exit (dueCode s a)

theorem endsIn_of_load_error {failure : SettingsFailure}
    (hnul : ∀ p ∈ a.settings.map Path.ofString, p.hasNul = false)
    (hload : Settings.load s (a.settings.map Path.ofString) = .error failure) :
    EndsIn s a input (run console s a input).ending := by
  have hsettings : settingsFor s a = .error failure := by
    rw [settingsFor, hload]
    rfl
  rcases Settings.load_eq_error hnul hload with hunhandled | ⟨message, hmessage⟩
  · left
    refine ⟨.settings failure, .settings hsettings hunhandled, ?_⟩
    simp [run, start, hload, Settings.message_eq_none hunhandled]
  · right
    refine ⟨fun cause hbreaks => ?_, ?_⟩
    · cases hbreaks with
      | settings hload' hunhandled =>
        cases hsettings.symm.trans hload'
        simp [Settings.message_eq_none hunhandled] at hmessage
      | notUtf8 hload' | treeTooDeep hload' | inputNotUtf8 hload' =>
        cases hsettings.symm.trans hload'
    · simp [run, start, hload, hmessage, dueCode, hsettings, usage]

/-- With settings, and a readable script or input, nothing but a tree leads to an unhandled
failure. -/
theorem endsIn_of_loaded {ending : Ending} (hload : settingsFor s a = .ok settings)
    (hutf8 : ¬Breaks s a input .notUtf8) (hinput : ¬Breaks s a input .inputNotUtf8)
    (h : (ending = .breakdown .treeTooDeep ∧
        ∃ source, Runs s a input source ∧ Unwritable settings source) ∨
      (ending = .exit (dueCode s a) ∧
        ∀ source, Runs s a input source → ¬Unwritable settings source)) :
    EndsIn s a input ending := by
  rcases h with ⟨hending, source, hruns, hwrites⟩ | ⟨hending, hnone⟩
  · exact .inl ⟨_, .treeTooDeep hload hruns hwrites, hending⟩
  · right
    refine ⟨fun cause hbreaks => ?_, hending⟩
    cases hbreaks with
    | settings hload' => cases hload.symm.trans hload'
    | notUtf8 hload' hexpression hscript hfile hdecode =>
      exact hutf8 (.notUtf8 hload' hexpression hscript hfile hdecode)
    | treeTooDeep hload' hruns hwrites =>
      cases hload.symm.trans hload'
      exact hnone _ hruns hwrites
    | inputNotUtf8 hload' hexpression hscript hlast hlines =>
      exact hinput (.inputNotUtf8 hload' hexpression hscript hlast hlines)

/-- An expression or a script leaves no use for the input. -/
theorem not_breaks_inputNotUtf8 (h : a.expression ≠ none ∨ a.script ≠ none) :
    ¬Breaks s a input .inputNotUtf8 := by
  rintro (_ | _ | _ | ⟨_, hexpression, hscript, _, _⟩)
  exact h.elim (absurd hexpression) (absurd hscript)

theorem endsIn_of_expression {expression : String} (hload : settingsFor s a = .ok settings)
    (hexpression : a.expression = some expression) (hscript : a.script = none) :
    EndsIn s a input (once console settings expression).ending := by
  refine endsIn_of_loaded hload ?_ (not_breaks_inputNotUtf8 (.inl (by simp [hexpression]))) ?_
  · rintro (_ | ⟨_, h⟩)
    cases h.symm.trans hexpression
  · have hdue : dueCode s a = sourceCode expression := by
      simp [dueCode, hload, hexpression, hscript]
    simp only [runs_iff_of_expression hexpression, hscript, true_and, hdue]
    simpa using once_ending console settings expression

theorem endsIn_of_script {script : String} (hload : settingsFor s a = .ok settings)
    (hexpression : a.expression = none) (hscript : a.script = some script) :
    EndsIn s a input (runScript console settings s.files (.ofString script)).ending := by
  have hdue : dueCode s a = (scriptText? s script).elim exitUsage sourceCode := by
    simp [dueCode, hload, hexpression, hscript]
  have hinput : ¬Breaks s a input .inputNotUtf8 :=
    not_breaks_inputNotUtf8 (.inr (by simp [hscript]))
  unfold runScript
  split
  · next fault hfile =>
    -- nothing is run if the script cannot be read
    have hsource : scriptText? s script = none := by simp [scriptText?, hfile, Except.toOption]
    refine endsIn_of_loaded hload ?_ hinput (.inr ⟨by simp [usage, hdue, hsource], ?_⟩)
    · rintro (_ | ⟨_, _, h, hfile'⟩)
      cases h.symm.trans hscript
      cases hfile.symm.trans hfile'
    · simp [runs_iff_of_script hexpression hscript, hsource]
  · next bytes hfile =>
    split
    · next hdecode => exact .inl ⟨_, .notUtf8 hload hexpression hscript hfile hdecode, rfl⟩
    · next source hdecode =>
      have hsource : scriptText? s script = some source := by
        simp [scriptText?, hfile, Except.toOption, hdecode]
      refine endsIn_of_loaded hload ?_ hinput ?_
      · rintro (_ | ⟨_, _, h, hfile', hdecode'⟩)
        cases h.symm.trans hscript
        cases hfile.symm.trans hfile'
        cases hdecode.symm.trans hdecode'
      · simp only [runs_iff_of_script hexpression hscript, hdue, hsource, Option.elim_some]
        simpa using once_ending console settings source

theorem endsIn_of_input (hload : settingsFor s a = .ok settings) (hexpression : a.expression = none)
    (hscript : a.script = none) :
    EndsIn s a input (interact console settings input.last .fresh input.lines).ending := by
  have hutf8 : ¬Breaks s a input .notUtf8 := by
    rintro (_ | ⟨_, _, h⟩)
    cases h.symm.trans hscript
  have hruns (source : String) : Runs s a input source ∧ Unwritable settings source ↔
      source ∈ input.lines ∧ Stops settings source := by
    rw [runs_iff_of_input hexpression hscript, Stops, and_assoc]
  rcases interact_ending console settings input.last .fresh input.lines with
    ⟨hending, line, hline, hstops⟩ | ⟨hending, hnone⟩
  · obtain ⟨hline, hwrites⟩ := (hruns line).2 ⟨hline, hstops⟩
    exact .inl ⟨_, .treeTooDeep hload hline hwrites, hending⟩
  · have hnone' (source : String) (h : Runs s a input source) : ¬Unwritable settings source := by
      intro hwrites
      obtain ⟨hline, hstops⟩ := (hruns source).1 ⟨h, hwrites⟩
      exact hnone source hline hstops
    cases hlast : input.last with
    | ended =>
      have hdue : dueCode s a = 0 := by simp [dueCode, hload, hexpression, hscript]
      have hexit : (interact console settings input.last .fresh input.lines).ending =
          .exit (dueCode s a) := by
        rw [hending, hlast, hdue]
        rfl
      refine endsIn_of_loaded hload hutf8 ?_ (.inr ⟨hlast ▸ hexit, hnone'⟩)
      rintro (_ | _ | _ | ⟨_, _, _, h, _⟩)
      cases hlast.symm.trans h
    | notUtf8 =>
      left
      refine ⟨_, .inputNotUtf8 hload hexpression hscript hlast hnone', ?_⟩
      rw [← hlast, hending, hlast]
      rfl

theorem endsIn_run (hnul : ∀ p ∈ a.settings.map Path.ofString, p.hasNul = false)
    (console : Console) (input : UserInput) :
    EndsIn s a input (run console s a input).ending := by
  cases hsettings : Settings.load s (a.settings.map Path.ofString) with
  | error failure => exact endsIn_of_load_error hnul hsettings
  | ok loaded =>
    obtain ⟨settings, warnings⟩ := loaded
    obtain ⟨effective, heffective⟩ : ∃ effective, effective =
        { settings with
          showTokens := settings.showTokens || a.showTokens
          showTree := settings.showTree || a.showTree } := ⟨_, rfl⟩
    have hload : settingsFor s a = .ok effective := by
      rw [settingsFor, hsettings, heffective]
      rfl
    simp only [run, start, hsettings, task, ← heffective]
    cases hexpression : a.expression with
    | some expression =>
      cases hscript : a.script with
      | some script =>
        have hinput : ¬Breaks s a input .inputNotUtf8 :=
          not_breaks_inputNotUtf8 (.inl (by simp [hexpression]))
        refine endsIn_of_loaded hload ?_ hinput (.inr ⟨?_, ?_⟩)
        · rintro (_ | ⟨_, h⟩)
          cases h.symm.trans hexpression
        · simp [usage, dueCode, hload, hexpression, hscript]
        · simp [runs_iff_of_expression hexpression, hscript]
      | none => exact endsIn_of_expression hload hexpression hscript
    | none =>
      cases hscript : a.script with
      | some script => exact endsIn_of_script hload hexpression hscript
      | none => exact endsIn_of_input hload hexpression hscript

theorem hasNul_of_paths (h : ∀ p ∈ a.paths, p.hasNul = false) :
    ∀ p ∈ a.settings.map Path.ofString, p.hasNul = false := by
  intro p hp
  obtain ⟨path, hpath, rfl⟩ := Option.map_eq_some_iff.1 hp
  exact h _ (by simp [Arguments.paths, hpath])

theorem sourceCode_mem (source : String) : sourceCode source ∈ [0, exitData, exitSoftware] := by
  unfold sourceCode
  split <;> simp

theorem dueCode_mem (s : Surroundings) (a : Arguments) :
    dueCode s a ∈ [0, exitUsage, exitData, exitSoftware] := by
  have hsource (source : String) : sourceCode source ∈ [0, exitUsage, exitData, exitSoftware] := by
    have hmem := sourceCode_mem source
    simp only [List.mem_cons] at hmem ⊢
    tauto
  unfold dueCode
  split
  · simp
  · simp
  · exact hsource _
  · cases scriptText? s _ with
    | none => simp
    | some source => exact hsource source
  · simp

/-- The command ends in one way, whatever files, variables and input there are, and whatever its
console prints: with the exit code that is due, unless it meets a failure that nothing handles, and
then in that failure. -/
theorem run_ending (hpaths : ∀ p ∈ a.paths, p.hasNul = false) (console : Console)
    (s : Surroundings) (input : UserInput) :
    (∀ code, (run console s a input).ending = .exit code ↔
      (∀ cause, ¬Breaks s a input cause) ∧ code = dueCode s a) ∧
    (∀ cause, (run console s a input).ending = .breakdown cause ↔ Breaks s a input cause) ∧
    dueCode s a ∈ [0, exitUsage, exitData, exitSoftware] := by
  refine ⟨fun code => ?_, fun cause => ?_, dueCode_mem s a⟩
  all_goals
    rcases endsIn_run (hasNul_of_paths hpaths) console input with
      ⟨cause', hbreaks, hending⟩ | ⟨hnone, hending⟩
  · rw [hending]
    exact ⟨nofun, fun h => absurd hbreaks (h.1 cause')⟩
  · rw [hending, Ending.exit.injEq]
    exact ⟨fun h => ⟨hnone, h.symm⟩, fun h => h.2.symm⟩
  · rw [hending, Ending.breakdown.injEq]
    exact ⟨fun h => h ▸ hbreaks, fun h => hbreaks.unique h⟩
  · rw [hending]
    exact ⟨nofun, fun h => absurd h (hnone cause)⟩

end

/-- Two words are no expression, and there is no settings file. -/
theorem run_ending_of_words :
    let s : Surroundings := ⟨fun _ => .error .missing, fun _ => some .missing, "/home", []⟩
    let a := Arguments.ofExpression "nil nil"
    (∀ p ∈ a.paths, p.hasNul = false) ∧
      ∀ console, (run console s a ⟨[], .ended⟩).ending = .exit 65 := by
  intro s a
  have hpaths : ∀ p ∈ a.paths, p.hasNul = false := by
    simp [a, Arguments.ofExpression, Arguments.paths]
  have hload : settingsFor s a = .ok Settings.defaults := by rfl
  have hwrites : ¬(logsTrees Settings.defaults ∨ Settings.defaults.showTree) := by decide +kernel
  have hsource : runSource "nil nil" = .error (.parse (.refused
      ⟨.endExpected, ⟨.nilWord, "nil", .absent, 1⟩⟩)) := by
    cbv
  refine ⟨hpaths, fun console => ?_⟩
  obtain ⟨hexit, -, -⟩ := run_ending hpaths console s ⟨[], .ended⟩
  refine (hexit 65).2 ⟨fun cause hbreaks => ?_, ?_⟩
  · cases hbreaks with
    | settings hload' => cases hload.symm.trans hload'
    | notUtf8 _ hexpression | inputNotUtf8 _ hexpression => cases hexpression
    | treeTooDeep hload' _ h =>
      cases hload.symm.trans hload'
      exact hwrites h.1
  · have hdue : dueCode s a = sourceCode "nil nil" := by
      rw [dueCode, hload]
      rfl
    rw [hdue, sourceCode, hsource]
    rfl

/-- The usual settings file consists of one byte, which is no UTF-8. No console helps. -/
theorem run_ending_not_due :
    ¬∃ console, ∀ s a input, (∀ p ∈ a.paths, p.hasNul = false) →
      (run console s a input).ending = .exit (dueCode s a) := by
  rintro ⟨console, h⟩
  let s : Surroundings := ⟨fun _ => .ok ⟨#[0xff]⟩, fun _ => none, "/home", []⟩
  let a := Arguments.ofExpression "nil"
  have hpaths : ∀ p ∈ a.paths, p.hasNul = false := by
    simp [a, Arguments.ofExpression, Arguments.paths]
  have hdecode : decodeText? ⟨#[0xff]⟩ = none := by cbv
  have hnul : (Path.ofName Settings.fileName).hasNul = false := by decide
  have hload : settingsFor s a = .error .notUtf8 := by
    simp only [settingsFor, Settings.load, Settings.ofFile, Settings.readDocument, s, a, hnul,
      hdecode, Arguments.ofExpression, Option.map_none]
    rfl
  have hexit := h s a ⟨[], .ended⟩ hpaths
  rcases endsIn_run (hasNul_of_paths hpaths) console (s := s) ⟨[], .ended⟩ with
    ⟨cause, -, hending⟩ | ⟨hnone, -⟩
  · cases hending.symm.trans hexit
  · exact hnone _ (.settings hload trivial)

end Command

end LoxExpr
