import LoxExpr.Proofs.Command.Execution
import LoxExpr.Terminal

/-!
# Lines of input one after the other

Answering the first lines of an input leaves a session for the next round (`Answered`). Main
statement `interact_law`: each round begins with a new session, so every line has the answer that it
has alone, up to the end of the input or to a line whose tree cannot be written to the log.
-/

namespace LoxExpr.Command

section
variable {console : Console} {settings : Settings} {last : InputEnd} {line : String}
  {lines before : List String} {s s' : Session} {printed : Printed}

/-! ## One round -/

/-- A line is to be shown as a tree, which nests too deeply to be written. -/
def ShowsHighTree (settings : Settings) (line : String) : Prop :=
  settings.showTree ∧ ¬line.toList.all Text.isBlank ∧ HasHighTree line

/-- A line is to be logged as a tree, which nests too deeply to be written. -/
def LogsHighTree (settings : Settings) (line : String) : Prop :=
  logsTrees settings ∧ ¬line.toList.all Text.isBlank ∧ HasHighTree line

theorem stops_iff :
    Stops settings line ↔ LogsHighTree settings line ∨ ShowsHighTree settings line := by
  simp only [Stops, Unwritable, LogsHighTree, ShowsHighTree]
  tauto

/-- What is printed for a line as if it were the only source text. -/
def alone (console : Console) (settings : Settings) (line : String) : Printed :=
  if line.toList.all Text.isBlank then .nothing else (once console settings line).printed

/-- What a run prints does not depend on the session. -/
theorem execute_printed (console : Console) (settings : Settings) (s : Session) (source : String) :
    (execute console settings s source).1 = (once console settings source).printed := by
  obtain ⟨r, hr⟩ := exists_tells source
  by_cases h : Unwritable settings source
  · simp only [once, execute_eq_of_unwritable console hr h]
  · obtain ⟨tree, -, hexecute⟩ := execute_eq_of_writable console hr h
    simp only [once, hexecute]

theorem answer_printed (console : Console) (settings : Settings) (s : Session) (line : String) :
    (answer console settings s line).1 = alone console settings line := by
  by_cases hblank : line.toList.all Text.isBlank
  · simp [answer, alone, hblank]
  · simp [answer, alone, hblank, execute_printed]

/-- A line with a value, a line with a failure and a blank line leave a new session alike. -/
theorem answer_fresh (h : ¬Stops settings line) :
    answer console settings .fresh line = (alone console settings line, .ok .fresh) := by
  refine Prod.ext (answer_printed console settings .fresh line) ?_
  by_cases hblank : line.toList.all Text.isBlank
  · simp [answer, hblank]
  · obtain ⟨r, hr⟩ := exists_tells line
    have hexecute := execute_of_writable console hr (fun hwrites => h ⟨hblank, hwrites⟩) .fresh
    simp [answer, hblank, hexecute, Except.map, Session.reset]

/-! ## All rounds -/

/-- Lines are answered one after the other, each behind its prompt: what is printed, and the session
that the next round begins with. -/
inductive Answered (console : Console) (settings : Settings) :
    Session → List String → Printed → Session → Prop
  | none {s : Session} : Answered console settings s [] .nothing s
  | line {s s₁ s' : Session} {line : String} {lines : List String} {printed more : Printed}
      (h : answer console settings s line = (printed, .ok s₁))
      (hmore : Answered console settings s₁ lines more s') :
      Answered console settings s (line :: lines) (prompt console settings ++ printed ++ more) s'

/-- Once lines are answered, the lines after them are answered in the session that is left. -/
theorem Answered.interact (h : Answered console settings s before printed s')
    (after : List String) :
    interact console settings last s (before ++ after) =
      ⟨printed ++ (interact console settings last s' after).printed,
        (interact console settings last s' after).ending⟩ := by
  induction h with
  | none => simp
  | line h hmore ih =>
    rw [List.cons_append, interact_of_answered (congrArg Prod.snd h), h, ih]
    simp [Printed.append_assoc]

/-- Lines as if each were alone, behind prompts. -/
def transcript (console : Console) (settings : Settings) : List String → Printed
  | [] => .nothing
  | line :: lines =>
    prompt console settings ++ alone console settings line ++ transcript console settings lines

theorem answered_iff (h : ∀ line ∈ lines, ¬Stops settings line) :
    Answered console settings .fresh lines printed s ↔
      printed = transcript console settings lines ∧ s = .fresh := by
  induction lines generalizing printed with
  | nil =>
    constructor
    · rintro ⟨⟩
      exact ⟨rfl, rfl⟩
    · rintro ⟨rfl, rfl⟩
      exact .none
  | cons line lines ih =>
    obtain ⟨hline, hlines⟩ := List.forall_mem_cons.1 h
    constructor
    · intro hanswered
      cases hanswered with
      | line hanswer hmore =>
        rw [answer_fresh hline] at hanswer
        cases hanswer
        obtain ⟨rfl, rfl⟩ := (ih hlines).1 hmore
        exact ⟨rfl, rfl⟩
    · rintro ⟨rfl, rfl⟩
      exact .line (answer_fresh hline) ((ih hlines).2 ⟨rfl, rfl⟩)

/-- Lines that do not stop the command are answered as if each were alone. -/
theorem interact_append (h : ∀ line ∈ before, ¬Stops settings line) (after : List String) :
    interact console settings last .fresh (before ++ after) =
      ⟨transcript console settings before ++ (interact console settings last .fresh after).printed,
        (interact console settings last .fresh after).ending⟩ :=
  ((answered_iff h).2 ⟨rfl, rfl⟩).interact after

/-- A line that stops the command is the first one that does, or there is none. -/
theorem exists_first_stop (settings : Settings) (lines : List String) :
    (∀ line ∈ lines, ¬Stops settings line) ∨
      ∃ before line after, lines = before ++ line :: after ∧
        (∀ line ∈ before, ¬Stops settings line) ∧ Stops settings line := by
  induction lines with
  | nil => exact .inl (by simp)
  | cons line lines ih =>
    by_cases h : Stops settings line
    · exact .inr ⟨[], line, lines, rfl, by simp, h⟩
    · rcases ih with hnone | ⟨before, stopping, after, rfl, hbefore, hstops⟩
      · exact .inl (List.forall_mem_cons.2 ⟨h, hnone⟩)
      · exact .inr ⟨line :: before, stopping, after, rfl, List.forall_mem_cons.2 ⟨h, hbefore⟩,
          hstops⟩

/-- Unless a line is shown as a tree that is too high, either all lines are answered and the command
ends well, or the first line that is logged as such a tree breaks it down, with the lines before
answered. For each answered line the command prints a prompt and what it prints for the line alone,
and after the last line of all one more prompt and a line end. Wherever the input is cut among
answered lines, the round after the cut begins without failures. -/
theorem interact_law (console : Console) (h : ∀ line ∈ lines, ¬ShowsHighTree settings line) :
    ((∀ line ∈ lines, ¬LogsHighTree settings line) ∧
        interact console settings .ended .fresh lines =
          ⟨transcript console settings lines ++ (prompt console settings ++ .onOut "\n"),
            .exit 0⟩ ∨
      ∃ before line after, lines = before ++ line :: after ∧
        (∀ line ∈ before, ¬LogsHighTree settings line) ∧ LogsHighTree settings line ∧
        interact console settings .ended .fresh lines =
          ⟨transcript console settings before ++
              (prompt console settings ++ alone console settings line),
            .breakdown .treeTooDeep⟩) ∧
    ∀ before after, lines = before ++ after → (∀ line ∈ before, ¬LogsHighTree settings line) →
      (∀ printed s, Answered console settings .fresh before printed s ↔
        printed = transcript console settings before ∧ s = ⟨false, false⟩) ∧
      interact console settings .ended .fresh lines =
        ⟨transcript console settings before ++
            (interact console settings .ended ⟨false, false⟩ after).printed,
          (interact console settings .ended ⟨false, false⟩ after).ending⟩ := by
  have hstops (line : String) (hline : line ∈ lines) :
      Stops settings line ↔ LogsHighTree settings line :=
    stops_iff.trans (or_iff_left (h line hline))
  have hbefore {before after : List String} (heq : lines = before ++ after) :
      (∀ line ∈ before, ¬LogsHighTree settings line) ↔ ∀ line ∈ before, ¬Stops settings line :=
    forall₂_congr fun line hline =>
      not_congr (hstops line (heq ▸ List.mem_append_left after hline)).symm
  refine ⟨?_, fun before after heq hlogs => ?_⟩
  · rcases exists_first_stop settings lines with hnone | ⟨before, line, after, heq, hnone, hstop⟩
    · left
      refine ⟨(hbefore (List.append_nil lines).symm).2 hnone, ?_⟩
      have hinteract : interact console settings .ended .fresh (lines ++ []) = _ :=
        interact_append hnone []
      rwa [List.append_nil] at hinteract
    · right
      have hmem : line ∈ lines := heq ▸ List.mem_append_right before List.mem_cons_self
      refine ⟨before, line, after, heq, (hbefore heq).2 hnone, (hstops line hmem).1 hstop, ?_⟩
      rw [heq, interact_append hnone, interact_of_stopped (answer_of_stops hstop), answer_printed]
  · have hnone := (hbefore heq).1 hlogs
    exact ⟨fun printed s => answered_iff hnone, heq ▸ interact_append hnone after⟩

end

/-- A line that is no expression, a blank line, a line that fails and a line with a value, with
their trees shown. -/
theorem interact_law_of_failing_lines :
    let console := Terminal.console
    let settings : Settings := { Settings.defaults with showTree := true }
    let lines := ["nil nil", " ", "-nil", "!nil"]
    (∀ line ∈ lines, ¬ShowsHighTree settings line) ∧
      transcript console settings lines ++ (prompt console settings ++ .onOut "\n") =
        ⟨"> > > ( - nil )\n> ( ! nil )\ntrue\n> \n",
          [.text "[line 1] Error at 'nil': Expect end of expression.\n",
            .text "[line 1] Error: Operand of '-' must be a number, got nil.\n"]⟩ ∧
      ∀ printed s, Answered console settings .fresh ["nil nil", " ", "-nil"] printed s →
        s = .fresh := by
  intro console settings lines
  have hresult : interact console settings .ended .fresh lines =
      ⟨⟨"> > > ( - nil )\n> ( ! nil )\ntrue\n> \n",
        [.text "[line 1] Error at 'nil': Expect end of expression.\n",
          .text "[line 1] Error: Operand of '-' must be a number, got nil.\n"]⟩, .exit 0⟩ := by
    decide +kernel
  have hlines : ∀ line ∈ lines, ¬Stops settings line := by
    rcases interact_ending console settings .ended .fresh lines with ⟨hbreaks, -⟩ | ⟨-, hlines⟩
    · rw [hresult] at hbreaks
      cases hbreaks
    · exact hlines
  have hshown : ∀ line ∈ lines, ¬ShowsHighTree settings line :=
    fun line hline h => hlines line hline (stops_iff.2 (.inr h))
  have hlogged : ∀ line ∈ lines, ¬LogsHighTree settings line :=
    fun line hline h => hlines line hline (stops_iff.2 (.inl h))
  obtain ⟨⟨-, hinteract⟩ | ⟨before, line, after, heq, -, hlogs, -⟩, hcut⟩ :=
    interact_law console hshown
  · refine ⟨hshown, congrArg Result.printed (hinteract.symm.trans hresult), fun printed s h => ?_⟩
    have hbefore := hcut ["nil nil", " ", "-nil"] ["!nil"] rfl
      fun line hline => hlogged line (List.mem_append_left ["!nil"] hline)
    exact ((hbefore.1 printed s).1 h).2
  · exact absurd hlogs (hlogged line (heq ▸ List.mem_append_right before List.mem_cons_self))

/-- Where trees are logged, the sum of 701 ones breaks the command down, on any console, though its
tree is not shown. -/
theorem interact_breaks_down :
    ¬∃ console, ∀ settings lines, (∀ line ∈ lines, ¬ShowsHighTree settings line) →
      interact console settings .ended .fresh lines =
        ⟨transcript console settings lines ++ (prompt console settings ++ .onOut "\n"),
          .exit 0⟩ := by
  rintro ⟨console, h⟩
  let settings : Settings := { Settings.defaults with logLevel := "DEBUG" }
  have hlogs : logsTrees settings = true := by decide +kernel
  have hhigh : HasHighTree (Ones.source 700) :=
    ⟨_, _, Ones.scan_source 700, Ones.parse_tokens 700,
      (Expr.render?_eq_none_iff _).2 (by rw [Ones.height_tree]; decide)⟩
  have hstops : Stops settings (Ones.source 700) :=
    stops_iff.2 (.inl ⟨hlogs, Ones.not_blank_source 700, hhigh⟩)
  have hanswered := h settings [Ones.source 700] fun line _ hshows => by cases hshows.1
  rw [interact_of_stopped (answer_of_stops hstops)] at hanswered
  cases congrArg Result.ending hanswered

end LoxExpr.Command
