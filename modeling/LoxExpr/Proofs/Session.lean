import LoxExpr.Proofs.Stages
import LoxExpr.Session

/-!
# Sessions

No source text breaks a run down, as each stage hands on what the next one can take; so a report
tells what the stages give. Main statement `session_law`: this holds for all runs of a session,
and its flags tell of the failures since the last reset.
-/

namespace LoxExpr

/-! ## Reports -/

/-- The failure that a run ended in. -/
def Report.error : Report → Option SourceFailure
  | .unscanned error => some (.scan error)
  | .unread _ error => some (.parse (.refused error))
  | .failed _ _ error => some (.eval (.error error))
  | .finished .. => none

/-- A report holds what the stages give for a source text as far as they get, and a value or a
failure; the text by itself has that value as its output, or that failure. -/
structure Report.Tells (r : Report) (source : String) : Prop where
  ofSource : ofSource source = .ok r
  stages : match r.error with
    | some (.scan error) =>
      scan source = .error error ∧ r.tokens = [] ∧ r.tree = none ∧ r.value = none
    | some (.parse (.refused error)) =>
      scan source = .ok r.tokens ∧ parse r.tokens = .error (.refused error) ∧
        r.tree = none ∧ r.value = none
    | some (.eval (.error error)) =>
      scan source = .ok r.tokens ∧ r.value = none ∧
        ∃ tree, r.tree = some tree ∧ parse r.tokens = .ok tree ∧
          tree.eval = .error (.error error)
    | some _ => False
    | none =>
      scan source = .ok r.tokens ∧ ∃ tree value, r.tree = some tree ∧ r.value = some value ∧
        parse r.tokens = .ok tree ∧ tree.eval = .ok value
  alone : match r.error with
    | some failure => runSource source = .error failure
    | none => ∃ text, r.output = some text ∧ runSource source = .ok text

section
variable {source : String} {tokens : List Token} {tree : Expr}

theorem tells_unscanned {error : ScanError} (hscan : scan source = .error error) :
    (Report.unscanned error).Tells source where
  ofSource := by simp only [Report.ofSource, hscan]
  stages := ⟨hscan, rfl, rfl, rfl⟩
  alone := by
    simp only [Report.error, runSource, evalSource, hscan, Except.mapError, bind, Except.bind]

theorem tells_unread {error : ParseError} (hscan : scan source = .ok tokens)
    (hparse : parse tokens = .error (.refused error)) :
    (Report.unread tokens error).Tells source where
  ofSource := by simp only [Report.ofSource, hscan, hparse]
  stages := ⟨hscan, hparse, rfl, rfl⟩
  alone := by
    simp only [Report.error, runSource, evalSource, hscan, hparse, Except.mapError, bind,
      Except.bind]

theorem tells_failed {error : EvalError} (hscan : scan source = .ok tokens)
    (hparse : parse tokens = .ok tree) (heval : tree.eval = .error (.error error)) :
    (Report.failed tokens tree error).Tells source where
  ofSource := by simp only [Report.ofSource, hscan, hparse, heval]
  stages := ⟨hscan, rfl, tree, rfl, hparse, heval⟩
  alone := by
    simp only [Report.error, runSource, evalSource, hscan, hparse, heval, Except.mapError, bind,
      Except.bind]

theorem tells_finished {value : Value} (hscan : scan source = .ok tokens)
    (hparse : parse tokens = .ok tree) (heval : tree.eval = .ok value) :
    (Report.finished tokens tree value).Tells source where
  ofSource := by simp only [Report.ofSource, hscan, hparse, heval]
  stages := ⟨hscan, tree, value, rfl, rfl, hparse, heval⟩
  alone := by
    refine ⟨value.text, rfl, ?_⟩
    simp only [runSource, evalSource, hscan, hparse, heval, Except.mapError, bind, Except.bind]
    rfl

end

/-- Every source text has a report that tells what became of it. -/
theorem exists_tells (source : String) : ∃ r : Report, r.Tells source := by
  cases hscan : scan source with
  | error error => exact ⟨_, tells_unscanned hscan⟩
  | ok tokens =>
    obtain ⟨tree, hderives, hparse⟩ | ⟨error, hparse⟩ := parse_of_scan hscan
    · obtain ⟨value, heval⟩ | ⟨error, heval⟩ := eval_of_derives hderives
      · exact ⟨_, tells_finished hscan hparse heval⟩
      · exact ⟨_, tells_failed hscan hparse heval⟩
    · exact ⟨_, tells_unread hscan hparse⟩

/-! ## Calls -/

/-- What is asked of a session. -/
inductive Call
  | run (source : String)
  | reset
  deriving DecidableEq

/-- What comes of a call. -/
inductive Event
  | ran (source : String) (report : Report)
  | reset

def Event.call : Event → Call
  | .ran source _ => .run source
  | .reset => .reset

namespace Session

def step (s : Session) : Call → Except SourceBreakdown (Event × Session)
  | .run source => do
    let (report, s) ← s.run source
    return (.ran source report, s)
  | .reset => return (.reset, s.reset)

/-- Makes calls one after the other. -/
def play (s : Session) : List Call → Except SourceBreakdown (List Event × Session)
  | [] => return ([], s)
  | call :: calls => do
    let (event, s) ← s.step call
    let (events, s) ← s.play calls
    return (event :: events, s)

/-- A run ended in a failure, and there was no reset after it. -/
def FailedSinceReset (events : List Event) (failure : SourceFailure) : Prop :=
  ∃ before source report after, events = before ++ .ran source report :: after ∧
    Event.reset ∉ after ∧ report.error = some failure

/-- The flags of a session are those of the failures since its last reset. -/
structure Remembers (s : Session) (events : List Event) : Prop where
  hadError : s.hadError = true ↔
    (∃ error, FailedSinceReset events (.scan error)) ∨
      ∃ failure, FailedSinceReset events (.parse failure)
  hadRuntimeError : s.hadRuntimeError = true ↔ ∃ failure, FailedSinceReset events (.eval failure)

variable {s : Session} {events : List Event} {failure : SourceFailure}

/-- A place in a history with a last event is that event or one before it. -/
theorem snoc_eq_append_cons {last event : Event} {before after : List Event}
    (h : events ++ [last] = before ++ event :: after) :
    (after = [] ∧ events = before ∧ last = event) ∨
      ∃ more, after = more ++ [last] ∧ events = before ++ event :: more := by
  obtain rfl | ⟨more, final, rfl⟩ := List.eq_nil_or_concat after
  · obtain ⟨hevents, hlast⟩ := List.append_singleton_inj.1 h
    exact .inl ⟨rfl, hevents, hlast⟩
  · rw [List.concat_eq_append, ← List.cons_append, ← List.append_assoc] at h
    obtain ⟨hevents, rfl⟩ := List.append_singleton_inj.1 h
    exact .inr ⟨more, List.concat_eq_append, hevents⟩

theorem not_failedSinceReset_nil : ¬FailedSinceReset [] failure := by
  rintro ⟨before, source, report, after, heq, -, -⟩
  simp at heq

theorem not_failedSinceReset_reset : ¬FailedSinceReset (events ++ [.reset]) failure := by
  rintro ⟨before, source, report, after, heq, hreset, -⟩
  obtain ⟨-, -, hlast⟩ | ⟨more, rfl, -⟩ := snoc_eq_append_cons heq
  · cases hlast
  · exact hreset (List.mem_append_right _ List.mem_cons_self)

/-- A run keeps the failures since the last reset, and adds its own. -/
theorem failedSinceReset_ran {source : String} {report : Report} :
    FailedSinceReset (events ++ [.ran source report]) failure ↔
      FailedSinceReset events failure ∨ report.error = some failure := by
  constructor
  · rintro ⟨before, source', report', after, heq, hreset, herror⟩
    obtain ⟨-, -, hlast⟩ | ⟨more, rfl, hevents⟩ := snoc_eq_append_cons heq
    · cases hlast
      exact .inr herror
    · refine .inl ⟨before, source', report', more, hevents, fun hmem => hreset ?_, herror⟩
      exact List.mem_append_left _ hmem
  · rintro (⟨before, source', report', after, rfl, hreset, herror⟩ | herror)
    · refine ⟨before, source', report', after ++ [.ran source report], by simp, ?_, herror⟩
      intro hmem
      obtain hmem | hmem := List.mem_append.1 hmem
      · exact hreset hmem
      · cases List.mem_singleton.1 hmem
    · exact ⟨events, source, report, [], rfl, List.not_mem_nil, herror⟩

/-! ## Flags -/

theorem isStaticError_iff (r : Report) : r.isStaticError = true ↔
    (∃ error, r.error = some (.scan error)) ∨ ∃ failure, r.error = some (.parse failure) := by
  cases r <;> simp [Report.isStaticError, Report.error]

theorem isRuntimeError_iff (r : Report) :
    r.isRuntimeError = true ↔ ∃ failure, r.error = some (.eval failure) := by
  cases r <;> simp [Report.isRuntimeError, Report.error]

theorem remembers_fresh : fresh.Remembers [] where
  hadError := by simp [fresh, not_failedSinceReset_nil]
  hadRuntimeError := by simp [fresh, not_failedSinceReset_nil]

theorem remembers_reset : s.reset.Remembers (events ++ [.reset]) where
  hadError := by simp [reset, fresh, not_failedSinceReset_reset]
  hadRuntimeError := by simp [reset, fresh, not_failedSinceReset_reset]

theorem Remembers.after (h : s.Remembers events) (source : String) (r : Report) :
    (s.after r).Remembers (events ++ [.ran source r]) where
  hadError := by
    simp only [Session.after, Bool.or_eq_true, h.hadError, isStaticError_iff, failedSinceReset_ran,
      exists_or]
    exact or_or_or_comm
  hadRuntimeError := by
    simp only [Session.after, Bool.or_eq_true, h.hadRuntimeError, isRuntimeError_iff,
      failedSinceReset_ran, exists_or]

/-! ## Histories -/

/-- A call does not fail, a run has the report of its source text, and the flags stay right. -/
theorem step_spec (h : s.Remembers events) (call : Call) :
    ∃ event s', s.step call = .ok (event, s') ∧ event.call = call ∧
      (∀ source r, event = .ran source r → r.Tells source) ∧
      s'.Remembers (events ++ [event]) := by
  cases call with
  | run source =>
    obtain ⟨r, hr⟩ := exists_tells source
    refine ⟨.ran source r, s.after r, ?_, rfl, ?_, h.after source r⟩
    · simp only [step, run, hr.ofSource, bind, Except.bind, pure, Except.pure]
    · rintro _ _ ⟨⟩
      exact hr
  | reset =>
    refine ⟨.reset, s.reset, rfl, rfl, ?_, remembers_reset⟩
    rintro source r ⟨⟩

theorem play_spec (h : s.Remembers events) (calls : List Call) :
    ∃ events' s', s.play calls = .ok (events', s') ∧ events'.map Event.call = calls ∧
      (∀ source r, .ran source r ∈ events' → r.Tells source) ∧
      s'.Remembers (events ++ events') := by
  induction calls generalizing s events with
  | nil =>
    refine ⟨[], s, rfl, rfl, ?_, by simpa using h⟩
    intro source r hmem
    cases hmem
  | cons call calls ih =>
    obtain ⟨event, s₁, hstep, hcall, htells, h₁⟩ := step_spec h call
    obtain ⟨events', s₂, hplay, hcalls, htells', h₂⟩ := ih h₁
    refine ⟨event :: events', s₂, ?_, ?_, ?_, by simpa using h₂⟩
    · simp only [play, hstep, hplay, bind, Except.bind, pure, Except.pure]
    · rw [List.map_cons, hcall, hcalls]
    · intro source r hmem
      obtain heq | hmem := List.mem_cons.1 hmem
      · exact htells source r heq.symm
      · exact htells' source r hmem

theorem play_cons_inv {s' : Session} {call : Call} {calls : List Call}
    (h : s.play (call :: calls) = .ok (events, s')) :
    ∃ event s₁ more, s.step call = .ok (event, s₁) ∧ s₁.play calls = .ok (more, s') ∧
      events = event :: more := by
  rw [play] at h
  cases hstep : s.step call with
  | error breakdown =>
    rw [hstep] at h
    cases h
  | ok result =>
    obtain ⟨event, s₁⟩ := result
    cases hplay : s₁.play calls with
    | error breakdown =>
      simp only [hstep, hplay, bind, Except.bind] at h
      cases h
    | ok result =>
      simp only [hstep, hplay, bind, Except.bind, pure, Except.pure] at h
      cases h
      exact ⟨event, s₁, result.1, rfl, hplay, rfl⟩

/-- After calls, further calls go on from the session that is left. -/
theorem play_append {s' : Session} {calls : List Call} (h : s.play calls = .ok (events, s'))
    (later : List Call) :
    s.play (calls ++ later) = (s'.play later).map fun (more, last) => (events ++ more, last) := by
  induction calls generalizing s events with
  | nil =>
    cases h
    rw [List.nil_append]
    cases s'.play later <;> rfl
  | cons call calls ih =>
    obtain ⟨event, s₁, more, hstep, hplay, rfl⟩ := play_cons_inv h
    rw [List.cons_append, play, hstep]
    simp only [bind, Except.bind, ih hplay]
    cases s'.play later <;> rfl

end Session

/-- Whatever is asked of a new session, in whatever order: no call breaks down, and every run has
the report that its source text has by itself. After any first part of the calls, the flags tell
whether a run since the last reset failed before evaluation, and whether one failed in it. -/
theorem session_law (calls : List Call) :
    ∃ events last, Session.fresh.play calls = .ok (events, last) ∧
      events.map Event.call = calls ∧
      (∀ source r, .ran source r ∈ events → r.Tells source) ∧
      ∀ before, before <+: calls →
        ∃ past s, past <+: events ∧ Session.fresh.play before = .ok (past, s) ∧
          s.Remembers past := by
  obtain ⟨events, last, hplay, hcalls, htells, -⟩ :=
    Session.play_spec Session.remembers_fresh calls
  refine ⟨events, last, hplay, hcalls, htells, ?_⟩
  rintro before ⟨after, rfl⟩
  obtain ⟨past, s, hpast, -, -, hs⟩ := Session.play_spec Session.remembers_fresh before
  obtain ⟨more, last', hmore, -, -, -⟩ := Session.play_spec hs after
  have hevents := Session.play_append hpast after
  rw [hplay, hmore] at hevents
  cases hevents
  exact ⟨past, s, List.prefix_append past more, hpast, hs⟩

end LoxExpr
