import LoxExpr.Proofs.Command.ExitCode
import LoxExpr.Proofs.Expr.Heights

/-!
# What a run of one source text prints

A run ends in its outcome (`IsOutcome`), the value or the diagnostic of the source text, after the
log, the tokens and the tree as far as the settings ask for them. Main statement `execute_law`: a
tree that is to be written and is too high breaks the run down before its outcome, and nothing else
does, whatever the console prints.
-/

namespace LoxExpr

/-- What a failure of a source text says to the user. -/
def SourceFailure.diagnostic : SourceFailure → Option Diagnostic
  | .scan error => some error.diagnostic
  | .parse (.refused error) => some error.diagnostic
  | .eval (.error error) => some error.diagnostic
  | _ => none

namespace Command

/-! ## Printed text -/

namespace Printed

variable (p q r : Printed)

theorem append_def : p ++ q = ⟨p.out ++ q.out, p.err ++ q.err⟩ := rfl

@[simp] theorem nothing_append : nothing ++ p = p := by
  simp [append_def, nothing]

theorem append_assoc : p ++ q ++ r = p ++ (q ++ r) := by
  simp [append_def, String.append_assoc]

end Printed

/-! ## Outcomes -/

/-- The value of a source text as a line of standard output, or its diagnostic as a line of
standard error. -/
inductive IsOutcome (console : Console) (source : String) : Printed → Prop
  | value {text : String} (h : runSource source = .ok text) :
      IsOutcome console source (.onOut (console.line text))
  | diagnostic {failure : SourceFailure} {d : Diagnostic} (h : runSource source = .error failure)
      (hd : failure.diagnostic = some d) :
      IsOutcome console source (.onErr (console.line d.message))

section
variable {console : Console} {settings : Settings} {source : String} {r : Report}

theorem isOutcome_printOutcome (h : r.Tells source) :
    IsOutcome console source (printOutcome console r) := by
  have halone := h.alone
  cases r with
  | unscanned error =>
    have hfails : runSource source = .error (.scan error) := halone
    exact .diagnostic hfails rfl
  | unread tokens error =>
    have hfails : runSource source = .error (.parse (.refused error)) := halone
    exact .diagnostic hfails rfl
  | failed tokens tree error =>
    have hfails : runSource source = .error (.eval (.error error)) := halone
    exact .diagnostic hfails rfl
  | finished tokens tree value =>
    obtain ⟨text, htext, halone⟩ := halone
    cases htext
    exact .value halone

/-- A source text has one outcome. -/
theorem IsOutcome.unique {p q : Printed} (hp : IsOutcome console source p)
    (hq : IsOutcome console source q) : p = q := by
  cases hp with
  | value h =>
    cases hq with
    | value h' =>
      cases h.symm.trans h'
      rfl
    | diagnostic h' => cases h.symm.trans h'
  | diagnostic h hd =>
    cases hq with
    | value h' => cases h.symm.trans h'
    | diagnostic h' hd' =>
      cases h.symm.trans h'
      cases hd.symm.trans hd'
      rfl

/-! ## Runs -/

/-- The default settings log no trees. -/
theorem logsTrees_defaults : logsTrees Settings.defaults = false := by decide +kernel

/-- The tree of a report is to be written and is too high. -/
theorem unwritable_iff (h : r.Tells source) : Unwritable settings source ↔
    (logsTrees settings ∨ settings.showTree) ∧
      ∃ tree, r.tree = some tree ∧ Expr.maxHeight < tree.height := by
  simp only [Unwritable, HasHighTree, Expr.render?_eq_none_iff, tree_eq_some_iff h]
  refine and_congr_right fun _ => ⟨?_, ?_⟩
  · rintro ⟨tokens, tree, hscan, hparse, hheight⟩
    exact ⟨tree, ⟨tokens, hscan, hparse⟩, hheight⟩
  · rintro ⟨tree, ⟨tokens, hscan, hparse⟩, hheight⟩
    exact ⟨tokens, tree, hscan, hparse, hheight⟩

end

/-- The tree of a source text has a text exactly if it is not too high. A run writes the log and
prints the tokens and the tree as far as the settings ask for them, and then the outcome; but if the
tree is to be written and is too high, the run breaks down before its outcome. -/
theorem execute_law (console : Console) (settings : Settings) (source : String) :
    ∃ r : Report, r.Tells source ∧
    (∀ tokens tree, scan source = .ok tokens → parse tokens = .ok tree →
      r.tree = some tree ∧ ((∃ text, tree.render? = some text) ↔ tree.height ≤ Expr.maxHeight)) ∧
    (Unwritable settings source ↔ (logsTrees settings ∨ settings.showTree) ∧
      ∃ tree, r.tree = some tree ∧ Expr.maxHeight < tree.height) ∧
    (Unwritable settings source → ∀ s : Session, execute console settings s source =
      (if logsTrees settings then (writeLog settings (notes r)).1
        else (writeLog settings (notes r)).1 ++ printTokens console settings r,
        .error .treeTooDeep)) ∧
    (¬Unwritable settings source → ∃ tree outcome, printTree console settings r = .ok tree ∧
      IsOutcome console source outcome ∧ ∀ s : Session, execute console settings s source =
        ((writeLog settings (notes r)).1 ++ printTokens console settings r ++ tree ++ outcome,
          .ok (s.after r))) := by
  obtain ⟨r, hr⟩ := exists_tells source
  refine ⟨r, hr, fun tokens tree hscan hparse => ⟨?_, tree.exists_render?_iff⟩, unwritable_iff hr,
    execute_eq_of_unwritable console hr, fun h => ?_⟩
  · exact (tree_eq_some_iff hr).2 ⟨tokens, hscan, hparse⟩
  · obtain ⟨tree, htree, hexecute⟩ := execute_eq_of_writable console hr h
    exact ⟨tree, _, htree, isOutcome_printOutcome hr, hexecute⟩

/-- The sum of 701 ones is read and has no text, so it cannot be run with its tree shown, on any
console. -/
theorem execute_breaks_down :
    (¬∀ source tokens tree, scan source = .ok tokens → parse tokens = .ok tree →
      ∃ text, tree.render? = some text) ∧
    ¬∃ console, ∀ settings source, ∃ printed s,
      execute console settings .fresh source = (printed, .ok s) := by
  have hrender : (Ones.tree 700).render? = none :=
    (Expr.render?_eq_none_iff _).2 (by rw [Ones.height_tree]; decide)
  refine ⟨fun h => ?_, fun h => ?_⟩
  · obtain ⟨text, htext⟩ := h _ _ _ (Ones.scan_source 700) (Ones.parse_tokens 700)
    cases hrender.symm.trans htext
  · obtain ⟨console, h⟩ := h
    let settings : Settings := { Settings.defaults with showTree := true }
    have hunwritable : Unwritable settings (Ones.source 700) :=
      ⟨.inr rfl, _, _, Ones.scan_source 700, Ones.parse_tokens 700, hrender⟩
    obtain ⟨printed, s, hexecute⟩ := h settings (Ones.source 700)
    have hbreaks := execute_of_unwritable console hunwritable .fresh
    rw [hexecute] at hbreaks
    cases hbreaks

end Command

end LoxExpr
