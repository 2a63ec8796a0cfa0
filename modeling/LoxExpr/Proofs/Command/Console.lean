import LoxExpr.Proofs.Expr.Evaluation
import LoxExpr.Terminal

/-!
# What a console shows

The library of the console (`rich`) documents what it makes of a text that is printed as a line: it
takes a few control codes out, puts spaces in the place of tabs, may take blanks off the end of a
line that is too long, and leaves everything else as it is, whatever its length.
`Console.ShowsTexts` says this for a console, and theorems have it as a hypothesis;
`Terminal.showsTexts_console` is an instance.
Main statement `Console.ShowsTexts.isLineOf`: which texts come out as they are.
-/

namespace LoxExpr.Command

/-! ## Shown texts -/

/-- The control codes that are taken out of a text: bell, backspace, vertical tab, form feed and
carriage return. -/
def isControlCode (c : Char) : Bool := [0x07, 0x08, 0x0b, 0x0c, 0x0d].contains c.toNat

/-- The most spaces that stand for a tab. -/
def tabSize : Nat := 8

/-- Where a line ends: before a newline, or at the end of the text. -/
def AtLineEnd (text : List Char) : Prop := ∀ c ∈ text.head?, c = '\n'

/-- A text that shows another: the same characters in the same order, but for each tab up to eight
spaces, nothing for a control code, and nothing or something for blanks at the end of a line. -/
inductive Shows : List Char → List Char → Prop
  | nil : Shows [] []
  | kept {c : Char} {text shown : List Char} (htab : c ≠ '\t') (hcontrol : ¬isControlCode c)
      (h : Shows text shown) : Shows (c :: text) (c :: shown)
  | filled {n : Nat} {text shown : List Char} (hn : 1 ≤ n ∧ n ≤ tabSize) (h : Shows text shown) :
      Shows ('\t' :: text) (List.replicate n ' ' ++ shown)
  | dropped {c : Char} {text shown : List Char} (hcontrol : isControlCode c)
      (h : Shows text shown) : Shows (c :: text) shown
  | trimmed {c : Char} {text shown : List Char} (hblank : Text.isBlank c) (hnewline : c ≠ '\n')
      (hend : AtLineEnd shown) (h : Shows text shown) : Shows (c :: text) shown

/-- A text without tabs and control codes. -/
def IsPlain (text : List Char) : Prop := ∀ c ∈ text, c ≠ '\t' ∧ ¬isControlCode c

instance : DecidablePred IsPlain := fun text => List.decidableBAll _ text

/-- Some line of a text ends in a blank. -/
def EndsInBlank (text : List Char) : Prop :=
  ∃ before c after, text = before ++ c :: after ∧ Text.isBlank c ∧ c ≠ '\n' ∧ AtLineEnd after

/-- What is printed for a text as a line: a text that shows it, and a newline. It is the text itself
if that is plain, up to blanks at the end of lines, and only then. -/
structure IsLineOf (text line : String) : Prop where
  shows : ∃ shown : String, line = shown ++ "\n" ∧ Shows text.toList shown.toList
  exact : IsPlain text.toList → ¬EndsInBlank text.toList → line = text ++ "\n"
  plain : line = text ++ "\n" → IsPlain text.toList

/-- The console prints texts as lines that show them. -/
def Console.ShowsTexts (console : Console) : Prop :=
  ∀ text, ∃ shown : String, console.line text = shown ++ "\n" ∧ Shows text.toList shown.toList

section
variable {c : Char} {text output : List Char}

theorem Shows.isPlain (h : Shows text output) : IsPlain output := by
  induction h with
  | nil => simp [IsPlain]
  | kept htab hcontrol _ ih => exact List.forall_mem_cons.2 ⟨⟨htab, hcontrol⟩, ih⟩
  | filled _ _ ih =>
    refine List.forall_mem_append.2 ⟨fun c hc => ?_, ih⟩
    rw [(List.mem_replicate.1 hc).2]
    decide
  | dropped _ _ ih | trimmed _ _ _ _ ih => exact ih

theorem EndsInBlank.cons (h : EndsInBlank text) (c : Char) : EndsInBlank (c :: text) := by
  obtain ⟨before, blank, after, rfl, h⟩ := h
  exact ⟨c :: before, blank, after, rfl, h⟩

theorem Shows.eq_of_isPlain (h : Shows text output) (hplain : IsPlain text)
    (hblank : ¬EndsInBlank text) : output = text := by
  induction h with
  | nil => rfl
  | @kept c _ _ _ _ _ ih =>
    rw [ih (List.forall_mem_cons.1 hplain).2 fun h => hblank (h.cons c)]
  | filled => exact absurd rfl (List.forall_mem_cons.1 hplain).1.1
  | dropped hcontrol => exact absurd hcontrol (List.forall_mem_cons.1 hplain).1.2
  | @trimmed c text _ hc hnewline hend _ ih =>
    -- nothing is left out behind this blank, so the line ends in it
    obtain rfl := ih (List.forall_mem_cons.1 hplain).2 fun h => hblank (h.cons c)
    exact absurd ⟨[], c, _, rfl, hc, hnewline, hend⟩ hblank

/-- A console that shows texts prints those as they are that are plain. -/
theorem Console.ShowsTexts.isLineOf {console : Console} (h : console.ShowsTexts) (text : String) :
    IsLineOf text (console.line text) := by
  obtain ⟨shown, hline, hshows⟩ := h text
  refine ⟨⟨shown, hline, hshows⟩, fun hplain hblank => ?_, fun heq => ?_⟩
  · rw [hline, String.toList_inj.1 (hshows.eq_of_isPlain hplain hblank)]
  · obtain rfl := String.append_left_inj "\n" |>.1 (hline.symm.trans heq)
    exact hshows.isPlain

theorem shows_of_filter (h : Shows (text.filter (!isControlCode ·)) output) :
    Shows text output := by
  induction text generalizing output with
  | nil => exact h
  | cons c text ih =>
    cases hc : isControlCode c with
    | true => exact .dropped hc (ih (by simpa [hc] using h))
    | false =>
      rw [List.filter_cons_of_pos (by simp [hc])] at h
      cases h with
      | kept htab hcontrol h => exact .kept htab hcontrol (ih h)
      | filled hn h => exact .filled hn (ih h)
      | dropped hcontrol => exact absurd (hcontrol.symm.trans hc) (by decide)
      | trimmed hblank hnewline hend h => exact .trimmed hblank hnewline hend (ih h)

end

end Command

/-! ## The terminal -/

namespace Terminal

open Command

theorem nextStop_bounds (column : Nat) :
    column ≤ nextStop column ∧ nextStop column < column + tabStop := by
  simp only [nextStop, tabStop]
  omega

/-- Filling tabs leaves the part before the text as it is. -/
theorem exists_shows_fillTabs {text : List Char} (column : Nat) (part : List Char)
    (h : ∀ c ∈ text, ¬isControlCode c) :
    ∃ output, Shows text output ∧ fillTabs column part text = part.reverse ++ output := by
  induction column, part, text using fillTabs.induct with
  | case1 column part => exact ⟨[], .nil, by simp [fillTabs]⟩
  | case2 column part rest ih =>
    obtain ⟨hcontrol, h⟩ := List.forall_mem_cons.1 h
    obtain ⟨output, hshows, heq⟩ := ih h
    exact ⟨'\n' :: output, .kept (by decide) hcontrol hshows, by simp [fillTabs, heq]⟩
  | case3 column part rest part' reached stop ih =>
    obtain ⟨-, h⟩ := List.forall_mem_cons.1 h
    obtain ⟨output, hshows, heq⟩ := ih h
    have hstop : reached ≤ stop ∧ stop < reached + tabSize := nextStop_bounds reached
    refine ⟨List.replicate (stop - reached + 1) ' ' ++ output, .filled (by omega) hshows, ?_⟩
    simp only [fillTabs]
    change part' ++ List.replicate (stop - reached) ' ' ++ fillTabs stop [] rest = _
    rw [heq]
    simp [part', List.replicate_succ]
  | case4 column part c rest hnewline htab ih =>
    obtain ⟨hcontrol, h⟩ := List.forall_mem_cons.1 h
    obtain ⟨output, hshows, heq⟩ := ih h
    exact ⟨c :: output, .kept htab hcontrol hshows, by simp [fillTabs, heq]⟩

theorem shows_shown (text : String) : Shows text.toList (shown text).toList := by
  have hkept (c : Char) (hc : c ∈ plain text) : ¬isControlCode c := by
    have hcontrol : (!isControlCode c) = true := (List.mem_filter.1 hc).2
    simpa using hcontrol
  obtain ⟨output, hshows, heq⟩ := exists_shows_fillTabs 0 [] hkept
  rw [shown, String.toList_ofList, heq]
  exact shows_of_filter hshows

/-- The terminal does what is documented of a console. -/
theorem showsTexts_console : console.ShowsTexts :=
  fun text => ⟨shown text, rfl, shows_shown text⟩

end Terminal

end LoxExpr
