import LoxExpr.Proofs.Settings.Loading

/-!
# Where settings come from

Each field of the settings has sources of its own: one variable, one entry of the file, and a
default, the first of which that is there counts (`Field.value?`). Main statement `load_fieldwise`:
loaded settings are made of these values and depend on nothing else, apart from a log level that is
not known.
-/

namespace LoxExpr

namespace Text

/-- No character before the small letters has another upper case. -/
theorem upperChar_of_lt {c : Char} (h : c.toNat < 0x61) : upperChar c = [c] := by
  have hexpanding : ∀ entry ∈ expandingUppercase.toList, 0x61 ≤ entry.1 := by decide +kernel
  have hruns : ∀ run ∈ uppercaseRuns.toList, 0x61 ≤ run.first := by decide +kernel
  have hno_expanding : expandingUppercase.find? (·.1 = c.toNat) = none := by
    rw [← Array.find?_toList, List.find?_eq_none]
    intro entry hmem
    have hle := hexpanding entry hmem
    simp only [decide_eq_true_eq]
    omega
  have hno_run : (uppercaseRuns.find? fun r =>
      r.first ≤ c.toNat && c.toNat ≤ r.last && (c.toNat - r.first) % r.step = 0) = none := by
    rw [← Array.find?_toList, List.find?_eq_none]
    intro run hmem
    have hle := hruns run hmem
    simp only [Bool.and_eq_true, decide_eq_true_eq]
    omega
  simp only [upperChar, hno_expanding, hno_run]

theorem upper_of_forall_lt {s : String} (h : ∀ c ∈ s.toList, c.toNat < 0x61) : upper s = s := by
  rw [upper, List.flatMap_congr fun c hc => upperChar_of_lt (h c hc), List.flatMap_singleton',
    String.ofList_toList]

end Text

namespace Settings

/-! ## Fields -/

/-- What the fields are read from. -/
structure Sources where
  environment : List (String × String)
  document : Toml.Table

/-- A field of the settings: the name of its variable, the place of its entry in a document, and
what is made of the text of the one and the value of the other. -/
structure Field (α : Type) where
  name : String
  table : String
  key : String
  ofText : String → α
  ofValue : Toml.Value → Option α
  default : α

namespace Field

variable {α : Type}

def inDocument? (f : Field α) (document : Toml.Table) : Option α :=
  (valueAt? document f.table f.key).elim (some f.default) f.ofValue

/-- The value of a field. The variable counts even if it is empty. -/
def value? (f : Field α) (sources : Sources) : Option α :=
  match sources.environment.lookup f.name with
  | some text => some (f.ofText text)
  | none => f.inDocument? sources.document

/-- The first source of a field that is there is the same. -/
def SameIn (f : Field α) (a b : Sources) : Prop :=
  a.environment.lookup f.name = b.environment.lookup f.name ∧
    (a.environment.lookup f.name = none →
      valueAt? a.document f.table f.key = valueAt? b.document f.table f.key)

theorem SameIn.value?_eq {f : Field α} {a b : Sources} (h : f.SameIn a b) :
    f.value? a = f.value? b := by
  obtain ⟨htext, hvalue⟩ := h
  unfold value?
  rw [← htext]
  cases hlookup : a.environment.lookup f.name with
  | some text => rfl
  | none => simp only [inDocument?, hvalue hlookup]

theorem value?_of_inDocument? {f : Field α} {sources : Sources} {a : α}
    (h : f.inDocument? sources.document = some a) :
    f.value? sources = some (((sources.environment.lookup f.name).map f.ofText).getD a) := by
  unfold value?
  cases sources.environment.lookup f.name with
  | some text => rfl
  | none => exact h

end Field

def promptField : Field String where
  name := promptVariable
  table := "repl"
  key := "prompt"
  ofText := id
  ofValue value := value.text.toOption
  default := defaults.prompt

def levelField : Field String where
  name := logLevelVariable
  table := "logging"
  key := "level"
  ofText := Text.upper
  ofValue value := value.text.toOption.map Text.upper
  default := defaults.logLevel

/-- One of the switches, which are all off by default. -/
def switchField (name key : String) : Field Bool where
  name := name
  table := "debug"
  key := key
  ofText := isOn
  ofValue := switchValue?
  default := false

def tokensField : Field Bool := switchField showTokensVariable "tokens"

def treeField : Field Bool := switchField showTreeVariable "ast"

/-! ## Log levels -/

def IsKnownLevel (level : String) : Prop := (levels.lookup level).isSome = true

instance (level : String) : Decidable (IsKnownLevel level) :=
  inferInstanceAs (Decidable ((levels.lookup level).isSome = true))

theorem upper_of_mem_levels : ∀ entry ∈ levels, Text.upper entry.1 = entry.1 := by
  have hlt : ∀ entry ∈ levels, ∀ c ∈ entry.1.toList, c.toNat < 0x61 := by simp [levels]
  exact fun entry hmem => Text.upper_of_forall_lt (hlt entry hmem)

theorem upper_defaultLevel : Text.upper defaultLevel = defaultLevel :=
  upper_of_mem_levels (defaultLevel, 30) (by simp [levels, defaultLevel])

theorem isKnownLevel_defaultLevel : IsKnownLevel defaultLevel := rfl

/-- A known level stands for its own number. -/
theorem lookup_of_isKnownLevel {level : String} (h : IsKnownLevel level) :
    levels.lookup level = some (levelNumber level) := by
  have hupper : Text.upper level = level := by
    obtain ⟨entry, hmem, heq⟩ := List.lookup_isSome_iff.1 h
    rw [beq_iff_eq.1 heq, upper_of_mem_levels entry hmem]
  obtain ⟨number, hnumber⟩ := Option.isSome_iff_exists.1 h
  simp [levelNumber, hupper, hnumber]

/-! ## Loading -/

/-- What settings are loaded from: the variables, and the document in the chosen file, which counts
as empty if there is no file. -/
def FoundIn (s : Surroundings) (path : Option Path) (sources : Sources) : Prop :=
  sources.environment = s.environment ∧
    (chosenFile s path = none ∧ sources.document = [] ∨ HoldsDocument s path sources.document)

/-- Settings and warnings are made of the values of the fields. A level that is not known gives way
to the default, with one warning. -/
structure Resolves (sources : Sources) (settings : Settings) (warnings : List String) : Prop where
  prompt : promptField.value? sources = some settings.prompt
  logLevel : ∃ level, levelField.value? sources = some level ∧
    settings.logLevel = (if IsKnownLevel level then level else defaultLevel) ∧
    warnings = (if IsKnownLevel level then [] else [unknownLevelMessage level])
  showTokens : tokensField.value? sources = some settings.showTokens
  showTree : treeField.value? sources = some settings.showTree

section
variable {s : Surroundings} {path : Option Path} {document : Toml.Table} {shown : String}
  {sources : Sources} {settings loaded : Settings} {warnings : List String}

theorem inDocument?_levelField (document : Toml.Table) :
    levelField.inDocument? document =
      ((valueAt? document "logging" "level").elim (some defaults.logLevel)
        (·.text.toOption)).map Text.upper := by
  change (valueAt? document "logging" "level").elim _ _ = _
  cases valueAt? document "logging" "level" with
  | none => exact congrArg some upper_defaultLevel.symm
  | some value => rfl

/-- Settings have the values that their fields have in a document. -/
structure IsRead (document : Toml.Table) (settings : Settings) : Prop where
  prompt : promptField.inDocument? document = some settings.prompt
  logLevel : levelField.inDocument? document = some settings.logLevel
  showTokens : tokensField.inDocument? document = some settings.showTokens
  showTree : treeField.inDocument? document = some settings.showTree

theorem isRead_defaults : IsRead [] defaults := ⟨rfl, rfl, rfl, rfl⟩

theorem isRead_of_ofDocument (h : ofDocument document shown = .ok settings) :
    IsRead document settings := by
  simp only [ofDocument, bind_eq_ok_iff, textAt_eq_ok_iff, switch_eq_ok_iff] at h
  obtain ⟨repl, hrepl, prompt, hprompt, logging, hlogging, level, hlevel, debug, hdebug, tokens,
    htokens, tree, htree, hsettings⟩ := h
  rw [lookup_of_tableAt hrepl] at hprompt
  rw [lookup_of_tableAt hlogging] at hlevel
  rw [lookup_of_tableAt hdebug] at htokens htree
  cases hsettings
  exact ⟨hprompt, by rw [inDocument?_levelField, hlevel, Option.map_some], htokens, htree⟩

theorem isRead_of_ofFile (hfound : FoundIn s path sources) (h : ofFile s path = .ok settings) :
    IsRead sources.document settings := by
  obtain ⟨-, ⟨hnone, hempty⟩ | hdocument⟩ := hfound
  · rw [ofFile_eq, hnone] at h
    cases hhiding : hidingFault? s path with
    | none =>
      simp only [hhiding, Option.elim_none, Except.ok.injEq] at h
      rw [hempty, ← h]
      exact isRead_defaults
    | some fault => simp [hhiding] at h
  · rw [ofFile_of_holdsDocument hdocument] at h
    exact isRead_of_ofDocument h

theorem withKnownLevel_eq (settings : Settings) :
    settings.withKnownLevel =
      ({ settings with
          logLevel := if IsKnownLevel settings.logLevel then settings.logLevel else defaultLevel },
        if IsKnownLevel settings.logLevel then [] else [unknownLevelMessage settings.logLevel]) := by
  by_cases h : (levels.lookup settings.logLevel).isSome = true
  · simp [withKnownLevel, IsKnownLevel, h]
  · simp [withKnownLevel, IsKnownLevel, h]

theorem IsRead.resolves (h : IsRead sources.document settings)
    (hloaded : (settings.override sources.environment).withKnownLevel = (loaded, warnings)) :
    Resolves sources loaded warnings := by
  have hprompt : promptField.value? sources =
      some (settings.override sources.environment).prompt := by
    simpa [promptField, override] using Field.value?_of_inDocument? h.prompt
  have hlevel : levelField.value? sources =
      some (settings.override sources.environment).logLevel := by
    simpa [levelField, override] using Field.value?_of_inDocument? h.logLevel
  have htokens : tokensField.value? sources =
      some (settings.override sources.environment).showTokens := by
    simpa [tokensField, switchField, override] using Field.value?_of_inDocument? h.showTokens
  have htree : treeField.value? sources =
      some (settings.override sources.environment).showTree := by
    simpa [treeField, switchField, override] using Field.value?_of_inDocument? h.showTree
  rw [withKnownLevel_eq] at hloaded
  obtain ⟨rfl, rfl⟩ := Prod.mk.inj hloaded
  exact ⟨hprompt, ⟨_, hlevel, rfl, rfl⟩, htokens, htree⟩

theorem resolves_of_load (hfound : FoundIn s path sources)
    (h : load s path = .ok (loaded, warnings)) : Resolves sources loaded warnings := by
  obtain ⟨settings, hfile, hloaded⟩ := bind_eq_ok_iff.1 h
  refine (isRead_of_ofFile hfound hfile).resolves ?_
  rw [hfound.1]
  exact Except.ok.inj hloaded

theorem exists_foundIn (h : load s path = .ok (loaded, warnings)) :
    ∃ sources, FoundIn s path sources := by
  rcases chosenFile_cases s path with ⟨hnone, -⟩ | ⟨document, hdocument⟩ | ⟨failure, hunread⟩
  · exact ⟨⟨s.environment, []⟩, rfl, .inl ⟨hnone, rfl⟩⟩
  · exact ⟨⟨s.environment, document⟩, rfl, .inr hdocument⟩
  · exact absurd h (Obstacle.load_ne (.file hunread))

theorem Resolves.isKnownLevel (h : Resolves sources loaded warnings) :
    IsKnownLevel loaded.logLevel := by
  obtain ⟨level, -, hlevel, -⟩ := h.logLevel
  rw [hlevel]
  split
  · next hknown => exact hknown
  · exact isKnownLevel_defaultLevel

end

end Settings

end LoxExpr
