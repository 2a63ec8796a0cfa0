import LoxExpr.Proofs.Expr.Evaluation
import LoxExpr.Settings

/-!
# How settings fail to load

Every failure of loading has its cause in the file that was chosen, and never in the environment:
`Obstacle` lists the causes. Main statement `load_outcome`: settings are loaded exactly if nothing
is in the way, a failure is always one of the obstacles, and an obstacle that has no message for the
user is never hidden behind one that has.
-/

namespace LoxExpr

/-- The failures of loading settings that have no message for the user. A path of the command line
leads to no other. -/
def SettingsFailure.IsUnhandled : SettingsFailure → Prop
  | .notUtf8 | .unseen _ | .notTable | .longInteger _ | .tooDeep | .unwritable _ => True
  | .unreadable .. | .malformed _ | .notSwitch .. | .nulInPath => False

namespace Settings

theorem message_eq_none {failure : SettingsFailure} (h : failure.IsUnhandled) :
    failure.message = none := by
  cases failure <;> first | rfl | exact absurd h id

/-! ## The chosen file -/

section
variable (s : Surroundings) (path : Option Path)

/-- The file that settings are loaded from: the given one, or else the one with the usual name if a
look finds something there. -/
def chosenFile : Option Path :=
  match path with
  | some path => some path
  | none => if (s.look (.ofName fileName)).isNone then some (.ofName fileName) else none

/-- The fault that leaves open whether there is a file with the usual name, where no file is
given. -/
def hidingFault? : Option FileFault :=
  match path with
  | some _ => none
  | none => (s.look (.ofName fileName)).filter (!·.isAbsence)

/-- The name of the chosen file in messages. -/
def shownName : String :=
  match path with
  | some path => path.toString
  | none => s.workingDirectory ++ "/" ++ fileName

/-- The chosen file can be read, and these are its bytes. -/
def HoldsBytes (bytes : ByteArray) : Prop :=
  ∃ file, chosenFile s path = some file ∧ file.hasNul = false ∧ s.files file = .ok bytes

def HoldsText (text : String) : Prop :=
  ∃ bytes, HoldsBytes s path bytes ∧ decodeText? bytes = some text

def HoldsDocument (document : Toml.Table) : Prop :=
  ∃ text, HoldsText s path text ∧ Toml.document text.toList = .ok document

/-- With and without a path, the settings are those of the chosen file. -/
theorem ofFile_eq :
    ofFile s path =
      match chosenFile s path with
      | none => (hidingFault? s path).elim (.ok defaults) (.error <| .unseen ·)
      | some file =>
        readDocument s.files file (shownName s path) >>= (ofDocument · (shownName s path)) := by
  cases path with
  | some path => rfl
  | none =>
    simp only [ofFile, chosenFile, hidingFault?]
    cases hlook : s.look (.ofName fileName) with
    | none => rfl
    | some fault => cases habsence : fault.isAbsence <;> simp [Option.filter, habsence]

theorem chosenFile_of_hidingFault? {fault : FileFault} (h : hidingFault? s path = some fault) :
    chosenFile s path = none := by
  cases path with
  | some path => cases h
  | none =>
    obtain ⟨hlook, -⟩ := Option.filter_eq_some_iff.1 h
    simp [chosenFile, hlook]

end

/-! ## Tables and their entries -/

/-- A key is missing or leads to a table. -/
def IsTableAt (document : Toml.Table) (key : String) : Prop :=
  ∀ value, document.lookup key = some value → ∃ entries, value = .table entries

/-- An entry of a table of a document. -/
def valueAt? (document : Toml.Table) (table key : String) : Option Toml.Value :=
  match document.lookup table with
  | some (.table entries) => entries.lookup key
  | _ => none

section
variable {document entries : Toml.Table} {table key shown : String} {failure : SettingsFailure}

theorem isTableAt_of_tableAt (h : tableAt document table = .ok entries) :
    IsTableAt document table := by
  intro value hvalue
  cases value <;> simp [tableAt, hvalue] at h ⊢

theorem lookup_of_tableAt (h : tableAt document table = .ok entries) (key : String) :
    entries.lookup key = valueAt? document table key := by
  unfold tableAt at h
  split at h
  · next hmissing =>
    cases h
    simp [valueAt?, hmissing]
  · next hentries =>
    cases h
    simp [valueAt?, hentries]
  · cases h

theorem tableAt_eq_error (h : tableAt document table = .error failure) :
    failure = .notTable ∧ ¬IsTableAt document table := by
  unfold tableAt at h
  split at h
  · cases h
  · cases h
  · next value hne hvalue =>
    cases h
    refine ⟨rfl, fun htable => ?_⟩
    obtain ⟨entries, rfl⟩ := htable value hvalue
    exact hne entries rfl

theorem textAt_eq_ok_iff {default text : String} :
    textAt entries key default = .ok text ↔
      (entries.lookup key).elim (some default) (·.text.toOption) = some text := by
  unfold textAt
  cases entries.lookup key with
  | none => simp
  | some value =>
    cases htext : value.text <;> simp [htext, Except.mapError, Except.toOption]

theorem textAt_eq_error {default : String} (h : textAt entries key default = .error failure) :
    ∃ value fault, entries.lookup key = some value ∧ value.text = .error fault ∧
      failure = .unwritable fault := by
  unfold textAt at h
  split at h
  · cases h
  · next value hvalue =>
    cases htext : value.text with
    | ok text => simp [htext, Except.mapError] at h
    | error fault =>
      rw [htext] at h
      cases h
      exact ⟨value, fault, hvalue, htext, rfl⟩

/-- What the values of a switch mean. -/
def switchValue? : Toml.Value → Option Bool
  | .boolean value => some value
  | .string value => some (isOn value)
  | _ => none

theorem switch_eq_ok_iff {default on : Bool} :
    switch entries key shown default = .ok on ↔
      (entries.lookup key).elim (some default) switchValue? = some on := by
  unfold switch
  cases entries.lookup key with
  | none => simp
  | some value => cases value <;> simp [switchValue?]

theorem switch_eq_error {default : Bool} (h : switch entries key shown default = .error failure) :
    ∃ value, entries.lookup key = some value ∧ switchValue? value = none ∧
      failure = .notSwitch key shown := by
  unfold switch at h
  cases hvalue : entries.lookup key with
  | none => simp [hvalue] at h
  | some value => cases value <;> simp_all [switchValue?]

end

/-! ## What is in the way -/

/-- Why the chosen file cannot be read as a document. -/
inductive Unread (s : Surroundings) (path : Option Path) : SettingsFailure → Prop
  | unseen {fault : FileFault} (h : hidingFault? s path = some fault) :
      Unread s path (.unseen fault)
  | nulInPath {file : Path} (hfile : chosenFile s path = some file) (h : file.hasNul = true) :
      Unread s path .nulInPath
  | unreadable {file : Path} {fault : FileFault} (hfile : chosenFile s path = some file)
      (hnul : file.hasNul = false) (h : s.files file = .error fault) :
      Unread s path (.unreadable (shownName s path) fault)
  | notUtf8 {bytes : ByteArray} (hbytes : HoldsBytes s path bytes) (h : decodeText? bytes = none) :
      Unread s path .notUtf8
  | malformed {text : String} (htext : HoldsText s path text)
      (h : Toml.document text.toList = .error .malformed) :
      Unread s path (.malformed (shownName s path))
  | longInteger {text : String} {digits : Nat} (htext : HoldsText s path text)
      (h : Toml.document text.toList = .error (.longInteger digits)) :
      Unread s path (.longInteger digits)
  | tooDeep {text : String} (htext : HoldsText s path text)
      (h : Toml.document text.toList = .error .tooDeep) : Unread s path .tooDeep

/-- What in a document does not fit the settings. -/
inductive Misfit (document : Toml.Table) (shown : String) : SettingsFailure → Prop
  | notTable {table : String} (hmem : table ∈ ["repl", "logging", "debug"])
      (h : ¬IsTableAt document table) : Misfit document shown .notTable
  | unwritable {table key : String} {value : Toml.Value} {fault : Toml.WriteFault}
      (hmem : (table, key) ∈ [("repl", "prompt"), ("logging", "level")])
      (hvalue : valueAt? document table key = some value) (h : value.text = .error fault) :
      Misfit document shown (.unwritable fault)
  | notSwitch {key : String} {value : Toml.Value} (hmem : key ∈ ["tokens", "ast"])
      (hvalue : valueAt? document "debug" key = some value) (h : switchValue? value = none) :
      Misfit document shown (.notSwitch key shown)

/-- What is in the way of loading settings. -/
inductive Obstacle (s : Surroundings) (path : Option Path) (failure : SettingsFailure) : Prop
  | file (h : Unread s path failure)
  | document {document : Toml.Table} (hdocument : HoldsDocument s path document)
      (h : Misfit document (shownName s path) failure)

/-! ## Reading the file -/

section
variable {s : Surroundings} {path : Option Path} {file : Path} {document : Toml.Table}
  {shown : String} {failure : SettingsFailure} {settings : Settings}

theorem hasNul_of_chosenFile (hnul : ∀ p ∈ path, p.hasNul = false)
    (hfile : chosenFile s path = some file) : file.hasNul = false := by
  have husual : (Path.ofName fileName).hasNul = false := by decide
  unfold chosenFile at hfile
  split at hfile
  · exact hnul file hfile
  · split at hfile <;> cases hfile
    exact husual

/-- There is no file, or it holds a document, or something says why it does not. -/
theorem chosenFile_cases (s : Surroundings) (path : Option Path) :
    (chosenFile s path = none ∧ hidingFault? s path = none) ∨
      (∃ document, HoldsDocument s path document) ∨ ∃ failure, Unread s path failure := by
  cases hfile : chosenFile s path with
  | none =>
    cases hhiding : hidingFault? s path with
    | none => exact .inl ⟨rfl, rfl⟩
    | some fault => exact .inr (.inr ⟨_, .unseen hhiding⟩)
  | some file =>
    right
    cases hnul : file.hasNul with
    | true => exact .inr ⟨_, .nulInPath hfile hnul⟩
    | false =>
      cases hread : s.files file with
      | error fault => exact .inr ⟨_, .unreadable hfile hnul hread⟩
      | ok bytes =>
        have hbytes : HoldsBytes s path bytes := ⟨file, hfile, hnul, hread⟩
        cases hdecode : decodeText? bytes with
        | none => exact .inr ⟨_, .notUtf8 hbytes hdecode⟩
        | some text =>
          have htext : HoldsText s path text := ⟨bytes, hbytes, hdecode⟩
          cases hdocument : Toml.document text.toList with
          | ok document => exact .inl ⟨document, text, htext, hdocument⟩
          | error fault =>
            cases fault with
            | malformed => exact .inr ⟨_, .malformed htext hdocument⟩
            | longInteger digits => exact .inr ⟨_, .longInteger htext hdocument⟩
            | tooDeep => exact .inr ⟨_, .tooDeep htext hdocument⟩

theorem ofFile_of_unread (h : Unread s path failure) : ofFile s path = .error failure := by
  rw [ofFile_eq]
  cases h with
  | unseen hhiding => simp [chosenFile_of_hidingFault? s path hhiding, hhiding]
  | nulInPath hfile hnul => simp [hfile, readDocument, hnul, bind, Except.bind]
  | unreadable hfile hnul hfault => simp [hfile, readDocument, hnul, hfault, bind, Except.bind]
  | notUtf8 hbytes hdecode =>
    obtain ⟨file, hfile, hnul, hread⟩ := hbytes
    simp [hfile, readDocument, hnul, hread, hdecode, bind, Except.bind]
  | malformed htext hdocument | longInteger htext hdocument | tooDeep htext hdocument =>
    obtain ⟨bytes, ⟨file, hfile, hnul, hread⟩, hdecode⟩ := htext
    simp [hfile, readDocument, hnul, hread, hdecode, hdocument, bind, Except.bind]

theorem ofFile_of_holdsDocument (h : HoldsDocument s path document) :
    ofFile s path = ofDocument document (shownName s path) := by
  obtain ⟨text, ⟨bytes, ⟨file, hfile, hnul, hread⟩, hdecode⟩, hdocument⟩ := h
  simp [ofFile_eq, hfile, readDocument, hnul, hread, hdecode, hdocument, bind, Except.bind]

/-! ## Reading the document -/

theorem misfit_of_ofDocument (h : ofDocument document shown = .error failure) :
    Misfit document shown failure := by
  have hnotTable {table failure} (hmem : table ∈ ["repl", "logging", "debug"])
      (h : tableAt document table = .error failure) : Misfit document shown failure := by
    obtain ⟨rfl, htable⟩ := tableAt_eq_error h
    exact .notTable hmem htable
  have hunwritable {table key entries default failure}
      (hmem : (table, key) ∈ [("repl", "prompt"), ("logging", "level")])
      (htable : tableAt document table = .ok entries)
      (h : textAt entries key default = .error failure) : Misfit document shown failure := by
    obtain ⟨value, fault, hvalue, htext, rfl⟩ := textAt_eq_error h
    exact .unwritable hmem (lookup_of_tableAt htable key ▸ hvalue) htext
  have hnotSwitch {key entries default failure} (hmem : key ∈ ["tokens", "ast"])
      (htable : tableAt document "debug" = .ok entries)
      (h : switch entries key shown default = .error failure) : Misfit document shown failure := by
    obtain ⟨value, hvalue, hswitch, rfl⟩ := switch_eq_error h
    exact .notSwitch hmem (lookup_of_tableAt htable key ▸ hvalue) hswitch
  simp only [ofDocument, bind_eq_error_iff] at h
  rcases h with h | ⟨repl, hrepl, h⟩
  · exact hnotTable (by simp) h
  rcases h with h | ⟨prompt, -, h⟩
  · exact hunwritable (by simp) hrepl h
  rcases h with h | ⟨logging, hlogging, h⟩
  · exact hnotTable (by simp) h
  rcases h with h | ⟨logLevel, -, h⟩
  · exact hunwritable (by simp) hlogging h
  rcases h with h | ⟨debug, hdebug, h⟩
  · exact hnotTable (by simp) h
  rcases h with h | ⟨showTokens, -, h⟩
  · exact hnotSwitch (by simp) hdebug h
  rcases h with h | ⟨showTree, -, h⟩
  · exact hnotSwitch (by simp) hdebug h
  · cases h

/-- A result is a failure without a message. -/
def FailsUnseen {α : Type} (result : Except SettingsFailure α) : Prop :=
  ∃ failure, result = .error failure ∧ failure.message = none

theorem ok_of_not_failsUnseen {α β : Type} {x : Except SettingsFailure α}
    {f : α → Except SettingsFailure β} (h : ¬FailsUnseen (x >>= f))
    (hx : ∀ failure, x = .error failure → failure.message = none) :
    ∃ a, x = .ok a ∧ ¬FailsUnseen (f a) := by
  cases x with
  | ok a => exact ⟨a, rfl, h⟩
  | error failure => exact absurd ⟨failure, rfl, hx failure rfl⟩ h

/-- The switches are read last, so they are the only misfits if nothing failed without a message. -/
theorem Misfit.eq_notSwitch (h : Misfit document shown failure)
    (hseen : ¬FailsUnseen (ofDocument document shown)) : ∃ key, failure = .notSwitch key shown := by
  have htableAt {table failure} (h : tableAt document table = .error failure) :
      failure.message = none := by
    obtain ⟨rfl, -⟩ := tableAt_eq_error h
    rfl
  have htextAt {entries key default failure} (h : textAt entries key default = .error failure) :
      failure.message = none := by
    obtain ⟨_, _, -, -, rfl⟩ := textAt_eq_error h
    rfl
  obtain ⟨repl, hrepl, hseen⟩ := ok_of_not_failsUnseen hseen fun _ => htableAt
  obtain ⟨prompt, hprompt, hseen⟩ := ok_of_not_failsUnseen hseen fun _ => htextAt
  obtain ⟨logging, hlogging, hseen⟩ := ok_of_not_failsUnseen hseen fun _ => htableAt
  obtain ⟨logLevel, hlogLevel, hseen⟩ := ok_of_not_failsUnseen hseen fun _ => htextAt
  obtain ⟨debug, hdebug, -⟩ := ok_of_not_failsUnseen hseen fun _ => htableAt
  cases h with
  | notTable hmem h =>
    simp only [List.mem_cons, List.not_mem_nil, or_false] at hmem
    rcases hmem with rfl | rfl | rfl
    · exact absurd (isTableAt_of_tableAt hrepl) h
    · exact absurd (isTableAt_of_tableAt hlogging) h
    · exact absurd (isTableAt_of_tableAt hdebug) h
  | unwritable hmem hvalue h =>
    rw [textAt_eq_ok_iff, lookup_of_tableAt hrepl] at hprompt
    rw [textAt_eq_ok_iff, lookup_of_tableAt hlogging] at hlogLevel
    simp only [List.mem_cons, Prod.mk.injEq, List.not_mem_nil, or_false] at hmem
    rcases hmem with ⟨rfl, rfl⟩ | ⟨rfl, rfl⟩
    · simp [hvalue, h, Except.toOption] at hprompt
    · simp [hvalue, h, Except.toOption] at hlogLevel
  | notSwitch _ _ _ => exact ⟨_, rfl⟩

theorem not_misfit_of_ofDocument (h : ofDocument document shown = .ok settings) :
    ¬Misfit document shown failure := by
  intro hmisfit
  have hseen : ¬FailsUnseen (ofDocument document shown) := by
    rintro ⟨failure, herror, -⟩
    cases h.symm.trans herror
  obtain ⟨key, rfl⟩ := hmisfit.eq_notSwitch hseen
  simp only [ofDocument, bind_eq_ok_iff, switch_eq_ok_iff] at h
  obtain ⟨_, -, _, -, _, -, _, -, debug, hdebug, _, htokens, _, htree, -⟩ := h
  rw [lookup_of_tableAt hdebug] at htokens htree
  cases hmisfit with
  | notSwitch hmem hvalue h =>
    simp only [List.mem_cons, List.not_mem_nil, or_false] at hmem
    rcases hmem with rfl | rfl
    · simp [hvalue, h] at htokens
    · simp [hvalue, h] at htree

/-! ## Loading -/

theorem load_eq_error_iff : load s path = .error failure ↔ ofFile s path = .error failure := by
  refine bind_eq_error_iff.trans ⟨fun h => ?_, .inl⟩
  rcases h with h | ⟨_, -, h⟩
  · exact h
  · cases h

theorem obstacle_of_load (h : load s path = .error failure) : Obstacle s path failure := by
  rw [load_eq_error_iff] at h
  rcases chosenFile_cases s path with ⟨hnone, hhiding⟩ | ⟨document, hdocument⟩ | ⟨failure', hunread⟩
  · simp [ofFile_eq, hnone, hhiding] at h
  · rw [ofFile_of_holdsDocument hdocument] at h
    exact .document hdocument (misfit_of_ofDocument h)
  · cases (ofFile_of_unread hunread).symm.trans h
    exact .file hunread

theorem Obstacle.load_ne (h : Obstacle s path failure) {loaded : Settings × List String} :
    load s path ≠ .ok loaded := by
  intro hload
  obtain ⟨settings, hsettings, -⟩ := bind_eq_ok_iff.1 hload
  cases h with
  | file h => cases (ofFile_of_unread h).symm.trans hsettings
  | document hdocument h =>
    rw [ofFile_of_holdsDocument hdocument] at hsettings
    exact not_misfit_of_ofDocument hsettings h

theorem Obstacle.failsUnseen (h : Obstacle s path failure) (hnone : failure.message = none) :
    FailsUnseen (load s path) := by
  cases h with
  | file h => exact ⟨failure, load_eq_error_iff.2 (ofFile_of_unread h), hnone⟩
  | document hdocument h =>
    have hunseen : FailsUnseen (ofFile s path) := by
      rw [ofFile_of_holdsDocument hdocument]
      by_contra hseen
      obtain ⟨key, rfl⟩ := h.eq_notSwitch hseen
      cases hnone
    obtain ⟨failure, hfails, hnone⟩ := hunseen
    exact ⟨failure, load_eq_error_iff.2 hfails, hnone⟩

/-- Loading settings from a path that can be one fails with a message or is not handled. -/
theorem load_eq_error (hnul : ∀ p ∈ path, p.hasNul = false) (h : load s path = .error failure) :
    failure.IsUnhandled ∨ ∃ message, failure.message = some message := by
  cases obstacle_of_load h with
  | file h =>
    cases h with
    | nulInPath hfile hnul' => cases (hasNul_of_chosenFile hnul hfile).symm.trans hnul'
    | unreadable | malformed => exact .inr ⟨_, rfl⟩
    | unseen | notUtf8 | longInteger | tooDeep => exact .inl trivial
  | document _ h =>
    cases h with
    | notTable | unwritable => exact .inl trivial
    | notSwitch => exact .inr ⟨_, rfl⟩

/-- Settings are loaded exactly if nothing is in the way, and a failure is something that is. Some
failure has no message exactly if something without a message is in the way. -/
theorem load_outcome (s : Surroundings) (path : Option Path) :
    ((∃ loaded, load s path = .ok loaded) ↔ ∀ failure, ¬Obstacle s path failure) ∧
    (∀ failure, load s path = .error failure → Obstacle s path failure) ∧
    ((∃ failure, load s path = .error failure ∧ failure.message = none) ↔
      ∃ failure, Obstacle s path failure ∧ failure.message = none) := by
  refine ⟨⟨?_, fun h => ?_⟩, fun _ => obstacle_of_load, ?_, ?_⟩
  · rintro ⟨loaded, hload⟩ failure hobstacle
    exact hobstacle.load_ne hload
  · cases hload : load s path with
    | ok loaded => exact ⟨loaded, rfl⟩
    | error failure => exact absurd (obstacle_of_load hload) (h failure)
  · rintro ⟨failure, hload, hnone⟩
    exact ⟨failure, obstacle_of_load hload, hnone⟩
  · rintro ⟨failure, hobstacle, hnone⟩
    exact hobstacle.failsUnseen hnone

end

/-- In the usual settings file, the section of the prompt is a truth value. -/
theorem load_not_message :
    ¬∀ s path, (∃ loaded, load s path = .ok loaded) ∨
      ∃ failure message, load s path = .error failure ∧ failure.message = some message := by
  intro h
  let s : Surroundings := ⟨fun _ => .ok "repl = true".toUTF8, fun _ => none, "/home", []⟩
  have hdecode : decodeText? "repl = true".toUTF8 = some "repl = true" := by cbv
  have hdocument : HoldsDocument s none [("repl", .boolean true)] :=
    ⟨"repl = true", ⟨_, ⟨.ofName fileName, rfl, by decide, rfl⟩, hdecode⟩, rfl⟩
  have hload : load s none = .error .notTable := by
    rw [load_eq_error_iff, ofFile_of_holdsDocument hdocument]
    rfl
  rcases h s none with ⟨loaded, hok⟩ | ⟨failure, message, herror, hmessage⟩
  · cases hload.symm.trans hok
  · cases hload.symm.trans herror
    cases hmessage

end Settings

end LoxExpr
