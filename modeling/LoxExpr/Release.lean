import LoxExpr.Settings

/-!
# The version of the program

A project file that belongs to the program gives its version. The names and lines in brackets are
those of the package (`pylox`). The version that an installed package has (40) is left out; without
a project file there is none (42).
-/

namespace LoxExpr.Release

/-- The name that the project file of the program gives (`DIST_NAME`, 20). -/
def projectName : String := "pylox"

def projectFile : String := "pyproject.toml"

/-- The version of this release. -/
def current : String := "0.1.0"

/-- The version where no project file gives one (42). -/
def unknown : String := "0.0.0"

/-- The version that the project file in the working directory gives, if that is a document and
belongs to the program (`_checkout_version`, 24-32). -/
def found (files : Files) : Except SettingsFailure (Option Toml.Value) :=
  match Settings.readDocument files (.ofName projectFile) projectFile with
  | .error (.unreadable ..) => .ok none
  | .error (.malformed _) => .ok none
  | .error failure => .error failure
  | .ok document => do
    let project ← Settings.tableAt document "project"
    match project.lookup "name" with
    | some (.string name) =>
      return if name = projectName then project.lookup "version" else none
    | _ => return none

/-- Whether a value says nothing: an empty text, array or table, a zero, or false (37). -/
def isVoid : Toml.Value → Bool
  | .string value => value = ""
  | .integer value => value = 0
  | .float value => value.equal (.zero false)
  | .boolean value => !value
  | .moment _ => false
  | .array items => items.isEmpty
  | .table entries => entries.isEmpty

/-- The version of the program as it runs with these files (`_get_version`, 35-42). -/
def version (files : Files) : Except SettingsFailure Toml.Value := do
  match ← found files with
  | some value => return if isVoid value then .string unknown else value
  | none => return .string unknown

end LoxExpr.Release
