import AuthGateway.Files
import AuthGateway.Settings.Reading
import AuthGateway.Text.Blank

/-!
Where settings come from: a file in the working directory, over which one in
the directory of secrets takes precedence, and then single variables of the
environment. A file of variables is read before all of that.
-/
namespace AuthGateway

abbrev Environment := Dictionary String

inductive LoadError where
  | unreadable (path : String)
  | malformed (path : String)
  /-- A variable has no name, or a NUL in its name or value. -/
  | invalidVariable
deriving DecidableEq

def LoadError.message : LoadError → String
  | .unreadable path => "Failed to read " ++ path
  | .malformed path => "Failed to parse " ++ path
  | .invalidVariable => "a variable cannot be set"

namespace Environment

def addLine (env : Environment) (line : List Char) : Except LoadError Environment :=
  match Split.once? '=' line with
  | none => .ok env
  | some (name, value) =>
    let name := Blank.trimChars name
    let value := Blank.trimChars value
    if name.isEmpty || (name ++ value).contains '\x00' then .error .invalidVariable
    else .ok (env.insert (String.ofList name) (String.ofList value))

/-- Takes in a file of variables, if it is there and is text. -/
def addFile (env : Environment) (files : Files) : Except LoadError Environment :=
  match files.text (.ofText ".env") with
  | .error _ => .ok env
  | .ok text => (Split.pieces '\n' text.toList).foldlM addLine env

/-- The text of a variable, or what it would replace. -/
def text (env : Environment) (name old : String) : String :=
  (env.find? name).getD old

/-- The text of a variable that is not empty, or what it would replace. -/
def nonempty (env : Environment) (name : String) (old : Option String) : Option String :=
  ((env.find? name).filter (· != "")).orElse fun _ => old

def natBelow? (env : Environment) (bound : Nat) (name : String) : Option Nat :=
  (env.find? name).bind fun text => Decimal.natBelow? bound text.toList

def word (env : Environment) (name : String) (old : UInt64) : UInt64 :=
  ((env.natBelow? UInt64.size name).map UInt64.ofNat).getD old

end Environment

namespace Settings

def Application.withVariables (a : Application) (env : Environment) : Application where
  host := env.text "HOST" a.host
  port := ((env.natBelow? UInt16.size "PORT").map UInt16.ofNat).getD a.port
  baseUrl := env.text "BASE_URL" a.baseUrl

def Session.withVariables (s : Session) (env : Environment) : Session where
  duration := env.word "SESSION_DURATION_SECONDS" s.duration
  renewWhenLessThan := env.word "SESSION_RENEW_WHEN_LESS_THAN_SECONDS" s.renewWhenLessThan
  secret := (env.nonempty "SESSION_SECRET" none).getD s.secret
  keyFile := env.nonempty "SESSION_KEY_FILE" s.keyFile

def Revocation.withVariables (r : Revocation) (env : Environment) : Revocation :=
  { r with
    backend := env.text "REVOCATION_BACKEND" r.backend
    path := env.text "REVOCATION_PATH" r.path
    failurePolicy := env.text "REVOCATION_FAILURE_POLICY" r.failurePolicy
    lookupTimeoutMs := env.word "REVOCATION_TIMEOUT_MS" r.lookupTimeoutMs }

def withVariables (s : Settings) (env : Environment) : Settings :=
  { s with
    application := s.application.withVariables env
    session := s.session.withVariables env
    revocation := s.revocation.withVariables env
    logging := ⟨env.text "RUST_LOG" s.logging.level⟩ }

def fileName : String := "Settings.toml"

def pathIn (directory : String) : String :=
  if directory.isEmpty then fileName
  else if directory.toList.getLast? = some '/' then directory ++ fileName
  else directory ++ "/" ++ fileName

def ofFile (files : Files) (path : String) : Except LoadError Settings :=
  match files.text (.ofText path) with
  | .error _ => .error (.unreadable path)
  | .ok text =>
    match ofText? text with
    | none => .error (.malformed path)
    | some s => .ok s

/-- The settings in a file, or those already there if there is no file. -/
def overriddenBy (s : Settings) (files : Files) (path : String) : Except LoadError Settings :=
  if files.contains (.ofText path) then ofFile files path else .ok s

def load (files : Files) (process : Environment) : Except LoadError Settings := do
  let env ← process.addFile files
  let base ← overriddenBy {} files fileName
  let all ←
    match env.find? "TOLLGATE_SECRETS_DIR" with
    | none => .ok base
    | some directory => base.overriddenBy files (pathIn directory)
  return all.withVariables env

end Settings

end AuthGateway
