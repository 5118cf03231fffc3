import AuthGateway.Files
import AuthGateway.Settings.Problem

/-!
Where the session key comes from: a secret in the settings, or else a key file,
which is made if it does not exist, or else nowhere but chance, and then it
lasts no longer than the process.
-/
namespace AuthGateway.Settings.Session

structure KeyFound where
  key : Key
  isNew : Bool
deriving DecidableEq

def readKey (text : String) : Except KeyProblem KeyFound :=
  match Key.ofText text with
  | .ok key => .ok ⟨key, false⟩
  | .error e => .error (.unreadable e)

def writeKey (files : Files) (path : Files.Path) (fresh : Key) :
    Files × Except KeyProblem KeyFound :=
  match files.makeDirectories path.parent with
  | (between, .error e) => (between, .error (.inaccessible e))
  | (between, .ok ()) =>
    match between.write path (Utf8.encode fresh.toText) with
    | .error e => (between, .error (.inaccessible e))
    | .ok written => (written, .ok ⟨fresh, true⟩)

/-- The key in a file, or the new one, which is then written into it. -/
def keyFromFile (files : Files) (path : Files.Path) (fresh : Key) :
    Files × Except KeyProblem KeyFound :=
  if files.contains path then
    (files, match files.text path with
      | .error e => .error (.inaccessible e)
      | .ok text => readKey text)
  else writeKey files path fresh

/-- The session key, and the files once it is found or cannot be; `fresh` is the
one to take if a new one is needed. -/
def findKey (s : Settings.Session) (files : Files) (fresh : Key) :
    Files × Except KeyProblem KeyFound :=
  if s.secret ≠ "" then (files, readKey s.secret)
  else
    match s.keyFile with
    | some path => keyFromFile files (.ofText path) fresh
    | none => (files, .ok ⟨fresh, true⟩)

end AuthGateway.Settings.Session
