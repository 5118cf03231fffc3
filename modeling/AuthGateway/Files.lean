import AuthGateway.Text.Dictionary
import AuthGateway.Text.Split
import AuthGateway.Text.Utf8

/-!
Files, as far as the gateway reads and writes them: a tree of directories, and
paths through it. A path is walked step by step, and every step starts from a
directory that exists. A file is written into such a directory, and the
directories on the way to it can be made first.
-/
namespace AuthGateway

inductive FileError where
  | notFound
  | alreadyExists
  | notDirectory
  | isDirectory
  | nameTooLong
  | nulInPath
  | notText
deriving DecidableEq

def FileError.message : FileError → String
  | .notFound => "No such file or directory (os error 2)"
  | .alreadyExists => "File exists (os error 17)"
  | .notDirectory => "Not a directory (os error 20)"
  | .isDirectory => "Is a directory (os error 21)"
  | .nameTooLong => "File name too long (os error 36)"
  | .nulInPath => "file name contained an unexpected NUL byte"
  | .notText => "stream did not contain valid UTF-8"

/-- Whether it is the system that refuses, rather than the path or the text that
cannot be understood. -/
def FileError.isRefusal : FileError → Bool
  | .nulInPath => false
  | .notText => false
  | _ => true

namespace Files

inductive Entry where
  | file (bytes : List UInt8)
  | directory
deriving DecidableEq

/-- A name in a directory, or a step that is none: one dot stays where it is,
and two dots go up. -/
abbrev Name := List Char

def stay : Name := ['.']

def goUp : Name := ['.', '.']

/-- Steps from the root or from the working directory. -/
structure Path where
  isAbsolute : Bool
  steps : List Name
deriving DecidableEq

/-- A slash at the end asks for a directory, as a dot does. -/
def Path.ofText (text : String) : Path :=
  let cs := text.toList
  ⟨cs.head? = some '/', (Split.pieces '/' cs).filter (fun n => !n.isEmpty) ++
    if cs.getLast? = some '/' then [stay] else []⟩

def Path.parent (path : Path) : Path :=
  { path with steps := (path.steps.filter (· != stay)).dropLast }

/-- The names that lead from the root to a place, innermost first. -/
abbrev Place := List Name

def root : Place := []

/-- The working directory, which is some directory below the root. -/
def workingDirectory : Place := ["gateway".toList]

def Path.start (path : Path) : Place :=
  if path.isAbsolute then root else workingDirectory

def spelled (place : Place) : String :=
  String.ofList (Split.join ['/'] place.reverse)

end Files

structure Files where
  entries : Dictionary Files.Entry
deriving DecidableEq

namespace Files

/-- No files; the root and the working directory are always there. -/
def empty : Files := ⟨.empty⟩

def entryAt (f : Files) (place : Place) : Option Entry :=
  if place = root ∨ place = workingDirectory then some .directory
  else f.entries.find? (spelled place)

def put (f : Files) (place : Place) (e : Entry) : Files :=
  ⟨f.entries.insert (spelled place) e⟩

def nameLimit : Nat := 255

def pathLimit : Nat := 4096

/-- One step from a place, which has to be a directory. -/
def step (f : Files) (place : Place) (name : Name) : Except FileError Place :=
  match f.entryAt place with
  | none => .error .notFound
  | some (.file _) => .error .notDirectory
  | some .directory =>
    if name = stay then .ok place
    else if name = goUp then .ok place.tail
    else if nameLimit < (Utf8.encodeChars name).length then .error .nameTooLong
    else .ok (name :: place)

/-- Where a path leads, whether or not anything stands there. -/
def walk (f : Files) (path : Path) : Except FileError Place :=
  if path.steps.any (·.contains '\x00') then .error .nulInPath
  else if pathLimit ≤ (Utf8.encodeChars (Split.join ['/'] path.steps)).length then
    .error .nameTooLong
  else path.steps.foldlM f.step path.start

def find (f : Files) (path : Path) : Except FileError Entry := do
  let place ← f.walk path
  match f.entryAt place with
  | some e => return e
  | none => throw .notFound

def contains (f : Files) (path : Path) : Bool :=
  (f.find path).isOk

def text (f : Files) (path : Path) : Except FileError String := do
  match ← f.find path with
  | .directory => throw .isDirectory
  | .file bytes =>
    match Utf8.decode? bytes with
    | some s => return s
    | none => throw .notText

/-- The place of a file that can be written, and what it holds so far. -/
def writable (f : Files) (path : Path) : Except FileError (Place × List UInt8) := do
  let place ← f.walk path
  match f.entryAt place with
  | some .directory => throw .isDirectory
  | some (.file bytes) => return (place, bytes)
  | none => return (place, [])

/-- Writes a file into a directory that exists. -/
def write (f : Files) (path : Path) (bytes : List UInt8) : Except FileError Files := do
  let (place, _) ← f.writable path
  return f.put place (.file bytes)

def makeDirectory (f : Files) (path : Path) : Except FileError Files := do
  let place ← f.walk path
  match f.entryAt place with
  | some .directory => return f
  | some (.file _) => throw .alreadyExists
  | none => return f.put place .directory

/-- Makes a directory, given by its steps from the last to the first, together
with those on the way to it. What is made stays, whatever fails later. -/
def makeFrom (f : Files) (isAbsolute : Bool) : List Name → Files × Except FileError Unit
  | [] => (f, .ok ())
  | name :: outer =>
    let path : Path := ⟨isAbsolute, (name :: outer).reverse⟩
    match f.makeDirectory path with
    | .ok made => (made, .ok ())
    | .error .notFound =>
      -- what has to hold it is made first
      match f.makeFrom isAbsolute outer with
      | (between, .error e) => (between, .error e)
      | (between, .ok ()) =>
        match between.makeDirectory path with
        | .ok made => (made, .ok ())
        | .error e => (between, .error e)
    | .error e => (f, .error e)

def makeDirectories (f : Files) (path : Path) : Files × Except FileError Unit :=
  f.makeFrom path.isAbsolute path.steps.reverse

/-- The files with one more entry, and with the directories on the way to it. -/
def add (f : Files) (path : Path) : Entry → Files
  | .directory => (f.makeDirectories path).1
  | .file bytes =>
    let between := (f.makeDirectories path.parent).1
    (between.write path bytes).toOption.getD between

end Files

end AuthGateway
