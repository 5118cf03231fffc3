import AuthGateway.Text.Ascii
import AuthGateway.Text.Split
import AuthGateway.Url.Escape

/-!
Paths as segments. A text is cut at its slashes, dot segments are resolved on
the way, and every other segment is escaped as it stands. A segment that starts
with a drive, a letter with a colon or bar, is never left by a dot-dot segment.
-/
namespace AuthGateway.Url.Segments

def isSingleDot (segment : List Char) : Bool :=
  let s := segment.map Ascii.lowerChar
  s == ['.'] || s == ['%', '2', 'e']

/-- Two dots, each plain or escaped. -/
def isDoubleDot (segment : List Char) : Bool :=
  let s := segment.map Ascii.lowerChar
  s == ['.', '.'] || s == ['.', '%', '2', 'e'] || s == ['%', '2', 'e', '.'] ||
    s == ['%', '2', 'e', '%', '2', 'e']

/-- A letter followed by a colon or a bar. -/
def isDrive : List Char → Bool
  | [c, m] => Ascii.isLetter c && (m == ':' || m == '|')
  | _ => false

/-- A drive, by itself or in front of a backslash, which is no slash where the
scheme is not well known. -/
def startsAtDrive (segment : List Char) : Bool :=
  isDrive segment || (isDrive (segment.take 2) && segment[2]? == some '\\')

/-- Leaves the innermost segment; segments are kept innermost first. -/
def leave : List (List Char) → List (List Char)
  | [] => []
  | s :: rest => if startsAtDrive s then s :: rest else rest

/-- Takes in one segment. What stands behind the last slash is a segment too, an
empty one if it is a dot segment. -/
def enter (done : List (List Char)) (s : List Char) (isLast : Bool) : List (List Char) :=
  if isDoubleDot s then if isLast then [] :: leave done else leave done
  else if isSingleDot s then if isLast then [] :: done else done
  else Percent.encode Escape.inPath s :: done

def walk (done : List (List Char)) : List (List Char) → List (List Char)
  | [] => done
  | s :: rest => walk (enter done s rest.isEmpty) rest

def resolve (pieces : List (List Char)) : List (List Char) :=
  (walk [] pieces).reverse

/-- A backslash is a slash where the scheme is well known. -/
def unifySlashes (special : Bool) (cs : List Char) : List Char :=
  if special then cs.map fun c => if c = '\\' then '/' else c else cs

/-- The pieces between slashes; a slash at the front starts the first piece. -/
def pieces (special : Bool) (cs : List Char) : List (List Char) :=
  match unifySlashes special cs with
  | '/' :: rest => Split.pieces '/' rest
  | rest => Split.pieces '/' rest

def ofChars (special : Bool) (cs : List Char) : List (List Char) :=
  resolve (pieces special cs)

def chars (segments : List (List Char)) : List Char :=
  segments.flatMap ('/' :: ·)

end AuthGateway.Url.Segments
