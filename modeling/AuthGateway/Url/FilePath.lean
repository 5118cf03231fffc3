import AuthGateway.Url.Segments

/-!
Paths of file URLs. The segment at the front may name a drive, which is then
written with a colon and needs no host; empty segments at the front do not
count. Ignored characters still stand in the text, because one of them right
behind a drive ends its segment.
-/
namespace AuthGateway.Url.FilePath

open Escape (significant dropSignificant)

/-- A drive with a colon, and the text that only ignored characters keep apart
from it. -/
def cutDrive? (s : List Char) : Option (List Char × List Char) :=
  match significant s, (dropSignificant 2 s).head? with
  | c :: ':' :: next :: rest, some gap =>
    if Ascii.isLetter c && Escape.isIgnored gap then some ([c, ':'], next :: rest) else none
  | _, _ => none

structure Walk where
  /-- The segments so far, innermost first. -/
  done : List (List Char)
  /-- The path has not named a drive in place of a host. -/
  keepsHost : Bool

/-- Takes in a segment, of which those in front of any other may name a drive. -/
def Walk.enter (w : Walk) (s : List Char) (isLast : Bool) : Walk :=
  let next : Walk := ⟨Segments.enter w.done (significant s) isLast, w.keepsHost⟩
  if w.done.isEmpty then
    match cutDrive? s, significant s with
    | some (drive, behind), _ => ⟨[Percent.encode Escape.inPath behind, drive], w.keepsHost⟩
    | none, [c, m] => if Segments.isDrive [c, m] then ⟨[[c, ':']], false⟩ else next
    | none, _ => next
  else next

def Walk.through (w : Walk) : List (List Char) → Walk
  | [] => w
  | s :: rest => (w.enter s rest.isEmpty).through rest

/-- Drops empty segments at the front, but not the last segment. -/
def dropEmpty : List (List Char) → List (List Char)
  | [] :: next :: rest => dropEmpty (next :: rest)
  | ps => ps

def Walk.segments (w : Walk) : List (List Char) :=
  dropEmpty w.done.reverse

def ofPieces (pieces : List (List Char)) : Walk :=
  (Walk.mk [] true).through pieces

def pieces (cs : List Char) : List (List Char) :=
  Split.pieces '/' (Segments.unifySlashes true cs)

/-- The path behind a host, or without any mark of one; a slash in front of it
starts the first segment. -/
def ofChars (cs : List Char) : Walk :=
  match pieces cs with
  | p :: q :: rest => ofPieces (if (significant p).isEmpty then q :: rest else p :: q :: rest)
  | ps => ofPieces ps

/-- The path behind an empty host: the slash in front of it starts a second,
empty segment, so that no drive stands at the front. -/
def ofRootedChars (cs : List Char) : Walk :=
  ofPieces (pieces cs)

end AuthGateway.Url.FilePath
