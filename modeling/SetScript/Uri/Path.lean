import SetScript.Text.Divide
import SetScript.Uri.Host

/-!
# Paths

The path of an identifier consists of segments, each with a slash before it.  One
dot stays in a directory and two dots go up, so that no segment of a path in its
normal form is one of these.  A drive such as `C:` is never left.
-/

namespace SetScript.Uri

open Text

/-- A segment with its escaped dots written out. -/
def plainDots : List Char → List Char
  | '%' :: '2' :: 'e' :: rest => '.' :: plainDots rest
  | '%' :: '2' :: 'E' :: rest => '.' :: plainDots rest
  | c :: rest => c :: plainDots rest
  | [] => []

/-- Whether a segment stays in its directory. -/
def isHere (segment : List Char) : Bool :=
  plainDots segment == ['.']

/-- Whether a segment goes up. -/
def isUp (segment : List Char) : Bool :=
  plainDots segment == ['.', '.']

/-- Whether a segment names a drive, as in `C:`. -/
def isDrive : List Char → Bool
  | [letter, mark] => letter.isAlpha && (mark == ':' || mark == '|')
  | _ => false

/-- Whether a segment names a drive, up to a backslash. -/
def startsWithDrive (segment : List Char) : Bool :=
  isDrive (segment.take 2) && (segment.drop 2).head?.all (· == '\\')

/-- A segment as it stands below others, which come in reverse.  The drive at the
start of the path of a file is marked by a colon. -/
def enter (kind : SchemeKind) (above : List (List Char)) (segment : List Char) : List Char :=
  if kind = .file ∧ above = [] ∧ isDrive segment then segment.take 1 ++ [':'] else segment

/-- Follow the segments of a path, where one dot stays and two dots go up, but not
out of a drive.  The segments so far come in reverse. -/
def follow (kind : SchemeKind) (above : List (List Char)) : List (List Char) → List (List Char)
  | [] => above.reverse
  | segment :: rest =>
      let settle (directory : List (List Char)) : List (List Char) :=
        if rest.isEmpty then [] :: directory else directory
      if isUp segment then
        follow kind (settle (if above.head?.any startsWithDrive then above else above.drop 1)) rest
      else if isHere segment then
        follow kind (settle above) rest
      else
        follow kind (enter kind above segment :: above) rest

/-- The segments of a path after its first slash, up to the query or the fragment. -/
def segmentsOf (kind : SchemeKind) (path : List Char) : List (List Char) :=
  let written := path.takeWhile fun c => c != '?' && c != '#'
  follow kind [] ((divide kind.isSlash written).map (escape reservedInPath))

/-- A path without its first slash. -/
def afterSlash (kind : SchemeKind) : List Char → List Char
  | [] => []
  | c :: rest => if kind.isSlash c then rest else c :: rest

/-- The segments of the path of a file, without empty ones at the start. -/
def withoutMargin (segments : List (List Char)) : List (List Char) :=
  match segments.dropWhile List.isEmpty with
  | [] => [[]]
  | segments => segments

/-- The text of a path with some segments. -/
def joinSegments (segments : List (List Char)) : List Char :=
  segments.flatMap ('/' :: ·)

end SetScript.Uri
