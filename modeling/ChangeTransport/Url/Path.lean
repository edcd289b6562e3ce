import ChangeTransport.Text.Lines
import ChangeTransport.Url.Percent

/-!
# Paths

The path of an address is a list of segments.  A segment of one dot is left out, and one of two
dots takes the segment before it away; at the end both leave an empty segment.  A segment that
names a drive is never taken away.
-/

namespace ChangeTransport.Url

/-- A segment with every escaped dot written out. -/
def plainDots : List Char → List Char
  | '%' :: '2' :: 'e' :: rest => '.' :: plainDots rest
  | '%' :: '2' :: 'E' :: rest => '.' :: plainDots rest
  | character :: rest => character :: plainDots rest
  | [] => []

/-- Whether a segment is one dot. -/
def isDot (segment : List Char) : Bool := plainDots segment == ['.']

/-- Whether a segment is two dots. -/
def isTwoDots (segment : List Char) : Bool := plainDots segment == ['.', '.']

/-- Whether a character is a letter of ASCII. -/
def isLetter (character : Char) : Bool :=
  ('a' ≤ character && character ≤ 'z') || ('A' ≤ character && character ≤ 'Z')

/-- Whether a segment names a drive: a letter, and a colon or a bar. -/
def isDrive : List Char → Bool
  | [letter, mark] => isLetter letter && (mark == ':' || mark == '|')
  | _ => false

/-- The segments without the one placed last; they come with the last one first. -/
def withoutLast : List (List Char) → List (List Char)
  | [] => []
  | last :: before => if isDrive last then last :: before else before

/-- Place one segment behind others, which come with the last one first. -/
def placeSegment (isLast : Bool) (before : List (List Char)) (segment : List Char) :
    List (List Char) :=
  if isTwoDots segment then
    if isLast then [] :: withoutLast before else withoutLast before
  else if isDot segment then
    if isLast then [] :: before else before
  else
    escapeWhere isBarredInPath segment :: before

/-- Place segments behind others, each in the same way. -/
def placeSegments (place : Bool → List (List Char) → List Char → List (List Char))
    (before : List (List Char)) : List (List Char) → List (List Char)
  | [] => before
  | [segment] => place true before segment
  | segment :: rest => placeSegments place (place false before segment) rest

/-- The segments of the normal form of a path, which is given without its first slash. -/
def normalSegments (isSlash : Char → Bool) (characters : List Char) : List (List Char) :=
  (placeSegments placeSegment [] (Text.piecesWhere isSlash characters)).reverse

/-- Segments as text, each behind a slash. -/
def segmentsText (segments : List (List Char)) : List Char :=
  segments.flatMap ('/' :: ·)

/-! ## Paths of files -/

/-- Place one segment of the path of a file; a drive that comes first is marked with a colon. -/
def placeFileSegment (isLast : Bool) (before : List (List Char)) (segment : List Char) :
    List (List Char) :=
  match before, segment with
  | [], [letter, mark] =>
    if isDrive [letter, mark] then [[letter, ':']] else placeSegment isLast [] segment
  | _, _ => placeSegment isLast before segment

/-- The segments of the path of a file, which is given without its first slash. -/
def normalFileSegments (isSlash : Char → Bool) (characters : List Char) : List (List Char) :=
  (placeSegments placeFileSegment [] (Text.piecesWhere isSlash characters)).reverse

/-- Segments without the empty ones in front, of which one stays if there is no other. -/
def withoutEmptyFront : List (List Char) → List (List Char)
  | [] => [[]]
  | [last] => [last]
  | [] :: rest => withoutEmptyFront rest
  | segments => segments

/-- Whether the first segment of the path of a file is a drive, so that the host does not count. -/
def beginsWithDrive : List (List Char) → Bool
  | first :: _ => isDrive first
  | [] => false

end ChangeTransport.Url
