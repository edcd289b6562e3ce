/-!
# Lines

A text is cut at line feeds.  A carriage return directly before a line feed belongs to the break,
and a text that ends in a line feed has no empty line after it.
-/

namespace ChangeTransport.Text

/-- The pieces between the characters that satisfy `isMark`; always at least one. -/
def piecesWhere (isMark : Char → Bool) : List Char → List (List Char)
  | [] => [[]]
  | character :: rest =>
    if isMark character then
      [] :: piecesWhere isMark rest
    else
      match piecesWhere isMark rest with
      | [] => [[character]]
      | piece :: pieces => (character :: piece) :: pieces

/-- The pieces between the characters equal to `mark`; always at least one. -/
def piecesAt (mark : Char) (characters : List Char) : List (List Char) :=
  piecesWhere (fun character => character == mark) characters

/-- A line without one carriage return at its end. -/
def withoutReturn (line : List Char) : List Char :=
  match line.reverse with
  | '\r' :: rest => rest.reverse
  | _ => line

/-- The lines among pieces cut at line feeds: the last piece has no break behind it. -/
def linesOfPieces : List (List Char) → List (List Char)
  | [] => []
  | [last] => if last.isEmpty then [] else [last]
  | piece :: pieces => withoutReturn piece :: linesOfPieces pieces

/-- The lines of a text. -/
def lines (text : String) : List String :=
  (linesOfPieces (piecesAt '\n' text.toList)).map String.ofList

end ChangeTransport.Text
