import ChangeTransport.Xml.Reference
import ChangeTransport.Xml.Token

/-!
# Elements and texts

The tree of a document up to the end of its root element; what stands behind that end does not
count.

Characters that stand together, with nothing but comments and instructions between them, are one
text.  Blanks at its two ends do not count unless they belong to a character section or are
written as references, and a text of which nothing is left is none.
-/

namespace ChangeTransport.Xml

/-- A part of the content of an element. -/
inductive Node where
  /-- An element: its start tag without angle brackets, and its content. -/
  | element (tag : List Char) (content : List Node)
  /-- A text; none when a reference in it has no referent. -/
  | text (characters : Option (List Char))

/-- An element of a document. -/
structure Element where
  tag : List Char
  content : List Node

mutual

/-- How deep elements are nested in a part of the content. -/
def Node.depth : Node → Nat
  | .element _ content => Node.depthOfAll content + 1
  | .text _ => 0

/-- How deep elements are nested in a content. -/
def Node.depthOfAll : List Node → Nat
  | [] => 0
  | node :: rest => max node.depth (Node.depthOfAll rest)

end

/-- How deep elements are nested in an element. -/
def Element.depth (element : Element) : Nat := Node.depthOfAll element.content

/-- The full name in a tag: everything up to the first blank. -/
def tagName (tag : List Char) : List Char :=
  tag.takeWhile (fun character => !isBlank character)

/-- A name without its prefix: what stands behind the first colon, if there is one. -/
def localName (name : List Char) : List Char :=
  match name.dropWhile (fun character => character != ':') with
  | _ :: rest => rest
  | [] => name

/-- The full name of an element. -/
def Element.name (element : Element) : List Char := tagName element.tag

/-- The name of an element without its prefix. -/
def Element.localName (element : Element) : List Char := Xml.localName element.name

/-- A piece of a text. -/
inductive Piece where
  | raw (characters : List Char)
  | section (characters : List Char)
  deriving Repr, DecidableEq

/-- Pieces without the blanks in front of them. -/
def withoutLeadingBlanks : List Piece → List Piece
  | .raw characters :: rest =>
    match characters.dropWhile isBlank with
    | [] => withoutLeadingBlanks rest
    | characters => .raw characters :: rest
  | pieces => pieces

/-- The characters of pieces, the last one without the blanks at its end if it is no section. -/
def pieceCharacters : List Piece → Option (List Char)
  | [] => some []
  | [.raw characters] => resolve (characters.reverse.dropWhile isBlank).reverse
  | .raw characters :: rest => do
    let first ← resolve characters
    let others ← pieceCharacters rest
    pure (first ++ others)
  | .section characters :: rest => do
    let others ← pieceCharacters rest
    pure (characters ++ others)

/-- The text of pieces, if it is one. -/
def Node.ofPieces? (pieces : List Piece) : Option Node :=
  match withoutLeadingBlanks pieces with
  | [] => none
  | pieces => some (.text (pieceCharacters pieces))

/-- An element that is still open: what it holds, the last part first. -/
structure Frame where
  tag : List Char
  before : List Node
  /-- The pieces of the text that stands last, the last one first. -/
  pieces : List Piece

/-- An element of which nothing but the start tag has been read. -/
def Frame.start (tag : List Char) : Frame := ⟨tag, [], []⟩

/-- The text that stands last is complete. -/
def Frame.flush (frame : Frame) : Frame :=
  match Node.ofPieces? frame.pieces.reverse with
  | none => { frame with pieces := [] }
  | some text => ⟨frame.tag, text :: frame.before, []⟩

/-- One more part of the content. -/
def Frame.push (frame : Frame) (node : Node) : Frame :=
  { frame.flush with before := node :: frame.flush.before }

/-- One more piece of the text that stands last. -/
def Frame.pushPiece (frame : Frame) (piece : Piece) : Frame :=
  { frame with pieces := piece :: frame.pieces }

/-- The element, once its end tag has been read. -/
def Frame.close (frame : Frame) : Element :=
  ⟨frame.tag, frame.flush.before.reverse⟩

/-- How far the building of a tree has come. -/
inductive Builder where
  /-- The root element has not begun. -/
  | before
  /-- The innermost open element, and those around it. -/
  | inside (frame : Frame) (outer : List Frame)
  | whole (root : Element)
  | stopped

namespace Builder

/-- Put a whole element into the innermost of the elements around it. -/
def complete (element : Element) : List Frame → Builder
  | [] => .whole element
  | frame :: outer => .inside (frame.push (.element element.tag element.content)) outer

/--
Take one token.  Inside an element, a document type completes the text in front of it, so that
characters behind it are another text.
-/
def step : Builder → Token → Builder
  | .before, .text raw => if raw.all isBlank then .before else .stopped
  | .before, .startTag tag => .inside (.start tag) []
  | .before, .emptyTag tag => .whole ⟨tag, []⟩
  | .before, .documentType => .before
  | .before, .aside => .before
  | .before, _ => .stopped
  | .inside frame outer, .text raw => .inside (frame.pushPiece (.raw raw)) outer
  | .inside frame outer, .section characters =>
    .inside (frame.pushPiece (.section characters)) outer
  | .inside frame outer, .startTag tag => .inside (.start tag) (frame :: outer)
  | .inside frame outer, .emptyTag tag => complete ⟨tag, []⟩ (frame :: outer)
  | .inside frame outer, .endTag name =>
    if name = tagName frame.tag then complete frame.close outer else .stopped
  | .inside frame outer, .documentType => .inside frame.flush outer
  | .inside frame outer, .aside => .inside frame outer
  | .inside _ _, .broken => .stopped
  | .whole root, _ => .whole root
  | .stopped, _ => .stopped

end Builder

/-- The root element of a list of tokens, if it is whole. -/
def Element.ofTokens? (tokens : List Token) : Option Element :=
  match tokens.foldl Builder.step .before with
  | .whole root => some root
  | _ => none

/-- What comes first in a document: an element, nothing, or something that is out of place. -/
inductive Opening where
  | element (tag : List Char)
  | nothing
  | broken
  deriving Repr, DecidableEq

/-- The first element of a list of tokens, or why there is none. -/
def Opening.ofTokens : List Token → Opening
  | [] => .nothing
  | .startTag tag :: _ => .element tag
  | .emptyTag tag :: _ => .element tag
  | .endTag _ :: _ => .broken
  | .broken :: _ => .broken
  | _ :: rest => Opening.ofTokens rest

end ChangeTransport.Xml
