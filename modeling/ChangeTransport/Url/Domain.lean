import ChangeTransport.Text.Direction
import ChangeTransport.Text.Joining
import ChangeTransport.Text.Lines
import ChangeTransport.Text.Utf8
import ChangeTransport.Url.Folding
import ChangeTransport.Url.Punycode

/-!
# Domain names

The name of a domain is a list of labels with full stops between them.  It is folded character by
character and composed; a label that then holds a character outside ASCII is encoded and marked
with `xn--`.  A label that comes with this mark must be the code of a label that is written in
folded form.

No label may begin with a mark or hold a joiner without effect.  If any label holds a character that
is written from right to left, the directions within every label must fit each other.
-/

namespace ChangeTransport.Url.Domain

/-- The mark of an encoded label. -/
def mark : List Char := ['x', 'n', '-', '-']

/-- How many characters the longest label has that is encoded. -/
def longestLabel : Nat := 1000

/-- How many characters the longest code has that is decoded. -/
def longestCode : Nat := 2000

/-- The folded form of characters; none if one of them may not stand in a name. -/
def folded? (characters : List Char) : Option (List Char) := do
  let images ← characters.mapM fold?
  let folded := Text.Composition.composed images.flatten
  guard (!folded.any isBarredAscii)
  pure folded

/-- A label: its form in ASCII, and the characters for which it stands. -/
structure Label where
  ascii : List Char
  shown : List Char
  deriving Repr, DecidableEq

namespace Label

/-- The label that has a code, which is given without its mark. -/
def ofCode? (code : List Char) : Option Label := do
  guard (code.length ≤ longestCode)
  let shown ← Punycode.decode? code
  guard (!shown.all Punycode.isAscii && folded? shown == some shown)
  pure ⟨mark ++ code, shown⟩

/-- The label of folded characters. -/
def ofFolded? (characters : List Char) : Option Label :=
  if mark.isPrefixOf characters then
    if characters.all Punycode.isAscii then ofCode? (characters.drop mark.length) else none
  else if characters.all Punycode.isAscii then
    some ⟨characters, characters⟩
  else if characters.length ≤ longestLabel then
    some ⟨mark ++ Punycode.encode characters, characters⟩
  else
    none

/-- Whether a label does not begin with a mark, and all its joiners have an effect. -/
def isSound (label : Label) : Bool :=
  !(label.shown.head?.any Text.isMark) && Text.Joining.fit label.shown

/-- The directions of the characters of a label. -/
def directions (label : Label) : List Text.Direction := label.shown.map Text.Direction.of

end Label

/-- Whether the directions within every label fit each other, if one is written in reverse. -/
def directionsFit (labels : List Label) : Bool :=
  let directions := labels.map Label.directions
  !directions.any (fun label => label.any Text.Direction.isReversed) ||
    directions.all Text.Direction.fit

/-- The form of a name in ASCII. -/
def ofCharacters? (characters : List Char) : Option (List Char) := do
  let folded ← folded? characters
  let labels ← (Text.piecesAt '.' folded).mapM Label.ofFolded?
  guard (labels.all Label.isSound && directionsFit labels)
  pure (['.'].intercalate (labels.map Label.ascii))

/-- The form in ASCII of a name that is given by the bytes of its UTF-8 form. -/
def ofBytes? (bytes : List UInt8) : Option (List Char) :=
  match Text.Utf8.decode bytes with
  | .ok characters => ofCharacters? characters
  | .error _ => none

end ChangeTransport.Url.Domain
