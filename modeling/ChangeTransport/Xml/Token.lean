/-!
# Markup tokens

A document is cut into tokens by a machine that takes one character at a time.  A tag ends at the
first `>` outside its quotes, a comment at the first `-->`, a character section at `]]>`, an
instruction at `?>`, and a document type where its angle brackets are balanced.  Where none of
these ends comes, or something else stands behind `<!`, the last token is broken.
-/

namespace ChangeTransport.Xml

/-- The blanks of markup. -/
def isBlank (character : Char) : Bool :=
  character == ' ' || character == '\t' || character == '\r' || character == '\n'

/-- The pieces of which documents consist. -/
inductive Token where
  /-- Characters between two pieces of markup, with their references. -/
  | text (raw : List Char)
  /-- The characters of a section in which nothing is markup. -/
  | section (characters : List Char)
  /-- A start tag, without its angle brackets. -/
  | startTag (tag : List Char)
  /-- The tag of an element without content, without its angle brackets and its slash. -/
  | emptyTag (tag : List Char)
  /-- An end tag, by its name. -/
  | endTag (name : List Char)
  | documentType
  /-- A comment, an instruction or an XML declaration. -/
  | aside
  | broken
  deriving Repr, DecidableEq

/-- What may stand behind `<!`. -/
inductive Declaration where
  | comment
  | section
  | documentType
  deriving Repr, DecidableEq

/-- Where the machine stands; the lists hold the characters of a piece, the last one first. -/
inductive Place where
  | text (before : List Char)
  /-- Behind `<`. -/
  | opened
  /-- Inside a tag, and inside quotes of the given kind. -/
  | tag (isEnd : Bool) (quote : Option Char) (before : List Char)
  /-- Behind `<!`. -/
  | declared
  /-- Inside a declaration, `balance` unclosed angle brackets deep. -/
  | declaration (kind : Declaration) (balance : Nat) (before : List Char)
  | instruction (before : List Char)
  | stopped
  deriving Repr, DecidableEq

/-- The tokens read so far, the last one first, and the place behind them. -/
structure Scanner where
  before : List Token
  place : Place
  deriving Repr, DecidableEq

namespace Scanner

/-- Nothing read yet. -/
def start : Scanner := ⟨[], .text []⟩

/-- A complete token. -/
def emit (scanner : Scanner) (token : Token) : Scanner :=
  ⟨token :: scanner.before, .text []⟩

/-- Nothing is read any more. -/
def stop (scanner : Scanner) : Scanner :=
  ⟨.broken :: scanner.before, .stopped⟩

/-- The scanner at another place. -/
def moveTo (scanner : Scanner) (place : Place) : Scanner :=
  { scanner with place }

end Scanner

/-- The token of a start tag or of the tag of an element without content. -/
def Token.ofTag (before : List Char) : Token :=
  match before with
  | '/' :: before => .emptyTag before.reverse
  | _ => .startTag before.reverse

/-- The token of an end tag.  Blanks behind the name do not count, unless there is no name. -/
def Token.ofEndTag (before : List Char) : Token :=
  match before.dropWhile isBlank with
  | [] => .endTag before.reverse
  | name => .endTag name.reverse

/-- Take a character inside a tag. -/
def Scanner.tag (scanner : Scanner) (isEnd : Bool) (quote : Option Char) (before : List Char)
    (character : Char) : Scanner :=
  match quote with
  | some mark =>
    scanner.moveTo
      (.tag isEnd (if character = mark then none else quote) (character :: before))
  | none =>
    if character = '>' then
      scanner.emit (if isEnd then .ofEndTag before else .ofTag before)
    else if character = '\'' ∨ character = '"' then
      scanner.moveTo (.tag isEnd (some character) (character :: before))
    else
      scanner.moveTo (.tag isEnd none (character :: before))

/-- Whether the characters behind `<!` up to a `>` end a declaration of their kind. -/
def Declaration.endsAt (kind : Declaration) (balance : Nat) (before : List Char) : Bool :=
  match kind with
  | .comment => 3 < before.length && before.take 2 == ['-', '-']
  | .section => before.take 2 == [']', ']']
  | .documentType => balance == 0

/-- Whether a list of letters begins another one, in any case of its ASCII letters. -/
def beginsWithLetters : (letters : List Char) → List Char → Bool
  | [], _ => true
  | _ :: _, [] => false
  | letter :: letters, character :: characters =>
    character.toUpper == letter && beginsWithLetters letters characters

/-- The token of a declaration that has ended, by the characters between `<!` and its `>`. -/
def Declaration.token? (kind : Declaration) (characters : List Char) : Option Token :=
  match kind with
  | .comment => if ['-', '-'].isPrefixOf characters then some .aside else none
  | .section =>
    if "[CDATA[".toList.isPrefixOf characters then
      some (.section ((characters.drop 7).take (characters.length - 9)))
    else
      none
  | .documentType =>
    if beginsWithLetters "DOCTYPE".toList characters &&
        (characters.drop 7).any (fun character => !isBlank character) then
      some .documentType
    else
      none

/-- Take a character inside a declaration. -/
def Scanner.declaration (scanner : Scanner) (kind : Declaration) (balance : Nat)
    (before : List Char) (character : Char) : Scanner :=
  if character = '>' then
    if kind.endsAt balance before then
      match kind.token? before.reverse with
      | some token => scanner.emit token
      | none => scanner.stop
    else
      scanner.moveTo (.declaration kind (balance - 1) (character :: before))
  else
    let balance := if character = '<' then balance + 1 else balance
    scanner.moveTo (.declaration kind balance (character :: before))

/-- Take one character. -/
def Scanner.step (scanner : Scanner) (character : Char) : Scanner :=
  match scanner.place with
  | .text before =>
    if character = '<' then
      match before with
      | [] => scanner.moveTo .opened
      | _ => ⟨.text before.reverse :: scanner.before, .opened⟩
    else
      scanner.moveTo (.text (character :: before))
  | .opened =>
    if character = '/' then scanner.moveTo (.tag true none [])
    else if character = '!' then scanner.moveTo .declared
    else if character = '?' then scanner.moveTo (.instruction [])
    else scanner.tag false none [] character
  | .tag isEnd quote before => scanner.tag isEnd quote before character
  | .declared =>
    if character = '-' then scanner.moveTo (.declaration .comment 0 [character])
    else if character = '[' then scanner.moveTo (.declaration .section 0 [character])
    else if character = 'D' ∨ character = 'd' then
      scanner.moveTo (.declaration .documentType 0 [character])
    else scanner.stop
  | .declaration kind balance before => scanner.declaration kind balance before character
  | .instruction before =>
    if character = '>' then
      match before with
      | [] => scanner.stop
      | '?' :: _ => scanner.emit .aside
      | _ => scanner.moveTo (.instruction (character :: before))
    else
      scanner.moveTo (.instruction (character :: before))
  | .stopped => scanner

/-- All tokens, once the document has ended. -/
def Scanner.finish (scanner : Scanner) : List Token :=
  match scanner.place with
  | .text [] => scanner.before.reverse
  | .text before => (.text before.reverse :: scanner.before).reverse
  | .stopped => scanner.before.reverse
  | _ => (.broken :: scanner.before).reverse

/-- The tokens of a document; a byte order mark before it does not count. -/
def tokens (characters : List Char) : List Token :=
  let characters :=
    match characters with
    | '\uFEFF' :: rest => rest
    | _ => characters
  (characters.foldl Scanner.step .start).finish

end ChangeTransport.Xml
