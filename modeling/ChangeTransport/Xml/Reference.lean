import ChangeTransport.Text.Digit

/-!
# References

The five characters that have a meaning in markup are written as references to named entities.
Reading resolves those names and numbered characters, and refuses every other reference.
-/

namespace ChangeTransport.Xml

/-- How one character is written where markup must not begin or end. -/
def escapeCharacter (character : Char) : List Char :=
  match character with
  | '<' => "&lt;".toList
  | '>' => "&gt;".toList
  | '\'' => "&apos;".toList
  | '&' => "&amp;".toList
  | '"' => "&quot;".toList
  | _ => [character]

/-- A text without any character that has a meaning in markup. -/
def escape (text : String) : String :=
  String.ofList (text.toList.flatMap escapeCharacter)

/-- The character of a code point other than zero, given by at least one digit. -/
def numbered? (radix : Nat) (digits : List Char) : Option Char := do
  guard (!digits.isEmpty)
  let point ← Text.digitsValue? radix 0 digits
  guard (point ≠ 0)
  if valid : point.isValidChar then pure (Char.ofNatAux point valid) else none

/-- The character to which a reference refers, by what stands between `&` and `;`. -/
def referent? : List Char → Option Char
  | ['l', 't'] => some '<'
  | ['g', 't'] => some '>'
  | ['a', 'm', 'p'] => some '&'
  | ['a', 'p', 'o', 's'] => some '\''
  | ['q', 'u', 'o', 't'] => some '"'
  | '#' :: 'x' :: digits => numbered? 16 digits
  | '#' :: digits => numbered? 10 digits
  | _ => none

/--
Resolve the references of a text.  The first argument holds what stands behind an `&` that is
still open, the last character first.
-/
def resolveFrom : Option (List Char) → List Char → Option (List Char)
  | none, [] => some []
  | some _, [] => none
  | none, character :: rest =>
    if character = '&' then
      resolveFrom (some []) rest
    else do
      let characters ← resolveFrom none rest
      pure (character :: characters)
  | some name, character :: rest =>
    if character = ';' then do
      let referent ← referent? name.reverse
      let characters ← resolveFrom none rest
      pure (referent :: characters)
    else if character = '&' then
      none
    else
      resolveFrom (some (character :: name)) rest

/-- The characters for which a text stands; none when a reference has no referent. -/
def resolve (raw : List Char) : Option (List Char) :=
  resolveFrom none raw

end ChangeTransport.Xml
