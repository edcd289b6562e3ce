import ChangeTransport.Log.Entry
import ChangeTransport.Text.Ascii
import ChangeTransport.Text.Blank
import ChangeTransport.Text.Digit
import ChangeTransport.Text.Hidden
import ChangeTransport.Text.Lines

/-!
# Log filters

A filter says which entries are written.  It is a list of directives with commas between them: a
level for all entries, or a path and a level for those from the parts of the program whose path
begins with it.  A directive may also ask for fields that an entry must have, or for a span, which
no entry of this program is in.  Of the directives that fit an entry the most specific one decides.

Blanks in front of a directive do not count where the parts of the directive are looked for, but
they do where the parts are cut out, so that every part is cut that much too early.
-/

namespace ChangeTransport.Log

/-- The detail that a digit or a name stands for, the name of a level in any case. -/
def detailOfWord? (word : List Char) : Option Nat :=
  let digits :=
    match word with
    | '+' :: rest => rest
    | _ => word
  let number? := if digits.isEmpty then none else Text.digitsValue? 10 0 digits
  match number?.filter (fun number => number ≤ 5) with
  | some number => some number
  | none =>
    match String.ofList (word.map Text.lowerAscii) with
    | "" | "error" => some 1
    | "warn" => some 2
    | "info" => some 3
    | "debug" => some 4
    | "trace" => some 5
    | "off" => some 0
    | _ => none

/-- A directive of a filter. -/
structure Directive where
  /-- The beginning of the paths that a directive is about; all paths if there is none. -/
  path : Option String
  /-- The fields that an entry must have. -/
  fields : List String
  /-- Whether a directive asks for a span, or for a field with a certain value. -/
  isOfSpan : Bool
  /-- The most detail that is written. -/
  detail : Nat
  deriving Repr, DecidableEq

/-- The part of a directive that is being read; the last list holds its characters reversed. -/
inductive DirectivePart where
  | start
  | word (before : List Char)
  | span (path : Option String) (before : List Char)
  | field (path : Option String) (inSpan : Bool) (fields : List String) (before : List Char)
  | afterFields (path : Option String) (inSpan : Bool) (fields : List String)
  | afterSpan (path : Option String) (inSpan : Bool) (fields : List String)
  | detail (path : Option String) (inSpan : Bool) (fields : List String) (before : List Char)
  deriving Repr, DecidableEq

/-- A text given by its characters, the last one first. -/
def textOfReversed (before : List Char) : String := String.ofList before.reverse

/-- Whether a directive may begin with a character. -/
def mayBeginDirective (character : Char) : Bool :=
  character == '-' || character == ':' || character == '_' || character.isAlphanum ||
    (0x80 ≤ character.toNat && !Text.isHidden character)

namespace DirectivePart

/-- Read one character, which is cut out as another one. -/
def step? (part : DirectivePart) (character cut : Char) : Option DirectivePart :=
  match part with
  | start =>
    if character = '[' then some (span none [])
    else if mayBeginDirective character then some (word [cut])
    else none
  | word before =>
    if character = '=' then some (detail (some (textOfReversed before)) false [] [])
    else if character = '[' then some (span (some (textOfReversed before)) [])
    else some (word (cut :: before))
  | span path before =>
    if character = ']' then some (afterSpan path true [])
    else if character = '\x7b' then some (field path (!before.isEmpty) [] [])
    else some (span path (cut :: before))
  | field path inSpan fields before =>
    if character = '\x7d' then
      if before.isEmpty then none
      else some (afterFields path inSpan (fields ++ [textOfReversed before]))
    else some (field path inSpan fields (cut :: before))
  | afterFields path inSpan fields =>
    if character = ']' then some (afterSpan path inSpan fields) else none
  | afterSpan path inSpan fields =>
    if character = '=' then some (detail path inSpan fields []) else none
  | detail path inSpan fields before => some (detail path inSpan fields (cut :: before))

/-- A directive about a path, with fields and perhaps a span. -/
def directive (path : Option String) (inSpan : Bool) (fields : List String) (detail : Nat) :
    Directive :=
  ⟨path, fields, inSpan || fields.any (fun field => field.toList.contains '='), detail⟩

/-- The directive, once its text has ended; `rest` is what is cut out behind the end. -/
def finish? (part : DirectivePart) (rest : List Char) : Option Directive :=
  match part with
  | word before =>
    let word := before.reverse ++ rest
    match detailOfWord? word with
    | some most => some (directive none false [] most)
    | none => some (directive (some (String.ofList word)) false [] Level.trace.detail)
  | detail path inSpan fields before =>
    let word := before.reverse ++ rest
    if word.isEmpty then some (directive path inSpan fields Level.trace.detail)
    else (detailOfWord? word).map (directive path inSpan fields)
  | afterSpan path inSpan fields => some (directive path inSpan fields Level.trace.detail)
  | _ => none

end DirectivePart

namespace Directive

/-- The directive that a text spells. -/
def ofText? (text : List Char) : Option Directive := do
  let counted := Text.stripWhere Text.isBlank text
  let part ← (counted.zip text).foldlM (fun part pair => part.step? pair.1 pair.2)
    DirectivePart.start
  part.finish? (text.drop counted.length)

/-- Whether a directive is about an entry. -/
def fits (directive : Directive) (entry : Entry) : Bool :=
  !directive.isOfSpan &&
    (match directive.path with
      | some path => path.toList.isPrefixOf entry.origin.path.toList
      | none => true) &&
    directive.fields.all (fun name => entry.allFields.any (fun field => field.1 == name))

/-- How specific a directive is: the length of its path, and the number of its fields. -/
def specificity (directive : Directive) : Nat × Nat :=
  ((directive.path.map (fun path => path.utf8ByteSize + 1)).getD 0, directive.fields.length)

/-- Whether a directive is at least as specific as another. -/
def covers (later earlier : Directive) : Bool :=
  earlier.specificity.1 < later.specificity.1 ||
    (earlier.specificity.1 == later.specificity.1 &&
      earlier.specificity.2 ≤ later.specificity.2)

/-- The directive about everything that is not about anything else. -/
def all (level : Level) : Directive := ⟨none, [], false, level.detail⟩

end Directive

/-- A filter. -/
abbrev Filter := List Directive

namespace Filter

/-- The filter that lets entries up to a level pass. -/
def upTo (level : Level) : Filter := [.all level]

/-- The filter that a text spells; an empty one lets only errors pass. -/
def ofText? (text : String) : Option Filter := do
  let pieces := (Text.piecesAt ',' text.toList).filter (fun piece => !piece.isEmpty)
  let directives ← pieces.mapM Directive.ofText?
  pure (if directives.isEmpty then upTo .error else directives)

/-- The filter of a program: the one that is given, if it can be read. -/
def ofSetting (setting : Option String) (level : Level) : Filter :=
  (setting.bind ofText?).getD (upTo level)

/-- The directive that decides about an entry; of two equally specific ones the last. -/
def deciding? (filter : Filter) (entry : Entry) : Option Directive :=
  (filter.filter (fun directive => directive.fits entry)).foldl
    (fun chosen directive =>
      match chosen with
      | some earlier => if directive.covers earlier then some directive else some earlier
      | none => some directive)
    none

/-- Whether an entry is written. -/
def passes (filter : Filter) (entry : Entry) : Bool :=
  match filter.deciding? entry with
  | some directive => entry.level.detail ≤ directive.detail
  | none => false

end Filter

end ChangeTransport.Log
