import ChangeTransport.Json.Token

/-!
# Outlines

The outline of a text is the tree of its values as far as the text can be read.  Where a text
stops being well formed, the branch that stands last holds the fault; everything before it is
there.  A reader that walks the outline from the left therefore meets the faults of form and the
faults of type in the order in which they stand in the text.

Outlines are built from tokens one by one, with the containers that are still open in a list.
-/

namespace ChangeTransport.Json

mutual

/-- A value as far as it can be read. -/
inductive Outline where
  | null
  | boolean (value : Bool)
  | number (value : Option Number)
  | text (value : Option String)
  | array (items : Items)
  | object (members : Members)
  /-- No value where one must stand. -/
  | broken (fault : Break)

/-- The items of an array. -/
inductive Items where
  | closed
  | broken (fault : Break)
  | more (item : Outline) (rest : Items)

/-- The members of an object; a name without a value stands for no text. -/
inductive Members where
  | closed
  | broken (fault : Break)
  | more (name : Option String) (value : Outline) (rest : Members)

end

/-- Items in front of others; the first list has its last item first. -/
def Items.prepend : List Outline → Items → Items
  | [], rest => rest
  | item :: before, rest => Items.prepend before (.more item rest)

/-- Members in front of others; the first list has its last member first. -/
def Members.prepend : List (Option String × Outline) → Members → Members
  | [], rest => rest
  | (name, value) :: before, rest => Members.prepend before (.more name value rest)

/-- A container that waits for a value. -/
inductive Frame where
  | array (before : List Outline)
  | object (before : List (Option String × Outline)) (name : Option String)

/-- What may stand next. -/
inductive Expectation where
  /-- A value. -/
  | value
  /-- The first item of an array, or its end. -/
  | firstItem
  /-- The rest of an array behind an item. -/
  | afterItem (before : List Outline)
  /-- The name of a member, or the end of the object if no comma stands before. -/
  | name (before : List (Option String × Outline)) (mayEnd : Bool)
  /-- The colon behind a name. -/
  | colon (before : List (Option String × Outline)) (name : Option String)
  /-- The rest of an object behind a member. -/
  | afterMember (before : List (Option String × Outline))

/-- How far the building of an outline has come. -/
inductive Builder where
  | waiting (expectation : Expectation) (outer : List Frame)
  /-- The value is whole; `trailing` tells whether anything stands behind it. -/
  | whole (value : Outline) (trailing : Bool)
  /-- The text is at fault, and nothing after that counts. -/
  | stopped (value : Outline)

namespace Builder

/-- A text begins with a value. -/
def start : Builder := .waiting .value []

/-- Put a whole value where the innermost container waits for it. -/
def complete (value : Outline) : List Frame → Builder
  | [] => .whole value false
  | .array before :: outer => .waiting (.afterItem (value :: before)) outer
  | .object before name :: outer => .waiting (.afterMember ((name, value) :: before)) outer

/-- The outermost value, when a value inside it breaks off. -/
def collapse (value : Outline) : List Frame → Outline
  | [] => value
  | .array before :: outer =>
    collapse (.array (Items.prepend before (.more value (.broken .malformed)))) outer
  | .object before name :: outer =>
    collapse
      (.object (Members.prepend before (.more name value (.broken .malformed)))) outer

/-- Break off where a value must stand. -/
def breakValue (fault : Break) (outer : List Frame) : Outline :=
  collapse (.broken fault) outer

/-- Break off inside an array, behind the given items. -/
def breakItems (before : List Outline) (fault : Break) (outer : List Frame) : Outline :=
  collapse (.array (Items.prepend before (.broken fault))) outer

/-- Break off inside an object, behind the given members. -/
def breakMembers (before : List (Option String × Outline)) (fault : Break)
    (outer : List Frame) : Outline :=
  collapse (.object (Members.prepend before (.broken fault))) outer

/-- Take a token where a value must stand. -/
def takeValue (outer : List Frame) : Token → Builder
  | .null => complete .null outer
  | .boolean value => complete (.boolean value) outer
  | .number value => complete (.number value) outer
  | .text value => complete (.text value) outer
  | .openArray => .waiting .firstItem outer
  | .openObject => .waiting (.name [] true) outer
  | .brokenText fault | .broken fault => .stopped (breakValue fault outer)
  | _ => .stopped (breakValue .malformed outer)

/-- Take a token inside a text that is still open. -/
def take (outer : List Frame) : Expectation → Token → Builder
  | .value, token => takeValue outer token
  | .firstItem, .closeArray => complete (.array .closed) outer
  | .firstItem, token => takeValue (.array [] :: outer) token
  | .afterItem before, .comma => .waiting .value (.array before :: outer)
  | .afterItem before, .closeArray => complete (.array (Items.prepend before .closed)) outer
  | .afterItem before, _ => .stopped (breakItems before .malformed outer)
  | .name before _, .text name => .waiting (.colon before name) outer
  | .name before true, .closeObject =>
    complete (.object (Members.prepend before .closed)) outer
  | .name before _, .brokenText fault => .stopped (breakMembers before fault outer)
  | .name before _, _ => .stopped (breakMembers before .malformed outer)
  | .colon before name, .colon => .waiting .value (.object before name :: outer)
  | .colon before name, _ => .stopped (breakValue .malformed (.object before name :: outer))
  | .afterMember before, .comma => .waiting (.name before false) outer
  | .afterMember before, .closeObject =>
    complete (.object (Members.prepend before .closed)) outer
  | .afterMember before, _ => .stopped (breakMembers before .malformed outer)

/-- Take one token. -/
def step : Builder → Token → Builder
  | .waiting expectation outer, token => take outer expectation token
  | .whole value _, _ => .whole value true
  | .stopped value, _ => .stopped value

/-- The outline of a text that ends where something is expected. -/
def cut (outer : List Frame) : Expectation → Outline
  | .value => breakValue .cutShort outer
  | .firstItem => breakItems [] .cutShort outer
  | .afterItem before => breakItems before .cutShort outer
  | .name before _ => breakMembers before .cutShort outer
  | .colon before name => breakValue .cutShort (.object before name :: outer)
  | .afterMember before => breakMembers before .cutShort outer

end Builder

/-- A text as far as it can be read. -/
structure Document where
  value : Outline
  /-- Whether anything but blanks stands behind the value. -/
  trailing : Bool

/-- The document, once the text has ended. -/
def Builder.finish : Builder → Document
  | .waiting expectation outer => ⟨cut outer expectation, false⟩
  | .whole value trailing => ⟨value, trailing⟩
  | .stopped value => ⟨value, false⟩

/-- The document of a list of tokens. -/
def Document.ofTokens (tokens : List Token) : Document :=
  (tokens.foldl Builder.step .start).finish

/-- The document of a text. -/
def Document.read (bytes : List UInt8) : Document :=
  .ofTokens (tokens bytes)

end ChangeTransport.Json
