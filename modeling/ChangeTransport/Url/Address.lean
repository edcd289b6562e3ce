import ChangeTransport.Text.Digit
import ChangeTransport.Text.Lines

/-!
# Numeric addresses

A host may be given by a number.  An address of 32 bits has one to four parts, in a radix of ten,
eight or sixteen each; the last part fills the places that are left.  An address of 128 bits has
eight groups of hexadecimal digits, of which a run of zeros may be left out once; the last two
groups may be written like an address of 32 bits with four decimal parts.
-/

namespace ChangeTransport.Url

/-! ## Addresses of 32 bits -/

/-- The digits of a part of an address, and their radix. -/
def addressDigits (part : List Char) : Nat × List Char :=
  match part with
  | '0' :: 'x' :: rest => (16, rest)
  | '0' :: next :: rest => (8, next :: rest)
  | _ => (10, part)

/-- The value of a part of an address; none when it is no number. -/
def addressPart? (part : List Char) : Option Nat :=
  if part.isEmpty then
    none
  else
    let (radix, digits) := addressDigits part
    Text.digitsValue? radix 0 digits

/-- A name as parts, without an empty part at its end. -/
def addressParts (name : List Char) : List (List Char) :=
  let parts := Text.piecesAt '.' name
  if parts.getLast? = some [] then parts.dropLast else parts

/-- Whether the last part of a name is a number, so that the whole name must be an address. -/
def endsInNumber (name : List Char) : Bool :=
  match (addressParts name).getLast? with
  | some last => (!last.isEmpty && last.all Text.isDigit) || (addressPart? last).isSome
  | none => false

/--
The value of parts.  Each of them but the last fills one of the places, and the last one fills all
places that are left; where no place is left, no part can stand.
-/
def addressValue? : (places : Nat) → List Nat → Option Nat
  | 0, _ => none
  | _ + 1, [] => none
  | places + 1, [last] => if last < Nat.pow 256 (places + 1) then some last else none
  | places + 1, part :: rest =>
    if part < 256 then
      (addressValue? places rest).map (fun value => part * Nat.pow 256 places + value)
    else
      none

/-- The address of 32 bits that a name spells. -/
def shortAddress? (name : List Char) : Option Nat := do
  let parts ← (addressParts name).mapM addressPart?
  addressValue? 4 parts

/-- An address of 32 bits as text. -/
def shortAddressText (address : Nat) : List Char :=
  (toString (address / 0x1000000) ++ "." ++ toString (address / 0x10000 % 256) ++ "." ++
    toString (address / 0x100 % 256) ++ "." ++ toString (address % 256)).toList

/-! ## Addresses of 128 bits -/

/-- The value of a decimal part without leading zeros, below 256. -/
def octet? (part : List Char) : Option Nat := do
  guard (!part.isEmpty && (part.length == 1 || !part.head? == some '0'))
  let value ← Text.digitsValue? 10 0 part
  guard (value < 256)
  pure value

/-- The two groups that four decimal parts stand for. -/
def octetGroups? (field : List Char) : Option (List Nat) :=
  match Text.piecesAt '.' field with
  | [first, second, third, fourth] => do
    let first ← octet? first
    let second ← octet? second
    let third ← octet? third
    let fourth ← octet? fourth
    pure [first * 256 + second, third * 256 + fourth]
  | _ => none

/-- The value of a group: one to four hexadecimal digits. -/
def group? (field : List Char) : Option Nat := do
  guard (!field.isEmpty && field.length ≤ 4)
  Text.digitsValue? 16 0 field

/-- The groups of fields, of which only the last may hold decimal parts. -/
def groups? : List (List Char) → Option (List Nat)
  | [] => some []
  | [last] => if last.contains '.' then octetGroups? last else (group? last).map ([·])
  | field :: fields => do
    let first ← group? field
    let rest ← groups? fields
    pure (first :: rest)

/-- Fields without the first of two empty ones at the left end; a single empty one is a fault. -/
def withoutOuterField? : List (List Char) → Option (List (List Char))
  | [] :: [] :: rest => some ([] :: rest)
  | [] :: _ => none
  | fields => some fields

/-- The groups of an address, of which the empty field stands for as many zeros as are missing. -/
def fillGroups? (fields : List (List Char)) : Option (List Nat) :=
  match fields.span (fun field => !field.isEmpty) with
  | (before, []) => do
    let groups ← groups? before
    guard (groups.length = 8)
    pure groups
  | (before, _ :: after) => do
    let left ← before.mapM group?
    let right ← groups? after
    guard (left.length + right.length ≤ 7)
    pure (left ++ List.replicate (8 - left.length - right.length) 0 ++ right)

/-- The groups of the address of 128 bits that a text spells. -/
def longAddress? (text : List Char) : Option (List Nat) := do
  let fields ← withoutOuterField? (Text.piecesAt ':' text)
  let fields ← withoutOuterField? fields.reverse
  fillGroups? fields.reverse

/-- Where the longest run of zeros begins, and how long it is; of two equal runs the first. -/
def longestZeros (index : Nat) : List Nat → Nat × Nat
  | [] => (index, 0)
  | group :: rest =>
    let later := longestZeros (index + 1) rest
    let here := ((group :: rest).takeWhile (fun group => group == 0)).length
    if later.2 ≤ here then (index, here) else later

/-- Groups with colons between them. -/
def groupsText (groups : List Nat) : List Char :=
  [':'].intercalate (groups.map Text.hexOfPoint)

/-- An address of 128 bits as text: the longest run of at least two zeros is left out. -/
def longAddressText (groups : List Nat) : List Char :=
  let (start, length) := longestZeros 0 groups
  if length < 2 then
    groupsText groups
  else
    groupsText (groups.take start) ++ [':', ':'] ++ groupsText (groups.drop (start + length))

end ChangeTransport.Url
