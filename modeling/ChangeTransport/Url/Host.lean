import ChangeTransport.Url.Address
import ChangeTransport.Url.Domain
import ChangeTransport.Url.Percent

/-!
# Hosts

The host of an address is a name or a number.  The common schemes give a domain name, perhaps with
percent signs, in which a name that ends in a number must be an address of 32 bits.  Every other
scheme gives a name that is taken as it is.  Brackets hold an address of 128 bits in all of them.
-/

namespace ChangeTransport.Url

/-- Why a text is no address. -/
inductive Fault where
  | emptyHost
  | badName
  | badPort
  | badShortAddress
  | badLongAddress
  | badCharacter
  | relative
  deriving Repr, DecidableEq

/-- The text that names a fault. -/
def Fault.message : Fault → String
  | .emptyHost => "empty host"
  | .badName => "invalid international domain name"
  | .badPort => "invalid port number"
  | .badShortAddress => "invalid IPv4 address"
  | .badLongAddress => "invalid IPv6 address"
  | .badCharacter => "invalid domain character"
  | .relative => "relative URL without a base"

/-- A host. -/
inductive Host where
  | name (characters : List Char)
  /-- An address of 32 bits. -/
  | short (address : Nat)
  /-- An address of 128 bits, by its eight groups. -/
  | long (groups : List Nat)
  deriving Repr, DecidableEq

namespace Host

/-- A host as text. -/
def text : Host → List Char
  | name characters => characters
  | short address => shortAddressText address
  | long groups => '[' :: (longAddressText groups ++ [']'])

/-- The host in brackets, of which the first is not given. -/
def ofBracketed (rest : List Char) : Except Fault Host :=
  match rest.reverse with
  | ']' :: inside =>
    match longAddress? inside.reverse with
    | some groups => .ok (long groups)
    | none => .error .badLongAddress
  | _ => .error .badLongAddress

/-- The host that a domain name in ASCII stands for. -/
def ofDomain (domain : List Char) : Except Fault Host :=
  if domain.isEmpty then
    .error .emptyHost
  else if endsInNumber domain then
    match shortAddress? domain with
    | some address => .ok (short address)
    | none => .error .badShortAddress
  else
    .ok (name domain)

/-- The host of a common scheme. -/
def ofCommon : List Char → Except Fault Host
  | '[' :: rest => ofBracketed rest
  | characters =>
    match Domain.ofBytes? (unescape characters) with
    | some domain => ofDomain domain
    | none => .error .badName

/-- Whether a character may not stand in a name that is taken as it is. -/
def isBarred (character : Char) : Bool :=
  ['\x00', '\t', '\n', '\r', ' ', '#', '/', ':', '<', '>', '?', '@', '[', '\\', ']', '^',
    '|'].contains character

/-- The host of a scheme that is not common; an empty name is no host. -/
def ofOther? : List Char → Except Fault (Option Host)
  | [] => .ok none
  | '[' :: rest => (ofBracketed rest).map some
  | characters =>
    if characters.any isBarred then
      .error .badCharacter
    else
      .ok (some (name (escapeWhere isControl characters)))

end Host

end ChangeTransport.Url
