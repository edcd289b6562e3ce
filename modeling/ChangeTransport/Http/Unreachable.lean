import ChangeTransport.Http.Message
import ChangeTransport.Url.Basic

/-!
# Requests that reach nobody

Why a request gets no reply where nobody answers: its address, one of its headers or its scheme may
be at fault, and otherwise no connection comes about.  The reason names the address without the
user in it.
-/

namespace ChangeTransport.Http

/-- Whether a character may stand in the name of a header. -/
def isOfToken (character : Char) : Bool :=
  Url.isLetter character || Text.isDigit character || character.toNat == 0x60 ||
    ['!', '#', '$', '%', '&', '\'', '*', '+', '-', '.', '^', '_', '|', '~'].contains character

/-- Whether a text may be the name of a header. -/
def isHeaderName (name : String) : Bool :=
  name != "" && name.toList.all isOfToken && name.length ≤ 65535

/-- Whether a text may be the value of a header: it holds no control but the tab. -/
def isHeaderValue (value : String) : Bool :=
  value.toList.all fun character =>
    character == '\t' || (0x20 ≤ character.toNat && character.toNat != 0x7F)

/-- Whether a header can be sent. -/
def isHeader (header : Header) : Bool :=
  isHeaderName header.1 && isHeaderValue header.2

/-- The text for which characters with percent signs stand, if it is one. -/
def plainText? (characters : List Char) : Option (List Char) :=
  (Text.Utf8.decode (Url.unescape characters)).toOption

/-- Whether a user is taken out of an address and sent in a header. -/
def isSendable (user : Url.User) : Bool :=
  (plainText? user.name).isSome &&
    (!user.name.isEmpty || (!user.password.isEmpty && (plainText? user.password).isSome))

/-- An address as it is asked for. -/
def sentUrl (url : Url) : Url :=
  match url.authority with
  | some authority => if isSendable authority.user then url.withoutUser else url
  | none => url

/-- Whether a character may stand in the host of a request. -/
def isOfHost (character : Char) : Bool :=
  character.toNat != 0x60 &&
    !(['"', '\x7b', '\x7d', '^', '|', '<', '>', '\\'].contains character)

/-- Whether a connection can be asked for. -/
def isConnectable (url : Url) : Bool :=
  (url.scheme == "http".toList || url.scheme == "https".toList) &&
    url.text.utf8ByteSize ≤ 65534 &&
    match url.host? with
    | some host => host.text.all isOfHost
    | none => false

/-- The reason why a request gets no reply where nobody answers. -/
def unreachableReason (request : Request) : String :=
  match Url.parse request.url with
  | .error _ => "builder error"
  | .ok url =>
    let url := sentUrl url
    let refused := "builder error for url (" ++ url.text ++ ")"
    if url.host?.isNone then refused
    else if !request.headers.all isHeader then "builder error"
    else if !isConnectable url then refused
    else "error sending request for url (" ++ url.text ++ ")"

/-- The answer to a request where nobody answers. -/
def unreachable (request : Request) : Answer :=
  .failure (unreachableReason request)

end ChangeTransport.Http
