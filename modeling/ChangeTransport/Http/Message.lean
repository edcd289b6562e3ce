import ChangeTransport.Text.Ascii
import ChangeTransport.Text.Utf8

/-!
# Requests and replies

A request asks for an address, by one of two methods, with headers and perhaps a body.  A reply has
a status, headers and a body.  The name of a header is looked up without regard to case, and of
several headers with one name the first counts.
-/

namespace ChangeTransport.Http

/-- How an address is asked for. -/
inductive Method where
  | get
  | post
  deriving Repr, DecidableEq

/-- The name of a method. -/
def Method.name : Method → String
  | get => "GET"
  | post => "POST"

/-- A header: its name and its value. -/
abbrev Header := String × String

/-- The first value of the headers with a name. -/
def headerValue? (headers : List Header) (name : String) : Option String :=
  (headers.find? (fun header => Text.sameIgnoringCase header.1 name)).map Prod.snd

/-- A request. -/
structure Request where
  method : Method
  url : String
  headers : List Header
  body : Option (List UInt8)
  deriving Repr, DecidableEq

namespace Request

/-- A request that asks for an address and says nothing else. -/
def get (url : String) : Request := ⟨.get, url, [], none⟩

/-- A request that hands something to an address. -/
def post (url : String) : Request := ⟨.post, url, [], none⟩

/-- A request with one more header. -/
def withHeader (name value : String) (request : Request) : Request :=
  { request with headers := request.headers ++ [(name, value)] }

/-- A request with a text as its body. -/
def withBody (text : String) (request : Request) : Request :=
  { request with body := some (Text.Utf8.ofText text) }

/-- The first value of the headers with a name. -/
def header? (request : Request) (name : String) : Option String :=
  headerValue? request.headers name

end Request

/-- A reply. -/
structure Reply where
  status : Nat
  headers : List Header
  body : List UInt8
  deriving Repr, DecidableEq

namespace Reply

/-- Whether a reply says that the request has been carried out. -/
def isSuccess (reply : Reply) : Bool := 200 ≤ reply.status && reply.status < 300

/-- The first value of the headers with a name. -/
def header? (reply : Reply) (name : String) : Option String :=
  headerValue? reply.headers name

/-- The body as text, as far as it is one. -/
def text (reply : Reply) : String := Text.Utf8.toTextLossy reply.body

end Reply

/-- What comes of a request. -/
inductive Answer where
  | reply (reply : Reply)
  /-- There is no reply. -/
  | failure (reason : String)
  deriving Repr, DecidableEq

end ChangeTransport.Http
