import ListKeeper.Http.Header
import ListKeeper.Json.Value

namespace ListKeeper.Http

/-- Text in lower case, as far as it is ASCII. -/
def lowerCase (text : String) : String :=
  String.ofList (text.toList.map Char.toLower)

/-- The content of a request, which is bytes. -/
structure Content where
  bytes : List UInt8

def Content.ofText (text : String) : Content :=
  ⟨text.toUTF8.data.toList⟩

instance : Coe String Content :=
  ⟨Content.ofText⟩

/-- A request. The names of methods are case-sensitive, those of headers are not. -/
structure Request where
  method : String
  target : String
  headers : List (String × HeaderValue)
  body : Content

/-- The first header of a given name in lower case. -/
def Request.header? (request : Request) (name : String) : Option HeaderValue :=
  (request.headers.find? fun header => lowerCase header.1 == name).map Prod.snd

/-- The characters that a path ends before. -/
def endsPath (c : Char) : Bool :=
  c == '?' || c == '#'

/-- The characters of schemes, which may stand in any order. -/
def isSchemeChar (c : Char) : Bool :=
  c.isAlphanum || c == '+' || c == '-' || c == '.' || c == '~'

/-- A target without its scheme and host, if it is a whole address. -/
def withoutHost (target : List Char) : List Char :=
  match target.dropWhile isSchemeChar with
  | ':' :: '/' :: '/' :: rest =>
    match rest.dropWhile fun c => c != '/' && !endsPath c with
    | '/' :: path => '/' :: path
    | path => '/' :: path
  | _ => target

/-- The target up to its query or fragment. -/
def Request.path (request : Request) : String :=
  String.ofList ((withoutHost request.target.toList).takeWhile fun c => !endsPath c)

inductive Body where
  | empty
  | text (content : String)
  | json (content : Json)

structure Response where
  status : Nat
  headers : List (String × String)
  body : Body

namespace Response

def bare (status : Nat) : Response :=
  ⟨status, [], .empty⟩

def plain (status : Nat) (content : String) : Response :=
  ⟨status, [("content-type", "text/plain; charset=utf-8")], .text content⟩

def ofJson (status : Nat) (content : Json) : Response :=
  ⟨status, [("content-type", "application/json")], .json content⟩

def withHeaders (response : Response) (headers : List (String × String)) : Response :=
  { response with headers := response.headers ++ headers }

def withoutBody (response : Response) : Response :=
  { response with body := .empty }

/-- The response to a request that failed: the number of the kind of fault, and its message. -/
def ofFault (fault : RequestFault) : Response :=
  .ofJson fault.status (.object [("error", .object
    [("code", .ofNat fault.code), ("message", .text fault.message)])])

end Response

end ListKeeper.Http
