import ListKeeper.Http.Endpoint

namespace ListKeeper.Http

/-- What is done about a request, but for the answer to questions about cross-origin calls. A path
that is no resource and a method that the resource does not have are refused. -/
def Request.work (request : Request) : Job Response :=
  match Resource.ofPath? request.path with
  | none => pure (.bare 404)
  | some resource =>
    match resource.method? request.method with
    | none => pure (.bare 405)
    | some method =>
      match resource.work method request with
      | .ok work => work
      | .error refusal => pure refusal

/-- A question about cross-origin calls. -/
def Request.isPreflight (request : Request) : Bool :=
  request.method == "OPTIONS"

/-- The work of a request: none at all for a question about cross-origin calls. -/
def Request.job (request : Request) : Job Response :=
  if request.isPreflight then pure (.bare 200) else request.work

def varyHeader : String × String :=
  ("vary", "origin, access-control-request-method, access-control-request-headers")

/-- The headers that let pages from anywhere use a response. -/
def sharingHeaders (request : Request) : List (String × String) :=
  if request.isPreflight then
    [("access-control-allow-origin", "*"), ("access-control-allow-methods", "*"),
      ("access-control-allow-headers", "*"), varyHeader]
  else
    [("access-control-allow-origin", "*"), ("access-control-expose-headers", "*"), varyHeader]

/-- The list of methods, for a resource that does not have the one that is asked for. -/
def allowHeaders (request : Request) : List (String × String) :=
  match Resource.ofPath? request.path with
  | none => []
  | some resource => if (resource.method? request.method).isSome then [] else [resource.allow]

/-- What is left of a response for the request it answers. -/
def Request.seen (request : Request) (response : Response) : Response :=
  if request.method == "HEAD" then response.withoutBody else response

def Request.response (request : Request) (work : Job Response) : Response :=
  let response := match work with
    | .done response => response
    | _ => .bare 408
  (request.seen response).withHeaders (sharingHeaders request ++ allowHeaders request)

end ListKeeper.Http
