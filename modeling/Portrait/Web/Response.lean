import Portrait.Log.Record
import Portrait.Web.Cors
import Portrait.Web.Handler

/-!
# Responses

* `Response.ofReply` — a reply as a response.
* `respond` — a request from the first line that is read to the response.
-/

namespace Portrait.Web

/-- What is sent back. -/
structure Response where
  status : Nat
  content : Content
  headers : List (String × String) := []

namespace Response

/-- The headers of a rejection. -/
def rejectionHeaders (e : Rejection) : List (String × String) :=
  match e with
  | .wrongMethod allowed => [("allow", allowed)]
  | e => if e.asksForToken then [("www-authenticate", "Bearer")] else []

/-- A reply as a response. -/
def ofReply : Except Rejection Answer → Response
  | .ok a => ⟨a.status, a.content, []⟩
  | .error e => ⟨e.status, .value (.ofMembers [("detail", e.detail)]), rejectionHeaders e⟩

/-- The response when something went wrong that nobody expected. It bears no headers, not even those
that all others have. -/
def crash : Response := ⟨Rejection.crash.status, .text Rejection.crashWords, []⟩

/-- The response to a question of a browser. -/
def ofPreflight (faults : List String) : Response :=
  ⟨if faults = [] then 200 else 400, .text (preflightWords faults), []⟩

/-- The response with more headers. -/
def withHeaders (r : Response) (headers : List (String × String)) : Response :=
  { r with headers := r.headers ++ headers }

/-- The response as it is sent for a method. To `HEAD` it is sent without what it says. -/
def forMethod (r : Response) (method : String) : Response :=
  if method = "HEAD" then { r with content := .text "" } else r

end Response

/-- The header that names a request. -/
def requestIdHeader : String := "x-request-id"

/-- The name of a request: that which it brings, or a fresh one. -/
def nameRequest (names : Uuid.Supply) (r : Request) : String × Uuid.Supply :=
  match r.header? requestIdHeader with
  | none | some "" => let (number, names) := names.next; (Uuid.hex number, names)
  | some name => (name, names)

/-- Handles a request that is no question of a browser. -/
def exchange (settings : Settings) (now : Int) (d : Desk) (r : Request) : Exchange :=
  match route settings.routePrefix r.method r.path with
  | .found e => handle settings now d r e
  | .wrongMethod allowed => ⟨d, none, .error (.wrongMethod allowed)⟩
  | .moved => ⟨d, none, .ok .moved⟩
  | .nowhere => ⟨d, none, .error .noPage⟩

/-- A request that has been answered. -/
structure Served where
  desk : Desk
  /-- What is added to every line that is logged for the request. -/
  context : Log.Context
  response : Response

/-- What is added to lines that are logged for a request with a name. -/
def contextOf (name : String) (caller : Option Int) : Log.Context :=
  match caller with
  | none => .ofRequest name
  | some id => (Log.Context.ofRequest name).bind [("user_id", .whole id)]

/-- Answers a request in the second `now`. -/
def respond (settings : Settings) (now : Int) (d : Desk) (r : Request) : Served :=
  let (name, names) := nameRequest d.names r
  let d := { d with names := names }
  let always := corsHeaders settings.corsOrigins r ++ [(requestIdHeader, name)]
  if isPreflight r then
    ⟨d, contextOf name none,
      (Response.ofPreflight (preflightFaults settings.corsOrigins r)).withHeaders always⟩
  else
    let x := exchange settings now d r
    let response := match x.reply with
      | .error .crash => Response.crash
      | reply => (Response.ofReply reply).withHeaders always
    ⟨x.desk, contextOf name x.caller, response.forMethod r.method⟩

end Portrait.Web
