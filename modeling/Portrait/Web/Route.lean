/-!
# Routes

* `Endpoint` — what can be asked of the service, some of it only by callers who are known.
* `route` — what a method and a path ask for.
-/

namespace Portrait.Web

/-- What a caller who is known can ask for. The number of a member is still a text. -/
inductive Errand where
  | profile
  | setName
  | uploadOwn
  | generateOwn
  | uploadFor (member : String)
  | setFor (member : String)
  deriving DecidableEq, Repr

/-- What can be asked of the service. -/
inductive Endpoint where
  | welcome
  | health
  | showAvatar (member : String)
  | errand (e : Errand)
  deriving DecidableEq, Repr

/-- A step of a path: a fixed one, or any that is not empty. -/
inductive Segment where
  | word (s : String)
  | any
  deriving DecidableEq, Repr

/-- A method, the form of a path, and what both ask for, given the step that is not fixed. -/
structure Route where
  method : String
  segments : List Segment
  endpoint : String → Endpoint

/-- The step of a path that is not fixed, empty if all are; none if the path is of another form. -/
def capture (found : String) : List Segment → List String → Option String
  | [], [] => some found
  | .word w :: segments, s :: steps => if w = s then capture found segments steps else none
  | .any :: segments, s :: steps => if s = "" then none else capture s segments steps
  | _, _ => none

/-- What a path asks for, by any method. -/
def Route.accept? (r : Route) (path : String) : Option Endpoint :=
  (capture "" r.segments (path.splitOn "/")).map r.endpoint

/-- All routes; those for members are below a common path. -/
def routes (top : String) : List Route :=
  let below (segments : List Segment) := (top.splitOn "/").map Segment.word ++ .word "users" :: segments
  [⟨"GET", [.word "", .word ""], fun _ => .welcome⟩,
    ⟨"GET", [.word "", .word "health"], fun _ => .health⟩,
    ⟨"GET", below [.word "me"], fun _ => .errand .profile⟩,
    ⟨"PUT", below [.word "me", .word "name"], fun _ => .errand .setName⟩,
    ⟨"GET", below [.any, .word "avatar"], .showAvatar⟩,
    ⟨"POST", below [.word "me", .word "avatar"], fun _ => .errand .uploadOwn⟩,
    ⟨"POST", below [.word "me", .word "avatar", .word "generate"], fun _ => .errand .generateOwn⟩,
    ⟨"POST", below [.any, .word "avatar"], fun member => .errand (.uploadFor member)⟩,
    ⟨"PUT", below [.any, .word "avatar"], fun member => .errand (.setFor member)⟩]

/-- Where a request leads. -/
inductive Routing where
  | found (e : Endpoint)
  /-- The path is known, but not with this method. -/
  | wrongMethod (allowed : String)
  /-- The path is known without the slashes at its end. -/
  | moved
  | nowhere
  deriving DecidableEq, Repr

/-- The methods and endpoints of a path, in the order of the routes. -/
def hits (top path : String) : List (String × Endpoint) :=
  (routes top).filterMap fun r => (r.accept? path).map fun e => (r.method, e)

/-- The path without a line end behind it. -/
def withoutLineEnd (path : String) : String :=
  if path.toList.getLast? = some '\n' then String.ofList path.toList.dropLast else path

/-- The path without slashes at its end. -/
def withoutSlashes (path : String) : String :=
  String.ofList (path.toList.reverse.dropWhile (· = '/')).reverse

/-- Where a method and a path lead. The first route for both wins; if there is none, the first route
for the path tells the method that is allowed. -/
def route (top method path : String) : Routing :=
  match (hits top (withoutLineEnd path)).find? fun h => h.1 == method with
  | some (_, e) => .found e
  | none =>
    match hits top (withoutLineEnd path) with
    | (allowed, _) :: _ => .wrongMethod allowed
    | [] =>
      if path ≠ withoutSlashes path ∧ hits top (withoutSlashes path) ≠ [] then .moved else .nowhere

end Portrait.Web
