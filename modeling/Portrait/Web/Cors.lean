import Portrait.Web.Request

/-!
# Pages of other sites

A browser shows a response to a page of another site only if the response allows it, and it asks
beforehand whether a request may be sent at all.

* `isPreflight` — is a request such a question?
* `preflightFaults` — what speaks against the request that is asked about.
* `corsHeaders` — what a response says to the browser.
-/

namespace Portrait.Web

/-- The header in which a browser names the site of the page. -/
def originHeader : String := "origin"

/-- The header in which a browser asks about a method. -/
def wantedMethodHeader : String := "access-control-request-method"

/-- Is the request a question of a browser, whether another request may be sent? -/
def isPreflight (r : Request) : Bool :=
  r.method = "OPTIONS" && (r.header? originHeader).isSome && (r.header? wantedMethodHeader).isSome

/-- The methods of requests that pages of other sites may send. -/
def methodsForOthers : List String := ["DELETE", "GET", "HEAD", "OPTIONS", "PATCH", "POST", "PUT"]

/-- Is the request from a page of a site that may use the service? -/
def isFromFriend (origins : List String) (r : Request) : Bool :=
  match r.header? originHeader with
  | some origin => origins.contains origin
  | none => false

/-- What speaks against the request that is asked about. -/
def preflightFaults (origins : List String) (r : Request) : List String :=
  let method := (r.header? wantedMethodHeader).getD ""
  (if isFromFriend origins r then [] else ["origin"]) ++
    (if methodsForOthers.contains method then [] else ["method"])

/-- What is said to the browser about a question: its faults, if there are any. -/
def preflightWords (faults : List String) : String :=
  if faults = [] then "OK" else "Disallowed CORS " ++ ", ".intercalate faults

/-- What a response says to the browser. A page of any site may be told that cookies would be
accepted, but the site is named only if it may use the service. -/
def corsHeaders (origins : List String) (r : Request) : List (String × String) :=
  match r.header? originHeader with
  | none => []
  | some origin =>
    ("access-control-allow-credentials", "true") ::
      if isFromFriend origins r then [("access-control-allow-origin", origin)] else []

end Portrait.Web
