import Portrait.Proofs.Text.Split
import Portrait.Web.Route

/-!
# Where requests lead

The routes for a method are tried in their order, and the first whose steps are those of the path wins.

* `find?_hits` — only the routes for the method of a request matter to it.
* `capture_below` — the steps that all paths of members begin with.
* `method_of_found` — the methods of requests that lead to an endpoint.

Main statement: if a picture can be put at a path, one can be posted there for the same member
(`found_uploadFor`), unless it is the path of the caller.
-/

set_option autoImplicit false

namespace Portrait.Web

/-- The routes for one method. -/
def routesOf (top method : String) : List Route := (routes top).filter fun r => r.method == method

theorem find?_hits (top path method : String) :
    ((hits top path).find? fun h => h.1 == method) =
      ((routesOf top method).findSome? fun r => r.accept? path).map fun e => (method, e) := by
  unfold hits routesOf
  induction routes top with
  | nil => rfl
  | cons r rest ih =>
    rw [List.filterMap_cons, List.filter_cons]
    by_cases hmethod : r.method = method
    · rw [if_pos (beq_iff_eq.2 hmethod), List.findSome?_cons]
      cases r.accept? path with
      | none => exact ih
      | some e => simp [hmethod]
    · rw [if_neg (mt beq_iff_eq.1 hmethod)]
      cases r.accept? path with
      | none => exact ih
      | some e => simpa [hmethod] using ih

/-- A request leads to an endpoint that the first route for its method leads to. -/
theorem route_eq_found_iff {top method path : String} {e : Endpoint} :
    route top method path = .found e ↔
      (routesOf top method).findSome? (fun r => r.accept? (withoutLineEnd path)) = some e := by
  rw [route, find?_hits]
  cases (routesOf top method).findSome? fun r => r.accept? (withoutLineEnd path) with
  | some found => simp
  | none =>
    simp only [Option.map_none, reduceCtorEq, iff_false]
    split
    · exact Routing.noConfusion
    · split <;> exact Routing.noConfusion

/-- Every route is for one of three methods. -/
theorem method_of_found {top method path : String} {e : Endpoint}
    (h : route top method path = .found e) : method ∈ ["GET", "PUT", "POST"] := by
  rw [route_eq_found_iff] at h
  obtain ⟨r, hr, -⟩ := List.exists_of_findSome?_eq_some h
  obtain ⟨hroute, hmethod⟩ := List.mem_filter.1 hr
  have hall : ∀ r ∈ routes top, r.method ∈ ["GET", "PUT", "POST"] := by
    simp [routes]
  rw [← beq_iff_eq.1 hmethod]
  exact hall r hroute

theorem ne_of_found {top method path other : String} {e : Endpoint}
    (h : route top method path = .found e) (hother : other ∉ ["GET", "PUT", "POST"]) :
    method ≠ other := by
  rintro rfl
  exact hother (method_of_found h)

theorem splitOn_slash (s : String) :
    s.splitOn "/" = (s.toList.splitOnP (· == '/')).map String.ofList :=
  Text.splitOn_singleton s '/'

/-! ## Paths of members -/

theorem capture_words {found : String} {words steps : List String} {segments : List Segment}
    {member : String} :
    capture found (words.map Segment.word ++ segments) steps = some member ↔
      ∃ rest, steps = words ++ rest ∧ capture found segments rest = some member := by
  induction words generalizing steps with
  | nil => simp
  | cons w words ih =>
    cases steps with
    | nil => simp [capture]
    | cons s steps =>
      rw [List.map_cons, List.cons_append, capture]
      split
      · rename_i hw
        subst hw
        rw [ih]
        simp
      · rename_i hw
        simp only [reduceCtorEq, List.cons_append, List.cons.injEq, false_iff, not_exists, not_and]
        rintro rest ⟨rfl, -⟩
        exact absurd rfl hw

/-- What the routes for members are below the common path. -/
theorem capture_below {top member : String} {segments : List Segment} {steps : List String} :
    capture "" ((top.splitOn "/").map Segment.word ++ .word "users" :: segments) steps = some member ↔
      ∃ rest, steps = top.splitOn "/" ++ "users" :: rest ∧ capture "" segments rest = some member := by
  have hwords : (top.splitOn "/").map Segment.word ++ .word "users" :: segments =
      (top.splitOn "/" ++ ["users"]).map Segment.word ++ segments := by simp
  rw [hwords, capture_words]
  simp

theorem capture_any {member last : String} {rest : List String} :
    capture "" [.any, .word last] rest = some member ↔ rest = [member, last] ∧ member ≠ "" := by
  rcases rest with _ | ⟨a, _ | ⟨b, _ | ⟨c, rest⟩⟩⟩
  · simp [capture]
  · by_cases ha : a = "" <;> simp [capture, ha]
  · by_cases ha : a = ""
    · simp only [capture, ha, if_true, reduceCtorEq, List.cons.injEq, and_true, false_iff, not_and]
      rintro ⟨rfl, -⟩ hne
      exact hne rfl
    · by_cases hb : last = b
      · simp only [capture, if_neg ha, if_pos hb, Option.some.injEq, List.cons.injEq, and_true]
        constructor
        · rintro rfl
          exact ⟨⟨rfl, hb.symm⟩, ha⟩
        · exact fun h => h.1.1
      · simp only [capture, if_neg ha, if_neg hb, reduceCtorEq, List.cons.injEq, and_true, false_iff]
        exact fun h => hb h.1.2.symm
  · by_cases ha : a = "" <;> by_cases hb : last = b <;> simp [capture, ha, hb]

/-- The segments of the paths below that of all members. -/
def below (top : String) (segments : List Segment) : List Segment :=
  (top.splitOn "/").map Segment.word ++ .word "users" :: segments

theorem routesOf_put (top : String) :
    routesOf top "PUT" =
      [⟨"PUT", below top [.word "me", .word "name"], fun _ => .errand .setName⟩,
        ⟨"PUT", below top [.any, .word "avatar"], fun member => .errand (.setFor member)⟩] := rfl

theorem routesOf_post (top : String) :
    routesOf top "POST" =
      [⟨"POST", below top [.word "me", .word "avatar"], fun _ => .errand .uploadOwn⟩,
        ⟨"POST", below top [.word "me", .word "avatar", .word "generate"],
          fun _ => .errand .generateOwn⟩,
        ⟨"POST", below top [.any, .word "avatar"], fun member => .errand (.uploadFor member)⟩] := rfl

/-- A picture is put for a member at the path of the avatar. -/
theorem steps_of_setFor {top path member : String}
    (h : route top "PUT" path = .found (.errand (.setFor member))) :
    (withoutLineEnd path).splitOn "/" = top.splitOn "/" ++ ["users", member, "avatar"] ∧
      member ≠ "" := by
  rw [route_eq_found_iff, routesOf_put] at h
  simp only [List.findSome?_cons, List.findSome?_nil, Route.accept?] at h
  cases hname : capture "" (below top [.word "me", .word "name"])
      ((withoutLineEnd path).splitOn "/") with
  | some found => simp [hname] at h
  | none =>
    cases havatar : capture "" (below top [.any, .word "avatar"])
        ((withoutLineEnd path).splitOn "/") with
    | none => simp [hname, havatar] at h
    | some found =>
      obtain rfl : found = member := by simpa [hname, havatar] using h
      obtain ⟨rest, hsteps, hrest⟩ := capture_below.1 havatar
      obtain ⟨rfl, hne⟩ := capture_any.1 hrest
      exact ⟨hsteps, hne⟩

/-- **A picture can be put and posted at the same path**, for the same member, unless it is the path of
the caller. -/
theorem found_uploadFor {top path member : String}
    (h : route top "PUT" path = .found (.errand (.setFor member))) (hother : member ≠ "me") :
    route top "POST" path = .found (.errand (.uploadFor member)) := by
  obtain ⟨hsteps, hne⟩ := steps_of_setFor h
  have hbelow : ∀ segments, capture "" (below top segments) ((withoutLineEnd path).splitOn "/") =
      capture "" segments [member, "avatar"] := by
    intro segments
    apply Option.ext
    intro found
    rw [below, capture_below, hsteps]
    simp
  have hown : capture "" [.word "me", .word "avatar"] [member, "avatar"] = none := by
    rw [capture, if_neg (Ne.symm hother)]
  have hgenerate : capture "" [.word "me", .word "avatar", .word "generate"] [member, "avatar"] =
      none := by
    rw [capture, if_neg (Ne.symm hother)]
  have hany : capture "" [.any, .word "avatar"] [member, "avatar"] = some member :=
    capture_any.2 ⟨rfl, hne⟩
  rw [route_eq_found_iff, routesOf_post]
  simp only [List.findSome?_cons, Route.accept?, hbelow, hown, hgenerate, hany]
  rfl

end Portrait.Web
