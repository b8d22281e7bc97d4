import ConnectedHome.Http.Message
/-!
# A scripted network

The network the clients run against answers from an ordered list of routes.  A request takes
the first route that matches it (`Route.accepts`): the route's method, if it names one, is the
request's; its pattern is part of the request's address; and its count of uses, if it has one,
is not yet spent.  Taking a route spends one use.  A request no route accepts is refused with
`no route for METHOD address`.

The network keeps every request it was sent, answered or not, in the order they came
(`Network.sent`).
-/
namespace ConnectedHome.Http

/-- A route: which requests it accepts and what they get. -/
structure Route where
  method : Option String := none
  /-- A part of the address the route accepts. -/
  pattern : String := ""
  /-- Uses left, when the route is limited. -/
  uses : Option Int := none
  outcome : HttpOutcome
deriving Inhabited

/-- Whether `part` occurs in `cs`. -/
def hasPart (part : List Char) : List Char → Bool
  | [] => part.isEmpty
  | c :: cs => part.isPrefixOf (c :: cs) || hasPart part cs

/-- The empty part occurs everywhere, so a route with no pattern accepts every address. -/
@[simp] theorem hasPart_nil (cs : List Char) : hasPart [] cs = true := by
  cases cs <;> rfl

/-- Whether a route accepts a request with this method and address. -/
def Route.accepts (r : Route) (method url : String) : Bool :=
  r.method.all (· == method) && hasPart r.pattern.toList url.toList && r.uses.all (fun n => decide (0 < n))

/-- A route after one use. -/
def Route.spend (r : Route) : Route := { r with uses := r.uses.map (· - 1) }

/-- The outcome of the first route that accepts the request, and the routes after it was
used. -/
def takeRoute (method url : String) : List Route → Option HttpOutcome × List Route
  | [] => (none, [])
  | r :: rs =>
    if r.accepts method url then (some r.outcome, r.spend :: rs)
    else
      let (o, rs') := takeRoute method url rs
      (o, r :: rs')

/-- The network: its routes and the requests it was sent. -/
structure Network where
  routes : List Route
  sent : List HttpRequest := []
deriving Inhabited

/-- The answer to a request no route accepts. -/
def noRoute (req : HttpRequest) : HttpOutcome := .refused s!"no route for {req.method} {req.url}"

/-- Sends a request: what comes back, and the network that has seen it. -/
def Network.send (n : Network) (req : HttpRequest) : HttpOutcome × Network :=
  let (o, routes) := takeRoute req.method req.url n.routes
  (o.getD (noRoute req), { routes, sent := n.sent ++ [req] })

/-- The network with its record of sent requests cleared. -/
def Network.clearSent (n : Network) : Network := { n with sent := [] }

theorem takeRoute_length (method url : String) (rs : List Route) :
    (takeRoute method url rs).2.length = rs.length := by
  induction rs with
  | nil => rfl
  | cons r rs ih =>
    unfold takeRoute
    split
    · rfl
    · simp [ih]

theorem Network.send_sent (n : Network) (req : HttpRequest) :
    (n.send req).2.sent = n.sent ++ [req] := rfl

/-- A request goes to the first route that accepts it: the routes before it are passed by, and
that route is spent. -/
theorem takeRoute_first (method url : String) (skipped : List Route) (r : Route) (rs : List Route)
    (hskip : ∀ s ∈ skipped, s.accepts method url = false) (hr : r.accepts method url = true) :
    takeRoute method url (skipped ++ r :: rs) = (some r.outcome, skipped ++ r.spend :: rs) := by
  induction skipped with
  | nil => simp [takeRoute, hr]
  | cons s ss ih =>
    have hs := hskip s (by simp)
    simp [takeRoute, hs, ih (fun t ht => hskip t (by simp [ht]))]

theorem takeRoute_some (method url : String) :
    ∀ (rs : List Route) (o : HttpOutcome), (takeRoute method url rs).1 = some o →
      ∃ r ∈ rs, r.accepts method url = true ∧ r.outcome = o
  | [], _, h => by cases h
  | r :: rs, o, h => by
    unfold takeRoute at h
    split at h
    · rename_i hacc
      cases h
      exact ⟨r, by simp, hacc, rfl⟩
    · obtain ⟨r', hr', ho⟩ := takeRoute_some method url rs o h
      exact ⟨r', by simp [hr'], ho⟩

/-- A spent route accepts no request it did not accept before. -/
theorem Route.accepts_of_spend {r : Route} {method url : String} (h : r.spend.accepts method url = true) :
    r.accepts method url = true := by
  simp only [Route.accepts, Route.spend, Bool.and_eq_true] at h ⊢
  refine ⟨h.1, ?_⟩
  cases hu : r.uses with
  | none => rfl
  | some n =>
    have h2 := h.2
    rw [hu] at h2
    simp only [Option.map_some, Option.all_some, decide_eq_true_eq] at h2 ⊢
    omega

/-- Taking a route spends it: every route after answers as one before, and accepts no request that
one did not. -/
theorem takeRoute_outcomes (method url : String) :
    ∀ (rs : List Route), ∀ r' ∈ (takeRoute method url rs).2, ∃ r ∈ rs, r'.outcome = r.outcome ∧
      ∀ m u, r'.accepts m u = true → r.accepts m u = true
  | [], _, h => by cases h
  | r :: rs, r', h => by
    unfold takeRoute at h
    split at h
    · rcases List.mem_cons.1 h with rfl | h
      · exact ⟨r, by simp, rfl, fun _ _ => Route.accepts_of_spend⟩
      · exact ⟨r', by simp [h], rfl, fun _ _ h => h⟩
    · rcases List.mem_cons.1 h with rfl | h
      · exact ⟨r', by simp, rfl, fun _ _ h => h⟩
      · obtain ⟨r'', hr'', ho⟩ := takeRoute_outcomes method url rs r' h
        exact ⟨r'', by simp [hr''], ho⟩

/-- What a request gets is the answer of one of the network's routes that accepts it, or the
refusal of a request no route takes. -/
theorem Network.send_outcome (n : Network) (req : HttpRequest) :
    (n.send req).1 = noRoute req ∨
      ∃ r ∈ n.routes, r.accepts req.method req.url = true ∧ (n.send req).1 = r.outcome := by
  simp only [Network.send]
  cases ho : (takeRoute req.method req.url n.routes).1 with
  | none => exact .inl rfl
  | some o =>
    obtain ⟨r, hr, hacc, he⟩ := takeRoute_some req.method req.url n.routes o ho
    exact .inr ⟨r, hr, hacc, he.symm⟩

/-- An answer comes from a route that accepts the request: a request that no route takes is
refused. -/
theorem Network.send_answered {n : Network} {req : HttpRequest} {s : Int} {b reason : String}
    (h : (n.send req).1 = .answered s b reason) :
    ∃ r ∈ n.routes, r.accepts req.method req.url = true ∧ r.outcome = .answered s b reason := by
  rcases n.send_outcome req with hno | ⟨r, hr, hacc, he⟩
  · rw [hno] at h
    cases h
  · exact ⟨r, hr, hacc, he ▸ h⟩

end ConnectedHome.Http
