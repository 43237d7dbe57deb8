import SchemaBindings.Endpoint.Parse
import SchemaBindings.Proofs.Twins

namespace SchemaBindings

-- Two addresses lead to the same place if the host is the same and so is the port, named or
-- implied.
def Endpoint.place (endpoint : Endpoint) : String × Option Nat :=
  (endpoint.host, endpoint.port.or (Endpoint.impliedPort? endpoint.scheme))

namespace Http.Request

def authorizations (request : Request) : List String :=
  request.headers.filterMap fun (name, value) => if name = "authorization" then some value else none

-- All but what the authorizations say.
def redacted (request : Request) : Request :=
  { request with
    headers := request.headers.map fun (name, value) =>
      (name, if name = "authorization" then "" else value) }

end Http.Request

-- The same, or the one token here and the other there.
def Hides (one other value like : String) : Prop :=
  value = like ∨ value = "bearer " ++ one ∧ like = "bearer " ++ other

-- One request, with the one token and with the other.
structure Masked (one other : String) (request like : Http.Request) : Prop where
  rest : request.redacted = like.redacted
  authorizations : List.Forall₂ (Hides one other) request.authorizations like.authorizations

-- One that follows redirects without a look at what the authorizations say, and takes them along to
-- the same place and to no other.
structure Http.Client.Careful (client : Http.Client) : Prop where
  blind : ∀ request other code location, request.redacted = other.redacted →
    Http.Onward.Related (fun next following => next.redacted = following.redacted)
      (client.follow request code location) (client.follow other code location)
  kept : ∀ request code location next, client.follow request code location = .next next →
    next.authorizations =
      if next.endpoint.place = request.endpoint.place then request.authorizations else []

-- Requests to one place with these authorizations. From the first one that goes elsewhere on, there
-- are none.
def Carried (place : String × Option Nat) (values : List String) (sent : List Http.Request) :
    Prop :=
  ∃ first kept left, sent = first :: kept ++ left ∧
    (∀ request ∈ first :: kept, request.endpoint.place = place ∧
      request.authorizations = values) ∧
    (∀ request ∈ left, request.authorizations = []) ∧
    ∀ next ∈ left.head?, next.endpoint.place ≠ place

section Following
variable {one other : String} {request like : Http.Request} {client : Http.Client}

theorem Masked.endpoint_eq (masked : Masked one other request like) :
    request.endpoint = like.endpoint :=
  congrArg (·.endpoint) masked.rest

theorem endpoint_of_redacted (same : request.redacted = like.redacted) :
    request.endpoint = like.endpoint :=
  congrArg (·.endpoint) same

theorem Masked.follow (masked : Masked one other request like) (careful : client.Careful)
    (code : Http.Redirect) (location : String) :
    Http.Onward.Related (Masked one other) (client.follow request code location)
      (client.follow like code location) := by
  have related := careful.blind request like code location masked.rest
  generalize led : client.follow request code location = first at related ⊢
  generalize followed : client.follow like code location = second at related ⊢
  cases related with
  | stay => exact .stay
  | stop => exact .stop
  | next same =>
    refine .next ⟨same, ?_⟩
    rw [careful.kept _ _ _ _ led, careful.kept _ _ _ _ followed, masked.endpoint_eq,
      endpoint_of_redacted same]
    split
    · exact masked.authorizations
    · exact .nil

variable {server : List Http.Request → Http.Request → Http.Reply} {earlier : List Http.Request}

-- What is not there is not taken along.
theorem bare_pursue (careful : client.Careful) (left : Nat) (bare : request.authorizations = []) :
    ∀ sent ∈ (client.pursue server left earlier request).requests, sent.authorizations = [] := by
  induction left using Nat.strongRecOn generalizing earlier request with
  | ind left ih =>
    rcases client.requests_pursue server left earlier request with
      none | one | ⟨code, location, next, fewer, rfl, led, split⟩
    · rw [none]
      exact nofun
    · rw [one]
      exact List.forall_mem_singleton.mpr bare
    · rw [split]
      refine List.forall_mem_cons.mpr ⟨bare, ih fewer fewer.lt_succ_self ?_⟩
      rw [careful.kept _ _ _ _ led, bare, ite_self]

theorem head?_pursue (client : Http.Client)
    (server : List Http.Request → Http.Request → Http.Reply) (left : Nat)
    (earlier : List Http.Request) (request : Http.Request) :
    ∀ first ∈ (client.pursue server left earlier request).requests.head?, first = request := by
  rcases client.requests_pursue server left earlier request with
    none | one | ⟨_, _, _, _, _, _, split⟩
  · rw [none]
    exact nofun
  · rw [one]
    exact fun _ here => (Option.some.inj here).symm
  · rw [split]
    exact fun _ here => (Option.some.inj here).symm

theorem carried_pursue (careful : client.Careful) (left : Nat)
    (there : request.endpoint.place = place) (borne : request.authorizations = values) :
    (client.pursue server left earlier request).requests = [] ∨
      Carried place values (client.pursue server left earlier request).requests := by
  have alone : Carried place values [request] :=
    ⟨request, [], [], rfl, List.forall_mem_singleton.mpr ⟨there, borne⟩, nofun, nofun⟩
  induction left using Nat.strongRecOn generalizing earlier request with
  | ind left ih =>
    rcases client.requests_pursue server left earlier request with
      none | one | ⟨code, location, next, fewer, rfl, led, split⟩
    · exact .inl none
    · rw [one]
      exact .inr alone
    · right
      rw [split]
      have kept := careful.kept _ _ _ _ led
      by_cases same : next.endpoint.place = place
      · rw [there, if_pos same, borne] at kept
        rcases ih fewer fewer.lt_succ_self same kept
          ⟨next, [], [], rfl, List.forall_mem_singleton.mpr ⟨same, kept⟩, nofun, nofun⟩ with
          none | ⟨first, more, left, rest, marked, bare, apart⟩
        · rw [none]
          exact alone
        · rw [rest]
          exact ⟨request, first :: more, left, rfl,
            List.forall_mem_cons.mpr ⟨⟨there, borne⟩, marked⟩, bare, apart⟩
      · rw [there, if_neg same] at kept
        refine ⟨request, [], _, rfl, List.forall_mem_singleton.mpr ⟨there, borne⟩,
          bare_pursue careful fewer kept, fun first here => ?_⟩
        rwa [head?_pursue client server fewer _ next first here]

end Following

namespace Http

-- Whether the same is asked for again at another place.
def Redirect.repeats : Redirect → Bool
  | .temporary => true
  | .permanent => true
  | _ => false

def takesAlong (code : Redirect) (samePlace : Bool) (name : String) : Bool :=
  (samePlace || name != "authorization") && (code.repeats || name != "content-type") &&
    name != "referer"

-- Where the request was sent from, unless it was safer there.
def referer (from_ next : Endpoint) : List (String × String) :=
  if from_.scheme == "https" && next.scheme == "http" then []
  else [("referer", { from_.withoutUserInfo with fragment := none }.text)]

def Request.movedTo (request : Request) (code : Redirect) (endpoint : Endpoint) : Request where
  method := if code.repeats then request.method else "GET"
  endpoint := endpoint
  headers := (request.headers.filter fun header =>
    takesAlong code (endpoint.place == request.endpoint.place) header.1) ++
      referer request.endpoint endpoint
  body := if code.repeats then request.body else ""

-- One that goes wherever it is sent on the web.
def wanderer : Client where
  follow request code location :=
    match Endpoint.plainReader location with
    | .ok (some endpoint) => if endpoint.isWeb then .next (request.movedTo code endpoint) else .stay
    | _ => .stay

theorem redacted_movedTo (request : Request) (code : Redirect) (endpoint : Endpoint) :
    (request.movedTo code endpoint).redacted = request.redacted.movedTo code endpoint := by
  have sent : (referer request.endpoint endpoint).map (fun (name, value) =>
      (name, if name = "authorization" then "" else value)) =
        referer request.endpoint endpoint := by
    rw [referer]
    split <;> rfl
  simp only [Request.movedTo, Request.redacted, List.map_append, sent, List.filter_map]
  rfl

theorem authorizations_movedTo (request : Request) (code : Redirect) (endpoint : Endpoint) :
    (request.movedTo code endpoint).authorizations =
      if endpoint.place = request.endpoint.place then request.authorizations else [] := by
  have sent : (referer request.endpoint endpoint).filterMap (fun (name, value) =>
      if name = "authorization" then some value else none) = [] := by
    rw [referer]
    split <;> rfl
  simp only [Request.movedTo, Request.authorizations, List.filterMap_append, sent,
    List.append_nil, List.filterMap_filter]
  by_cases same : endpoint.place = request.endpoint.place
  · rw [if_pos same]
    refine List.filterMap_congr fun (name, value) _ => ?_
    by_cases credential : name = "authorization"
    · simp [credential, same, takesAlong]
    · simp [credential]
  · rw [if_neg same]
    refine List.filterMap_eq_nil_iff.mpr fun (name, value) _ => ?_
    by_cases credential : name = "authorization"
    · simp [credential, same, takesAlong]
    · simp [credential]

theorem wanderer_careful : wanderer.Careful := by
  constructor
  case blind =>
    intro request other code location same
    simp only [wanderer]
    split
    · split
      · refine .next ?_
        rw [redacted_movedTo, redacted_movedTo, same]
      · exact .stay
    · exact .stay
  case kept =>
    intro request code location next led
    simp only [wanderer] at led
    split at led
    · split at led
      · cases led
        exact authorizations_movedTo request code _
      · cases led
    · cases led

end Http

end SchemaBindings
