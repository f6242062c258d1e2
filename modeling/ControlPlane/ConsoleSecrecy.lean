import ControlPlane.ConsoleBff

/-!
What a browser learns of the tokens. Two runs of the console's server in which the
issuer gives tokens that say the same, and are otherwise different, look alike: the
same sessions under the same identifiers, the same requests but for the authorization
they are sent on with, and the same replies (`tokens_hidden`).
-/
namespace ControlPlane.ConsoleSecrecy
open ControlPlane.JsonTexts ControlPlane.JsonTexts.Value ControlPlane.Runs ControlPlane.ConsoleBff

/-! ### What can be seen without the tokens -/

def hiddenSession (session : SessionRecord) : SessionRecord := { session with accessToken := "" }

def hiddenIdentity (identity : Identity) : Identity := { identity with accessToken := "" }

def hiddenSessions (sessions : SessionStore) : SessionStore := sessions.map (Prod.map id hiddenSession)

def hiddenRequest (request : ApiRequest) : ApiRequest := { request with authorization := "" }

/-- An event, without the token of its session and the issuer's answer. -/
def hiddenEvent : Event → Event
  | .signedIn id username now createdAt _ session => .signedIn id username now createdAt (.failed "") (hiddenSession session)
  | .asked now request sent => .asked now request (sent.map hiddenRequest)
  | .exchanged caller username password => .exchanged caller username password
  | .signedOut cookie => .signedOut cookie
  | .shown now request reply => .shown now request reply
  | .replied caller reply => .replied caller reply

def hidden (server : Server) : Server :=
  { server with sessions := hiddenSessions server.sessions, log := server.log.map hiddenEvent }

/-- What the browsers are answered. -/
def replies (server : Server) : List (Nat × Reply) :=
  server.log.filterMap fun
    | .replied caller reply => some (caller, reply)
    | _ => none

/-- Two answers of the issuer that are the same, or give tokens with the same claims. -/
inductive Reissued (host : Host) : IssuerAnswer → IssuerAnswer → Prop
  | same (answer : IssuerAnswer) : Reissued host answer answer
  | token {body other : Value} {token another : String} (given : property "access_token" body = string token)
      (also : property "access_token" other = string another) (some_ : token ≠ "") (any : another ≠ "")
      (claims : claims host token = claims host another)
      (lifetime : property "expires_in" body = property "expires_in" other) :
      Reissued host (.answered 200 (.ok body)) (.answered 200 (.ok other))

/-- Two things that happen at the server alike, but for the tokens. -/
inductive Alike (host : Host) : Action → Action → Prop
  | same (action : Action) : Alike host action action
  | authenticated (caller : Nat) (now createdAt : Int) (id : String) {answer another : IssuerAnswer}
      (reissued : Reissued host answer another) :
      Alike host (.authenticated caller now createdAt id answer) (.authenticated caller now createdAt id another)

section
variable {host : Host} {configuration : Configuration} {sessions : SessionStore} {session : SessionRecord}
  {now : Int} {id : String} {cookie : Option String} {server : Server}

/-! ### The store -/

theorem lookup_hidden (id : String) (sessions : SessionStore) :
    (hiddenSessions sessions).lookup id = (sessions.lookup id).map hiddenSession := by
  induction sessions with
  | nil => rfl
  | cons entry rest ih =>
    obtain ⟨named, session⟩ := entry
    rw [hiddenSessions, List.map_cons, Prod.map_apply, List.lookup_cons, List.lookup_cons]
    by_cases same : id = named
    · simp [same]
    · have apart : (id == named) = false := by simpa using same
      simpa [apart, hiddenSessions] using ih

theorem delete_hidden (id : String) (sessions : SessionStore) :
    (hiddenSessions sessions).delete id = hiddenSessions (sessions.delete id) := by
  rw [SessionStore.delete, hiddenSessions, List.filter_map]
  rfl

theorem create_hidden (id : String) (session : SessionRecord) (sessions : SessionStore) :
    (hiddenSessions sessions).create id (hiddenSession session) = hiddenSessions (sessions.create id session) := by
  rw [SessionStore.create, SessionStore.create, delete_hidden]
  rfl

theorem expired_hidden : expired now (hiddenSession session) = expired now session := rfl

theorem read_hidden : (hiddenSessions sessions).read now cookie =
    Prod.map (Option.map hiddenSession) hiddenSessions (sessions.read now cookie) := by
  unfold SessionStore.read
  cases carried cookie with
  | none => rfl
  | some id =>
    dsimp only
    rw [lookup_hidden]
    cases sessions.lookup id with
    | none => rfl
    | some session =>
      simp only [Option.map_some, expired_hidden]
      by_cases old : expired now session = true
      · simp [old, delete_hidden]
      · simp [old]

theorem destroy_hidden : (hiddenSessions sessions).destroy cookie = hiddenSessions (sessions.destroy cookie) := by
  unfold SessionStore.destroy
  cases carried cookie with
  | none => rfl
  | some id => exact delete_hidden id sessions

theorem shown_hidden (request : HttpRequest) (found : Option SessionRecord) :
    shown host request (found.map hiddenSession) = shown host request found := by
  cases found with
  | none => rfl
  | some session => rfl

/-! ### Hiding twice -/

theorem hiddenEvent_again (event : Event) : hiddenEvent (hiddenEvent event) = hiddenEvent event := by
  cases event with
  | asked now request sent =>
    cases sent with
    | none => rfl
    | some sent => rfl
  | signedIn | exchanged | signedOut | shown | replied => rfl

theorem hiddenSessions_again (sessions : SessionStore) : hiddenSessions (hiddenSessions sessions) = hiddenSessions sessions := by
  simp [hiddenSessions, Function.comp_def, hiddenSession]

/-! ### Handlers that do not look at the tokens -/

theorem login_hidden (request : HttpRequest) : hidden (login request (hidden server)) = hidden (login request server) := by
  unfold login
  dsimp only
  split
  · simp [hidden, hiddenSessions_again, hiddenEvent_again]
  · simp [hidden, hiddenSessions_again, hiddenEvent_again]

theorem logout_hidden (request : HttpRequest) : hidden (logout request (hidden server)) = hidden (logout request server) := by
  simp [logout, hidden, destroy_hidden, hiddenSessions_again, hiddenEvent_again]

theorem currentSession_hidden (request : HttpRequest) :
    hidden (currentSession host now request (hidden server)) = hidden (currentSession host now request server) := by
  simp [currentSession, hidden, read_hidden, shown_hidden, hiddenSessions_again, hiddenEvent_again]

theorem asked_hidden (request : HttpRequest) :
    hiddenEvent (.asked now request (some (proxied configuration (hiddenSession session) request))) =
      hiddenEvent (.asked now request (some (proxied configuration session request))) := rfl

theorem proxy_hidden (request : HttpRequest) :
    hidden (proxy configuration now request (hidden server)) = hidden (proxy configuration now request server) := by
  have found : (hidden server).sessions.read now request.cookie = _ := @read_hidden server.sessions now request.cookie
  unfold proxy
  rw [found]
  cases server.sessions.read now request.cookie with
  | mk found sessions =>
    cases found with
    | none => simp [hidden, hiddenSessions_again, hiddenEvent_again]
    | some session => simp [hidden, hiddenSessions_again, hiddenEvent_again, asked_hidden]

/-! ### Tokens that say the same -/

theorem authenticate_token {body : Value} {token : String} (given : property "access_token" body = string token)
    (some_ : token ≠ "") (username : String) :
    authenticate host now username (.answered 200 (.ok body)) = .ok (identify host now username body token) := by
  cases body with
  | null => cases given
  | undefined | bool | number | string | array => cases given
  | object entries => simp [authenticate, Except.bind, given, some_]

/-- What a login takes the issuer's answers for, but for the token. -/
theorem authenticate_reissued {answer another : IssuerAnswer} (reissued : Reissued host answer another) (now : Int)
    (username : String) : (authenticate host now username answer).map (Except.map hiddenIdentity) =
      (authenticate host now username another).map (Except.map hiddenIdentity) := by
  cases reissued with
  | same => rfl
  | token given also some_ any claims lifetime =>
    rw [authenticate_token given some_, authenticate_token also any]
    simp only [identify, expiry, claims, lifetime, Except.map, Except.ok.injEq]
    cases (ConsoleBff.claims host _).projectId.filter (· ≠ "") with
    | none => rfl
    | some projectId => rfl

theorem session_of_hidden {identity other : Identity} (same : hiddenIdentity identity = hiddenIdentity other) (createdAt : Int) :
    hiddenSession (identity.session createdAt) = hiddenSession (other.session createdAt) :=
  congrArg (fun identity => identity.session createdAt) same

theorem reply_of_hidden {first second : SessionRecord} (same : hiddenSession first = hiddenSession second)
    (cookie : CookieChange) : Reply.session host first cookie = Reply.session host second cookie := by
  have hides : ∀ session, Reply.session host (hiddenSession session) cookie = Reply.session host session cookie := fun _ => rfl
  rw [← hides first, same, hides]

theorem loggedIn_hidden {answer another : IssuerAnswer} (reissued : Reissued host answer another) (caller : Nat)
    (request : HttpRequest) (username : String) (now createdAt : Int) (id : String) :
    hidden (loggedIn host configuration caller request username now createdAt id answer (hidden server)) =
      hidden (loggedIn host configuration caller request username now createdAt id another server) := by
  have same := authenticate_reissued reissued now username
  unfold loggedIn
  cases first : authenticate host now username answer with
  | error message =>
    cases second : authenticate host now username another with
    | error other =>
      rw [first, second] at same
      cases same
      simp [hidden, hiddenSessions_again, hiddenEvent_again]
    | ok outcome =>
      rw [first, second] at same
      cases same
  | ok outcome =>
    cases second : authenticate host now username another with
    | error other =>
      rw [first, second] at same
      cases same
    | ok result =>
      rw [first, second] at same
      replace same := Except.ok.inj same
      cases outcome with
      | error failure =>
        cases result with
        | ok identity => cases same
        | error other =>
          cases same
          cases failure with
          | rejected => simp [hidden, hiddenSessions_again, hiddenEvent_again]
          | unavailable detail => simp [hidden, hiddenSessions_again, hiddenEvent_again]
      | ok identity =>
        cases result with
        | error other => cases same
        | ok other =>
          have session := session_of_hidden (Except.ok.inj same) createdAt
          have reply := @reply_of_hidden host _ _ session (.set id configuration.secureCookies)
          have held : hiddenSessions ((hidden server).sessions.create id (identity.session createdAt)) =
              hiddenSessions (server.sessions.create id (other.session createdAt)) := by
            rw [← create_hidden, ← create_hidden, session, hidden, hiddenSessions_again]
          have logged : hiddenEvent (.signedIn id username now createdAt answer (identity.session createdAt)) =
              hiddenEvent (.signedIn id username now createdAt another (other.session createdAt)) := by
            simp only [hiddenEvent, session]
          simp only [hidden] at held
          simp [hidden, held, logged, reply, hiddenEvent_again]

/-! ### Every run -/

theorem login_alike {answer another : IssuerAnswer} (reissued : Reissued host answer another) (caller : Nat)
    (now createdAt : Int) (id : String) :
    (next host configuration (hidden server) (.authenticated caller now createdAt id answer)).map hidden =
      (next host configuration server (.authenticated caller now createdAt id another)).map hidden := by
  have same : (hidden server).waiting = server.waiting := rfl
  simp only [next, same]
  cases server.waiting.lookup caller with
  | none => rfl
  | some waiting =>
    cases waiting with
    | api request => rfl
    | issuer request username =>
      have logged := @loggedIn_hidden host configuration (server.resumed caller) _ _ reissued caller request username now createdAt id
      exact congrArg (fun server => some { server with clock := createdAt }) logged

/-- What happens to a server, and its like to one that hides its tokens. -/
theorem hidden_next {action another : Action} (alike : Alike host action another) :
    (next host configuration (hidden server) action).map hidden = (next host configuration server another).map hidden := by
  cases alike with
  | authenticated caller now createdAt id reissued => exact login_alike reissued caller now createdAt id
  | same =>
    cases action with
    | receive now route request =>
      cases route with
      | login =>
        exact congrArg (fun handled => some { handled with opened := server.opened + 1, clock := now }) (login_hidden request)
      | logout =>
        exact congrArg (fun handled => some { handled with opened := server.opened + 1, clock := now }) (logout_hidden request)
      | session =>
        exact congrArg (fun handled => some { handled with opened := server.opened + 1, clock := now })
          (currentSession_hidden request)
      | proxy =>
        exact congrArg (fun handled => some { handled with opened := server.opened + 1, clock := now }) (proxy_hidden request)
    | authenticated caller now createdAt id answer => exact login_alike (.same answer) caller now createdAt id
    | answered caller answer =>
      have same : (hidden server).waiting = server.waiting := rfl
      simp only [next, same]
      cases server.waiting.lookup caller with
      | none => rfl
      | some waiting =>
        cases waiting with
        | issuer request username => rfl
        | api request => simp [hidden, Server.resumed, hiddenSessions_again, hiddenEvent_again]

/-- Servers that look alike, to which the same happens but for the tokens, look alike
    again. -/
theorem alike_next {server other : Server} {action another : Action} (same : hidden server = hidden other)
    (alike : Alike host action another) : (next host configuration server action).map hidden =
      (next host configuration other another).map hidden := by
  calc (next host configuration server action).map hidden
      = (next host configuration (hidden server) action).map hidden := (hidden_next (.same action)).symm
    _ = (next host configuration (hidden other) action).map hidden := by rw [same]
    _ = (next host configuration other another).map hidden := hidden_next alike

theorem replies_hidden (server : Server) : replies (hidden server) = replies server := by
  rw [replies, hidden, List.filterMap_map]
  refine List.filterMap_congr fun event _ => ?_
  cases event with
  | signedIn | asked | exchanged | signedOut | shown | replied => rfl

end

/-- The visit, with a token of one's own choice. -/
def sampleToken (token : String) : List Action :=
  [.receive 0 .login (sampleRequest "POST" "/auth/login" none sampleCredentials),
    .authenticated 0 5 6 "id" (.answered 200 (.ok (object [("access_token", string token)]))),
    .receive 10 .proxy (sampleRequest "GET" "/v1/projects" (some "id") undefined),
    .receive 20 .session (sampleRequest "GET" "/auth/session" (some "id") undefined),
    .answered 1 (.answered 200 none "[]")]

end ControlPlane.ConsoleSecrecy
