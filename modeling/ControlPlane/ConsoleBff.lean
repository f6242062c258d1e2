import ControlPlane.JsonTexts
import ControlPlane.Runs
import ControlPlane.Texts
import ControlPlane.WireMessages

/-!
The server of the console. It exchanges the credentials of a user for a token at the
issuer, keeps the token, and hands the browser an identifier. What the browser then
asks of the API is sent on with the token. A handler that waits, for the issuer or
for the API, lets the others run, and a session is dropped only when it is read after
it has expired. Still every request is sent on, or refused, as the sign-ins and
sign-outs so far say (`requests_justified`).
-/
namespace ControlPlane.ConsoleBff
open ControlPlane.Texts ControlPlane.JsonTexts ControlPlane.JsonTexts.Value ControlPlane.Runs
open ControlPlane.WireMessages (numeral)

/-- What the runtime gives. -/
structure Host where
  /-- `JSON.parse(Buffer.from(payload, 'base64url').toString('utf8'))`, unless it throws. -/
  decoded : String → Option Value
  /-- `value * 1000`, unless that is no number of milliseconds. -/
  milliseconds : Value → Option Int
  /-- `new Date(time).toISOString()`, unless it throws. -/
  isoTime : Int → Option String

structure Configuration where
  apiBase : String
  secureCookies : Bool

/-! ### Sessions -/

/-- Twelve hours. -/
def maximumSessionMs : Int := 12 * 60 * 60 * 1000

/-- A session without a time of expiry never compares as expired. -/
structure SessionRecord where
  subject : String
  displayName : String
  projectId : String
  accessToken : String
  expiresAt : Option Int
  createdAt : Int

/-- The sessions under their identifiers. -/
abbrev SessionStore := List (String × SessionRecord)

namespace SessionStore

def delete (id : String) (sessions : SessionStore) : SessionStore := sessions.filter fun entry => entry.1 ≠ id

/-- `sessions.set(id, record)`. -/
def create (id : String) (record : SessionRecord) (sessions : SessionStore) : SessionStore :=
  (id, record) :: sessions.delete id

end SessionStore

/-- Whether a session is too old to be read. -/
def expired (now : Int) (session : SessionRecord) : Bool :=
  (session.expiresAt.any fun expiresAt => expiresAt ≤ now) || decide (maximumSessionMs ≤ now - session.createdAt)

/-- The identifier that a cookie carries. -/
def carried (cookie : Option String) : Option String := cookie.filter (· ≠ "")

/-- A session, and the sessions that are left. One that has expired is dropped. -/
def SessionStore.read (now : Int) (cookie : Option String) (sessions : SessionStore) : Option SessionRecord × SessionStore :=
  match carried cookie with
  | none => (none, sessions)
  | some id =>
    match sessions.lookup id with
    | none => (none, sessions)
    | some session => if expired now session then (none, sessions.delete id) else (some session, sessions)

def SessionStore.destroy (cookie : Option String) (sessions : SessionStore) : SessionStore :=
  match carried cookie with
  | none => sessions
  | some id => sessions.delete id

/-- What the browser may see of a session. -/
def publicView (host : Host) (session : SessionRecord) : Option Value := do
  let expiresAt ← session.expiresAt.bind host.isoTime
  return object [("subject", string session.subject), ("displayName", string session.displayName),
    ("projectId", string session.projectId), ("expiresAt", string expiresAt)]

/-! ### Identities -/

/-- Whether a condition takes the value for true. -/
def truthy : Value → Bool
  | undefined | null => false
  | .bool value => value
  | number value => value.printed ≠ ['0']
  | string value => value ≠ ""
  | array _ | object _ => true

/-- `value ?? fallback`. -/
def orElse (fallback : Value) : Value → Value
  | undefined | null => fallback
  | value => value

structure Claims where
  subject : Option String
  projectId : Option String

/-- What a token says of its subject and of its first project. Its signature is the
    API's to verify. -/
def claims (host : Host) (token : String) : Claims :=
  match ((split '.' token)[1]?.filter (· ≠ "")).bind host.decoded with
  | none => ⟨none, none⟩
  | some decoded =>
    ⟨text (property "sub" decoded), ((items (property "projects" decoded)).getD []).findSome? text⟩

structure Identity where
  accessToken : String
  subject : String
  displayName : String
  projectId : String
  expiresAt : Option Int

inductive IdentityFailure
  | rejected
  | unavailable (detail : String)

/-- What the issuer gives: no answer in time, or a status and a body, unless that is
    no JSON. -/
inductive IssuerAnswer
  | failed (message : String)
  | answered (status : Nat) (body : Except String Value)

/-- The time at which a token expires that is issued with this body. -/
def expiry (host : Host) (now : Int) (body : Value) : Option Int :=
  (host.milliseconds (orElse (number (numeral 900)) (property "expires_in" body))).map (now + ·)

/-- What becomes of a token. -/
def identify (host : Host) (now : Int) (username : String) (body : Value) (token : String) : Except IdentityFailure Identity :=
  let said := claims host token
  match said.projectId.filter (· ≠ "") with
  | none => .error .rejected
  | some projectId =>
    .ok { accessToken := token, subject := said.subject.getD username, displayName := username, projectId,
          expiresAt := expiry host now body }

/-- `authenticate`, after the issuer has answered. What throws is the message of an
    exception that nobody expects. -/
def authenticate (host : Host) (now : Int) (username : String) :
    IssuerAnswer → Except String (Except IdentityFailure Identity)
  | .failed message => .ok (.error (.unavailable message))
  | .answered status body =>
    if status = 401 || status = 400 then .ok (.error .rejected)
    else if status ≠ 200 then .ok (.error (.unavailable s!"The identity provider answered {status}."))
    else body.bind fun body =>
      match body with
      | null => .error "Cannot read properties of null (reading 'access_token')"
      | _ =>
        match property "access_token" body with
        | string token =>
          .ok (if token = "" then .error (.unavailable "The identity provider returned no token.")
            else identify host now username body token)
        | other =>
          if truthy other then .error "token.split is not a function"
          else .ok (.error (.unavailable "The identity provider returned no token."))

def Identity.session (identity : Identity) (createdAt : Int) : SessionRecord :=
  { subject := identity.subject, displayName := identity.displayName, projectId := identity.projectId,
    accessToken := identity.accessToken, expiresAt := identity.expiresAt, createdAt }

/-! ### Requests and replies -/

/-- The values that a header was sent with. -/
inductive Header
  | one (value : String)
  | many (values : List String)

structure HttpRequest where
  method : String
  url : String
  headers : List (String × Header)
  /-- The value of the cookie `console_session`. -/
  cookie : Option String
  body : Value

def HttpRequest.header (request : HttpRequest) (name : String) : Option String :=
  match request.headers.lookup name with
  | some (.one value) => some value
  | _ => none

def isLowerHex (width : Nat) (text : String) : Bool :=
  text.length = width && text.toList.all fun c => isDigit c || ('a' ≤ c && c ≤ 'f')

/-- The trace that a request belongs to. -/
def traceReference (traceparent : Option String) : Option String :=
  match split '-' (traceparent.getD "") with
  | [version, trace, span, flags] =>
    if version = "00" && isLowerHex 32 trace && isLowerHex 16 span && isLowerHex 2 flags then some trace else none
  | _ => none

inductive BffProblemCode
  | authenticationRequired
  | validationFailed
  | dependencyUnavailable

def BffProblemCode.text : BffProblemCode → String
  | .authenticationRequired => "AUTHENTICATION_REQUIRED"
  | .validationFailed => "VALIDATION_FAILED"
  | .dependencyUnavailable => "DEPENDENCY_UNAVAILABLE"

/-- A problem, and the address and the trace of the request that has it. -/
def problem (status : Nat) (title : String) (code : BffProblemCode) (detail : String) (address : Option String)
    (traceId : Option String) : Value :=
  object ([("type", string ("https://private-cloud.invalid/problems/" ++ code.text.toLower)), ("title", string title),
      ("status", number (numeral status)), ("code", string code.text), ("detail", string detail)] ++
    ((address.filter (· ≠ "")).map fun url => ("instance", string url)).toList ++
    [("traceId", string (traceId.getD "00000000000000000000000000000000"))])

/-- What becomes of the browser's cookie. -/
inductive CookieChange
  | keep
  | set (id : String) (secure : Bool)
  | clear

inductive Payload
  | none
  | json (value : Value)
  | text (value : String)

structure Reply where
  status : Nat
  contentType : String
  cookie : CookieChange := .keep
  payload : Payload

def Reply.problem (request : HttpRequest) (status : Nat) (title : String) (code : BffProblemCode) (detail : String)
    (address : Option String) : Reply where
  status := status
  contentType := "application/problem+json"
  payload := .json (ConsoleBff.problem status title code detail address (traceReference (request.header "traceparent")))

/-- What the framework answers when a handler throws. -/
def Reply.internal (message : String) (cookie : CookieChange) : Reply where
  status := 500
  contentType := "application/json; charset=utf-8"
  cookie := cookie
  payload := .json (object [("statusCode", number (numeral 500)), ("error", string "Internal Server Error"),
    ("message", string message)])

/-- A session, as the browser is told of it. -/
def Reply.session (host : Host) (session : SessionRecord) (cookie : CookieChange) : Reply :=
  match publicView host session with
  | none => .internal "Invalid time value" cookie
  | some view => { status := 200, contentType := "application/json; charset=utf-8", cookie, payload := .json view }

/-! ### Sending on -/

def forwardedRequestHeaders : List String :=
  ["accept", "content-type", "idempotency-key", "x-correlation-id", "traceparent", "tracestate"]

/-- A request to the API. -/
structure ApiRequest where
  url : String
  method : String
  authorization : String
  headers : List (String × String)
  body : Option (List Char)

def forwarded (request : HttpRequest) : List (String × String) :=
  forwardedRequestHeaders.filterMap fun name => (request.header name).map (name, ·)

/-- A request of the browser, as it is sent on. -/
def proxied (configuration : Configuration) (session : SessionRecord) (request : HttpRequest) : ApiRequest where
  url := configuration.apiBase ++ request.url
  method := request.method
  authorization := "Bearer " ++ session.accessToken
  headers := forwarded request
  body := if request.method = "GET" || request.method = "HEAD" then none else some (orElse (object []) request.body).serialize

/-- What the API gives: no answer that can be read, or one. -/
inductive ApiAnswer
  | failed (message : String)
  | answered (status : Nat) (contentType : Option String) (body : String)

def relayed (request : HttpRequest) : ApiAnswer → Reply
  | .failed message =>
    .problem request 502 "The control plane could not be reached" .dependencyUnavailable message (some request.url)
  | .answered status contentType body =>
    { status, contentType := contentType.getD "application/json", payload := .text body }

/-! ### Handlers -/

/-- The routes of the server that have to do with sessions. -/
inductive Route
  | login
  | logout
  | session
  | proxy

/-- A handler that waits. -/
inductive Waiting
  | issuer (request : HttpRequest) (username : String)
  | api (request : HttpRequest)

/-- What happens at the server. -/
inductive Event
  | exchanged (caller : Nat) (username password : String)
  | signedIn (id username : String) (now createdAt : Int) (answer : IssuerAnswer) (session : SessionRecord)
  | signedOut (cookie : Option String)
  | asked (now : Int) (request : HttpRequest) (sent : Option ApiRequest)
  | shown (now : Int) (request : HttpRequest) (reply : Reply)
  | replied (caller : Nat) (reply : Reply)

/-- The server: its sessions, the handlers that wait, how many requests have come, the
    time, and what has happened, the latest first. -/
structure Server where
  sessions : SessionStore := []
  waiting : List (Nat × Waiting) := []
  opened : Nat := 0
  clock : Int := 0
  log : List Event := []

inductive Action
  | receive (now : Int) (route : Route) (request : HttpRequest)
  | authenticated (caller : Nat) (now createdAt : Int) (id : String) (answer : IssuerAnswer)
  | answered (caller : Nat) (answer : ApiAnswer)

/-- The credentials of a request, as they are sent to the issuer. -/
def credentials (request : HttpRequest) : String × String :=
  (((text (property "username" request.body)).map trim).getD "", (text (property "password" request.body)).getD "")

def login (request : HttpRequest) (server : Server) : Server :=
  let (username, password) := credentials request
  if username = "" || password = "" then
    { server with
      log := .replied server.opened (.problem request 422 "Sign-in details are incomplete" .validationFailed
        "Enter both a username and a password." none) :: server.log }
  else
    { server with
      waiting := (server.opened, .issuer request username) :: server.waiting
      log := .exchanged server.opened username password :: server.log }

def logout (request : HttpRequest) (server : Server) : Server :=
  { server with
    sessions := server.sessions.destroy request.cookie
    log := .replied server.opened { status := 204, contentType := "", cookie := .clear, payload := .none } ::
      .signedOut request.cookie :: server.log }

/-- What a browser is told of the session that was found for it. -/
def shown (host : Host) (request : HttpRequest) : Option SessionRecord → Reply
  | none => .problem request 401 "Not signed in" .authenticationRequired "There is no active session." none
  | some session => .session host session .keep

def currentSession (host : Host) (now : Int) (request : HttpRequest) (server : Server) : Server :=
  let (found, sessions) := server.sessions.read now request.cookie
  let reply := shown host request found
  { server with sessions, log := .replied server.opened reply :: .shown now request reply :: server.log }

def proxy (configuration : Configuration) (now : Int) (request : HttpRequest) (server : Server) : Server :=
  match server.sessions.read now request.cookie with
  | (none, sessions) =>
    let reply := .problem request 401 "Not signed in" .authenticationRequired "Sign in again to continue." (some request.url)
    { server with sessions, log := .replied server.opened reply :: .asked now request none :: server.log }
  | (some session, sessions) =>
    { server with
      sessions
      waiting := (server.opened, .api request) :: server.waiting
      log := .asked now request (some (proxied configuration session request)) :: server.log }

/-- What a login answers, once the issuer has answered. -/
def loggedIn (host : Host) (configuration : Configuration) (caller : Nat) (request : HttpRequest) (username : String)
    (now createdAt : Int) (id : String) (answer : IssuerAnswer) (server : Server) : Server :=
  match authenticate host now username answer with
  | .error message => { server with log := .replied caller (.internal message .keep) :: server.log }
  | .ok (.error .rejected) =>
    { server with
      log := .replied caller (.problem request 401 "Sign-in failed" .authenticationRequired
        "That username and password combination was not accepted." none) :: server.log }
  | .ok (.error (.unavailable detail)) =>
    { server with
      log := .replied caller (.problem request 503 "Sign-in is unavailable" .dependencyUnavailable detail none) :: server.log }
  | .ok (.ok identity) =>
    let session := identity.session createdAt
    { server with
      sessions := server.sessions.create id session
      log := .replied caller (.session host session (.set id configuration.secureCookies)) ::
        .signedIn id username now createdAt answer session :: server.log }

/-- A handler that waited goes on. -/
def Server.resumed (server : Server) (caller : Nat) : Server :=
  { server with waiting := server.waiting.filter fun handler => handler.1 ≠ caller }

def next (host : Host) (configuration : Configuration) (server : Server) : Action → Option Server
  | .receive now route request =>
    let received := match route with
      | .login => login request server
      | .logout => logout request server
      | .session => currentSession host now request server
      | .proxy => proxy configuration now request server
    some { received with opened := server.opened + 1, clock := now }
  | .authenticated caller now createdAt id answer =>
    match server.waiting.lookup caller with
    | some (.issuer request username) =>
      some { loggedIn host configuration caller request username now createdAt id answer (server.resumed caller) with
        clock := createdAt }
    | _ => none
  | .answered caller answer =>
    match server.waiting.lookup caller with
    | some (.api request) =>
      some { server.resumed caller with log := .replied caller (relayed request answer) :: server.log }
    | _ => none

/-! ### What the sign-ins and sign-outs say -/

/-- The session that an identifier was last given, unless it was signed out since. -/
def holder (id : String) : List Event → Option SessionRecord
  | [] => none
  | .signedIn given _ _ _ _ session :: earlier => if given = id then some session else holder id earlier
  | .signedOut cookie :: earlier => if carried cookie = some id then none else holder id earlier
  | .exchanged _ _ _ :: earlier | .asked _ _ _ :: earlier | .shown _ _ _ :: earlier | .replied _ _ :: earlier => holder id earlier

/-- The session that a cookie stands for at some time. -/
def current (now : Int) (cookie : Option String) (earlier : List Event) : Option SessionRecord :=
  ((carried cookie).bind fun id => holder id earlier).filter fun session => !expired now session

/-- Why an event happens, by what has happened before: a session comes from credentials
    that the issuer took for a token, and a request is sent on with the token of the
    session that its cookie stands for, or not at all. -/
def Justified (host : Host) (configuration : Configuration) (earlier : List Event) : Event → Prop
  | .signedIn _ username now createdAt answer session =>
    (∃ caller password, .exchanged caller username password ∈ earlier) ∧
      ∃ identity, authenticate host now username answer = .ok (.ok identity) ∧ session = identity.session createdAt
  | .asked now request sent =>
    sent = (current now request.cookie earlier).map fun session => proxied configuration session request
  | .shown now request reply => reply = ConsoleBff.shown host request (current now request.cookie earlier)
  | .exchanged _ _ _ | .signedOut _ | .replied _ _ => True

/-- Every event of a log is justified. -/
def AllJustified (host : Host) (configuration : Configuration) : List Event → Prop
  | [] => True
  | event :: earlier => Justified host configuration earlier event ∧ AllJustified host configuration earlier

/-- The clock is never set back. -/
def Timely (server : Server) : Action → Prop
  | .receive now _ _ => server.clock ≤ now
  | .authenticated _ now createdAt _ _ => server.clock ≤ now ∧ now ≤ createdAt
  | .answered _ _ => True

section
variable {host : Host} {configuration : Configuration} {sessions : SessionStore} {session : SessionRecord}
  {log : List Event} {clock now : Int} {cookie : Option String} {id : String}

/-! ### The store -/

theorem lookup_delete (id other : String) (sessions : SessionStore) :
    (sessions.delete id).lookup other = if other = id then none else sessions.lookup other := by
  induction sessions with
  | nil => simp [SessionStore.delete]
  | cons entry rest ih =>
    obtain ⟨named, session⟩ := entry
    rw [SessionStore.delete] at ih
    by_cases dropped : named = id
    · by_cases same : other = id
      · simpa [SessionStore.delete, dropped, same] using ih
      · have apart : (other == id) = false := by simpa using same
        simpa [SessionStore.delete, List.lookup_cons, apart, dropped, same] using ih
    · by_cases same : other = named
      · simp [SessionStore.delete, same, dropped]
      · have apart : (other == named) = false := by simpa using same
        simpa [SessionStore.delete, List.lookup_cons, apart, dropped] using ih

theorem lookup_create (id other : String) (session : SessionRecord) (sessions : SessionStore) :
    (sessions.create id session).lookup other = if other = id then some session else sessions.lookup other := by
  by_cases same : other = id
  · simp [SessionStore.create, same]
  · have apart : (other == id) = false := by simpa using same
    simp [SessionStore.create, List.lookup_cons, apart, same, lookup_delete]

/-- What has expired stays so. -/
theorem expired_later (old : expired clock session = true) (later : clock ≤ now) : expired now session = true := by
  simp only [expired, Bool.or_eq_true, decide_eq_true_eq, Option.any_eq_true] at old ⊢
  rcases old with ⟨expiresAt, known, past⟩ | past
  · exact .inl ⟨expiresAt, known, by omega⟩
  · exact .inr (by omega)

/-- The store has what the log says, but for sessions that have expired. -/
def Stored (clock : Int) (log : List Event) (sessions : SessionStore) : Prop :=
  ∀ id, sessions.lookup id = holder id log ∨
    sessions.lookup id = none ∧ ∃ session, holder id log = some session ∧ expired clock session = true

theorem stored_later (stored : Stored clock log sessions) (later : clock ≤ now) : Stored now log sessions := by
  intro id
  rcases stored id with same | ⟨dropped, session, held, old⟩
  · exact .inl same
  · exact .inr ⟨dropped, session, held, expired_later old later⟩

theorem stored_delete (stored : Stored clock log sessions) (old : ∀ session, holder id log = some session → expired clock session = true) :
    Stored clock log (sessions.delete id) := by
  intro other
  rw [lookup_delete]
  by_cases same : other = id
  · subst same
    cases held : holder other log with
    | none => simp
    | some session => exact .inr ⟨by simp, session, rfl, old session held⟩
  · simpa [same] using stored other

theorem read_stored (stored : Stored clock log sessions) : (sessions.read clock cookie).1 = current clock cookie log ∧
    Stored clock log (sessions.read clock cookie).2 := by
  unfold SessionStore.read current
  cases carried cookie with
  | none => exact ⟨rfl, stored⟩
  | some id =>
    rcases stored id with same | ⟨dropped, session, held, old⟩
    · cases held : holder id log with
      | none => simp [same, held, stored]
      | some session =>
        rw [held] at same
        by_cases old : expired clock session = true
        · refine ⟨by simp [same, held, old, Option.filter_some], ?_⟩
          simp only [same, old, if_true]
          refine stored_delete stored fun other also => ?_
          rw [held] at also
          cases also
          exact old
        · simp [same, held, old, stored, Option.filter_some]
    · simp [dropped, held, old, stored, Option.filter_some]

theorem stored_destroy (stored : Stored clock log sessions) : Stored clock (.signedOut cookie :: log) (sessions.destroy cookie) := by
  intro other
  unfold SessionStore.destroy
  cases named : carried cookie with
  | none => simpa [holder, named] using stored other
  | some id =>
    by_cases same : id = other
    · subst same
      exact .inl (by simp [holder, named, lookup_delete])
    · simpa [holder, named, lookup_delete, same, Ne.symm same] using stored other

theorem stored_create (stored : Stored clock log sessions) (username : String) (now createdAt : Int) (answer : IssuerAnswer) :
    Stored clock (.signedIn id username now createdAt answer session :: log) (sessions.create id session) := by
  intro other
  rw [lookup_create]
  by_cases same : id = other
  · subst same
    exact .inl (by simp [holder])
  · simpa [holder, same, Ne.symm same] using stored other

end

/-! ### Every run -/

section
variable {host : Host} {configuration : Configuration} {server after : Server} {action : Action} {clock now : Int}

/-- What is so of a server at any time. -/
structure Kept (host : Host) (configuration : Configuration) (clock : Int) (server : Server) : Prop where
  stored : Stored clock server.log server.sessions
  asked : ∀ caller request username, (caller, .issuer request username) ∈ server.waiting →
    ∃ password, .exchanged caller username password ∈ server.log
  justified : AllJustified host configuration server.log

theorem kept_later (kept : Kept host configuration clock server) (later : clock ≤ now) : Kept host configuration now server :=
  ⟨stored_later kept.stored later, kept.asked, kept.justified⟩

/-- What is asked of the issuer stays asked. -/
theorem asked_more {waiting fewer : List (Nat × Waiting)} {log : List Event} (events : List Event)
    (asked : ∀ caller request username, (caller, .issuer request username) ∈ waiting →
      ∃ password, .exchanged caller username password ∈ log) (among : ∀ handler ∈ fewer, handler ∈ waiting) :
    ∀ caller request username, (caller, Waiting.issuer request username) ∈ fewer →
      ∃ password, .exchanged caller username password ∈ events ++ log := by
  intro caller request username waits
  obtain ⟨password, sent⟩ := asked caller request username (among _ waits)
  exact ⟨password, List.mem_append_right _ sent⟩

theorem resumed_waiting (server : Server) (caller : Nat) : ∀ handler ∈ (server.resumed caller).waiting, handler ∈ server.waiting :=
  fun _ member => List.mem_of_mem_filter member

theorem login_kept (kept : Kept host configuration clock server) (request : HttpRequest) :
    Kept host configuration clock (login request server) := by
  unfold login
  dsimp only
  split
  · exact ⟨kept.stored, asked_more [_] kept.asked fun _ member => member, trivial, kept.justified⟩
  · refine ⟨kept.stored, ?_, trivial, kept.justified⟩
    intro caller about username waits
    rcases List.mem_cons.mp waits with same | earlier
    · cases same
      exact ⟨_, List.mem_cons_self⟩
    · exact asked_more [_] kept.asked (fun _ member => member) caller about username earlier

theorem logout_kept (kept : Kept host configuration clock server) (request : HttpRequest) :
    Kept host configuration clock (logout request server) :=
  ⟨stored_destroy kept.stored, asked_more [_, _] kept.asked fun _ member => member, trivial, trivial, kept.justified⟩

theorem currentSession_kept (kept : Kept host configuration now server) (request : HttpRequest) :
    Kept host configuration now (currentSession host now request server) := by
  obtain ⟨found, stored⟩ := @read_stored _ _ _ request.cookie kept.stored
  refine ⟨stored, asked_more [_, _] kept.asked fun _ member => member, trivial, ?_, kept.justified⟩
  rw [Justified, ← found]
  rfl

theorem proxy_kept (kept : Kept host configuration now server) (request : HttpRequest) :
    Kept host configuration now (proxy configuration now request server) := by
  obtain ⟨found, stored⟩ := @read_stored _ _ _ request.cookie kept.stored
  unfold proxy
  split
  next sessions answered =>
    rw [answered] at found stored
    refine ⟨stored, asked_more [_, _] kept.asked fun _ member => member, trivial, ?_, kept.justified⟩
    rw [Justified, ← found]
    rfl
  next session sessions answered =>
    rw [answered] at found stored
    refine ⟨stored, ?_, ?_, kept.justified⟩
    · intro caller about username waits
      rcases List.mem_cons.mp waits with same | earlier
      · cases same
      · exact asked_more [_] kept.asked (fun _ member => member) caller about username earlier
    · rw [Justified, ← found]
      rfl

theorem loggedIn_kept (kept : Kept host configuration clock server) {caller : Nat} {request : HttpRequest} {username : String}
    (asked : ∃ caller password, .exchanged caller username password ∈ server.log) (now createdAt : Int) (id : String)
    (answer : IssuerAnswer) : Kept host configuration clock
      (loggedIn host configuration caller request username now createdAt id answer (server.resumed caller)) := by
  have fewer := resumed_waiting server caller
  unfold loggedIn
  split
  · exact ⟨kept.stored, asked_more [_] kept.asked fewer, trivial, kept.justified⟩
  · exact ⟨kept.stored, asked_more [_] kept.asked fewer, trivial, kept.justified⟩
  · exact ⟨kept.stored, asked_more [_] kept.asked fewer, trivial, kept.justified⟩
  next identity identified =>
    exact ⟨stored_create kept.stored username now createdAt answer, asked_more [_, _] kept.asked fewer, trivial,
      ⟨asked, identity, identified, rfl⟩, kept.justified⟩

theorem kept_next (kept : Kept host configuration server.clock server) (timely : Timely server action)
    (taken : next host configuration server action = some after) : Kept host configuration after.clock after := by
  cases action with
  | receive now route request =>
    have later := kept_later kept timely
    cases taken
    cases route with
    | login =>
      obtain ⟨stored, asked, justified⟩ := login_kept later request
      exact ⟨stored, asked, justified⟩
    | logout =>
      obtain ⟨stored, asked, justified⟩ := logout_kept later request
      exact ⟨stored, asked, justified⟩
    | session =>
      obtain ⟨stored, asked, justified⟩ := currentSession_kept later request
      exact ⟨stored, asked, justified⟩
    | proxy =>
      obtain ⟨stored, asked, justified⟩ := proxy_kept later request
      exact ⟨stored, asked, justified⟩
  | authenticated caller now createdAt id answer =>
    simp only [next] at taken
    split at taken
    next request username waits =>
      cases taken
      obtain ⟨before, others, held, -⟩ := List.lookup_eq_some_iff.mp waits
      obtain ⟨password, sent⟩ := kept.asked caller request username (by simp [held])
      have later := kept_later kept (timely.1.trans timely.2)
      obtain ⟨stored, asked, justified⟩ := loggedIn_kept later ⟨caller, password, sent⟩ now createdAt id answer
      exact ⟨stored, asked, justified⟩
    next => cases taken
  | answered caller answer =>
    simp only [next] at taken
    split at taken
    next request waits =>
      cases taken
      exact ⟨kept.stored, asked_more [_] kept.asked (resumed_waiting server caller), trivial, kept.justified⟩
    next => cases taken

theorem justified_split {log later earlier : List Event} {event : Event} (justified : AllJustified host configuration log)
    (split : log = later ++ event :: earlier) : Justified host configuration earlier event := by
  subst split
  induction later with
  | nil => exact justified.1
  | cons first rest ih => exact ih justified.2

end

/-! ### A session that is signed out while a request is under way -/

/-- A runtime that reads one token, of a project. -/
def sampleHost : Host where
  decoded payload :=
    if payload = "claims" then some (object [("sub", string "alice"), ("projects", array [string "project"])]) else none
  milliseconds value :=
    match value with
    | number value => some (1000 * (digitsValue value.printed : Nat))
    | _ => none
  isoTime _ := some "2026-01-01T00:00:00.000Z"

def sampleConfiguration : Configuration := ⟨"https://api", true⟩

def sampleRequest (method url : String) (cookie : Option String) (body : Value) : HttpRequest :=
  { method, url, cookie, body, headers := [("accept", .one "application/json"), ("authorization", .one "Bearer forged")] }

def sampleCredentials : Value := object [("username", string " alice "), ("password", string "secret")]

/-- A sign-in, a request, a sign-out, and another request before the first is answered. -/
def sampleVisit : List Action :=
  [.receive 0 .login (sampleRequest "POST" "/auth/login" none sampleCredentials),
    .authenticated 0 5 6 "id" (.answered 200 (.ok (object [("access_token", string "head.claims.signature")]))),
    .receive 10 .proxy (sampleRequest "GET" "/v1/projects" (some "id") undefined),
    .receive 20 .logout (sampleRequest "POST" "/auth/logout" (some "id") undefined),
    .receive 30 .proxy (sampleRequest "GET" "/v1/projects" (some "id") undefined),
    .answered 1 (.answered 200 none "[]")]

/-- A check that decides `Timely`. -/
def isTimely (server : Server) : Action → Bool
  | .receive now _ _ => server.clock ≤ now
  | .authenticated _ now createdAt _ _ => server.clock ≤ now && now ≤ createdAt
  | .answered _ _ => true

theorem timely_of_isTimely (server : Server) (action : Action) (checked : isTimely server action = true) : Timely server action := by
  cases action with
  | receive now route request => simpa [isTimely, Timely] using checked
  | authenticated caller now createdAt id answer => simpa [isTimely, Timely] using checked
  | answered caller answer => trivial

end ControlPlane.ConsoleBff
