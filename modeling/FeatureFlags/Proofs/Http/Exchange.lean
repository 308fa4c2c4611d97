import FeatureFlags.Proofs.Double.Quotient
import FeatureFlags.Proofs.Http.Plain
import FeatureFlags.Settings.Build
import FeatureFlags.Source.Web

/-!
# How fetches over the web end

A fetch ends with an object or with an error of the library, which tells a timeout from any other
failure of the network and from a response that is of no use.  What else escapes comes of an
identifier that cannot be escaped, of settings that no request can be made of, or of a body that
nests too deep (`ask_exchange`).  Which settings those are is up to the library that sends requests,
but a timeout that is no double is always among them.
-/

set_option autoImplicit false

namespace FeatureFlags

namespace Http

/-! ## Requests that are not sent -/

/-- Timeouts from here on, in milliseconds, are no finite double in seconds. -/
def longestTimeout : Nat :=
  Double.leastBeyond * 1000

theorem timeoutSeconds?_eq_none_iff {settings : Settings} :
    settings.timeoutSeconds? = none ↔ longestTimeout ≤ settings.timeout :=
  Double.ofQuotient?_eq_none_iff (by decide)

/-- What escapes instead of a request being sent: the timeout counts before the base URL, and that
before the URL of the request and the host in it. -/
inductive Unsendable (library : Library) (settings : Settings) (resource : Resource) :
    Foreign → Prop where
  | timeout (beyond : longestTimeout ≤ settings.timeout) :
      Unsendable library settings resource .quotientTooLarge
  | base {failure : Foreign} (within : settings.timeout < longestTimeout)
      (refused : library.base settings = .error failure) :
      Unsendable library settings resource failure
  | url {base : Url} {failure : Foreign} (within : settings.timeout < longestTimeout)
      (read : library.base settings = .ok base)
      (refused : library.append (Connection.path resource) base = .error failure) :
      Unsendable library settings resource failure
  | host {base url : Url} {failure : Foreign} (within : settings.timeout < longestTimeout)
      (read : library.base settings = .ok base)
      (appended : library.append (Connection.path resource) base = .ok url)
      (unnamed : library.host url = .error failure) :
      Unsendable library settings resource failure

namespace Connection

variable {library : Library} {settings : Settings} {connection : Connection} {resource : Resource}

theorem request_eq_error_iff {client : Client} {failure : Foreign} :
    request library settings client resource = .error failure ↔
      library.append (path resource) client.url = .error failure ∨
        ∃ url, library.append (path resource) client.url = .ok url ∧
          library.host url = .error failure := by
  rw [request, bind_eq_error_iff]
  refine or_congr_right (exists_congr fun url => and_congr_right fun _ => ?_)
  rw [bind_eq_error_iff]
  refine or_iff_left ?_
  rintro ⟨host, -, failed⟩
  cases failed

theorem clientOf_eq_error_iff {failure : Foreign} :
    clientOf library settings = .error failure ↔
      (longestTimeout ≤ settings.timeout ∧ failure = .quotientTooLarge) ∨
        settings.timeout < longestTimeout ∧ library.base settings = .error failure := by
  have seconds : settings.timeoutSeconds? = none ↔ longestTimeout ≤ settings.timeout :=
    timeoutSeconds?_eq_none_iff
  rw [clientOf]
  generalize settings.timeoutSeconds? = timeout at seconds ⊢
  cases timeout with
  | none =>
      have beyond : longestTimeout ≤ settings.timeout := seconds.mp rfl
      simp [clientWith, beyond, Nat.not_lt.mpr beyond, eq_comm]
  | some timeout =>
      have within : ¬longestTimeout ≤ settings.timeout :=
        fun beyond => by cases seconds.mpr beyond
      cases read : library.base settings <;>
        simp [clientWith, within, Nat.not_le.mp within]

theorem clientOf_eq_ok {client : Client} (asked : clientOf library settings = .ok client) :
    settings.timeout < longestTimeout ∧ library.base settings = .ok client.url := by
  refine ⟨Nat.not_le.mp fun beyond => ?_, url_of_clientOf asked⟩
  cases asked.symm.trans (clientOf_eq_error_iff.mpr (.inl ⟨beyond, rfl⟩))

theorem exists_clientOf {base : Url} (within : settings.timeout < longestTimeout)
    (read : library.base settings = .ok base) :
    ∃ client, clientOf library settings = .ok client ∧ client.url = base := by
  cases asked : clientOf library settings with
  | ok client =>
      cases read.symm.trans (clientOf_eq_ok asked).2
      exact ⟨client, rfl, rfl⟩
  | error failure =>
      rcases clientOf_eq_error_iff.mp asked with ⟨beyond, -⟩ | ⟨-, refused⟩
      · exact absurd within (Nat.not_lt.mpr beyond)
      · cases read.symm.trans refused

/-- A request is not sent exactly if one of the things before it fails. -/
theorem Used.send_eq_error_iff (used : Used library settings connection) {error : Error} :
    (connection.send resource).2 = .error error ↔
      ∃ failure, error = .foreign failure ∧ Unsendable library settings resource failure := by
  rw [used.send_snd, mapError_eq_error_iff]
  refine exists_congr fun failure => ?_
  rw [and_comm, bind_eq_error_iff]
  refine and_congr_right fun _ => ?_
  constructor
  · rintro (unopened | ⟨client, asked, failed⟩)
    · rcases clientOf_eq_error_iff.mp unopened with ⟨beyond, rfl⟩ | ⟨within, refused⟩
      · exact .timeout beyond
      · exact .base within refused
    · obtain ⟨within, read⟩ := clientOf_eq_ok asked
      rcases request_eq_error_iff.mp failed with refused | ⟨url, appended, unnamed⟩
      · exact .url within read refused
      · exact .host within read appended unnamed
  · intro unsendable
    cases unsendable with
    | timeout beyond => exact .inl (clientOf_eq_error_iff.mpr (.inl ⟨beyond, rfl⟩))
    | base within refused => exact .inl (clientOf_eq_error_iff.mpr (.inr ⟨within, refused⟩))
    | url within read refused =>
        obtain ⟨client, asked, rfl⟩ := exists_clientOf within read
        exact .inr ⟨client, asked, request_eq_error_iff.mpr (.inl refused)⟩
    | host within read appended unnamed =>
        obtain ⟨client, asked, rfl⟩ := exists_clientOf within read
        exact .inr ⟨client, asked, request_eq_error_iff.mpr (.inr ⟨_, appended, unnamed⟩)⟩

end Connection

/-- Plain settings leave nothing in the way of a request that is short enough. -/
theorem Library.ReadsPlain.sends {library : Library} (reads : library.ReadsPlain)
    {settings : Settings} (plain : IsPlain settings) (within : settings.timeout < longestTimeout)
    {resource : Resource} (short : (Connection.path resource).length ≤ Url.maxLength)
    (failure : Foreign) : ¬Unsendable library settings resource failure := by
  obtain ⟨base, read, reaches⟩ := reads settings plain
  obtain ⟨url, host, appended, named⟩ := reaches resource short
  intro unsendable
  cases unsendable with
  | timeout beyond => exact absurd within (Nat.not_lt.mpr beyond)
  | base _ refused => cases read.symm.trans refused
  | url _ other refused =>
      cases read.symm.trans other
      cases appended.symm.trans refused
  | host _ other again unnamed =>
      cases read.symm.trans other
      cases appended.symm.trans again
      cases named.symm.trans unnamed

/-! ## Replies -/

inductive TooDeep (nesting : Nat) (body : List UInt8) : Foreign → Prop where
  | array (deep : Value.ofJson nesting body = .error .deepArray) :
      TooDeep nesting body (.tooDeep .jsonArray)
  | object (deep : Value.ofJson nesting body = .error .deepObject) :
      TooDeep nesting body (.tooDeep .jsonObject)

inductive OfResponse : Error → Prop where
  | api (status : Int) (message : String) (payload : List (String × Value)) :
      OfResponse (.api status message payload)
  | parse (fault : ParseFault) : OfResponse (.parse fault)

variable {nesting : Nat}

/-- A response is read, or is told by an error of the library unless it nests too deep. -/
theorem Response.members_cases (response : Response) (nesting : Nat) (resource : Resource) :
    (∃ members, response.members nesting resource = .ok members) ∨
      (∃ error, response.members nesting resource = .error error ∧ OfResponse error) ∨
        ∃ failure, response.members nesting resource = .error (.foreign failure) ∧
          TooDeep nesting response.body failure := by
  unfold Response.members
  cases read : Value.ofJson nesting response.body with
  | error fault =>
      cases fault with
      | malformed => exact .inr (.inl ⟨_, rfl, .parse _⟩)
      | deepArray => exact .inr (.inr ⟨_, rfl, .array read⟩)
      | deepObject => exact .inr (.inr ⟨_, rfl, .object read⟩)
  | ok data =>
      dsimp only
      split
      · exact .inr (.inl ⟨_, rfl, .api _ _ _⟩)
      · split
        · exact .inr (.inl ⟨_, rfl, .api _ _ _⟩)
        · split
          · exact .inl ⟨_, rfl⟩
          · exact .inr (.inl ⟨_, rfl, .parse _⟩)

theorem Response.members_of_tooDeep {response : Response} {resource : Resource} {failure : Foreign}
    (tooDeep : TooDeep nesting response.body failure) :
    response.members nesting resource = .error (.foreign failure) := by
  cases tooDeep with
  | array deep => rw [Response.members, deep]
  | object deep => rw [Response.members, deep]

end Http

/-! ## Fetches -/

namespace Web

open Http

def replyTo (web : Web) (request : Request) : Reply :=
  (web.replies.lookup request.path).getD notFound

def Gets (web : Web) (resource : Resource) (request : Request) (reply : Reply) : Prop :=
  (web.connection.send resource).2 = .ok request ∧ web.replyTo request = reply

def Brings (web : Web) (asked : Asked) (request : Request) (reply : Reply) : Prop :=
  ∃ resource, asked.resource = .ok resource ∧ web.Gets resource request reply

/-- What escapes instead of a request being sent; a broken identifier counts before the rest. -/
inductive Unsendable (library : Library) (settings : Settings) : Asked → Foreign → Prop where
  | identifier (identifier : Text.Broken) :
      Unsendable library settings (.identity (.broken identifier)) identifier.unencodable
  | resource {asked : Asked} {resource : Resource} {failure : Foreign}
      (named : asked.resource = .ok resource)
      (unsendable : Http.Unsendable library settings resource failure) :
      Unsendable library settings asked failure

theorem Unsendable.of_unnamed {library : Library} {settings : Settings} {asked : Asked}
    {failure : Foreign} (unnamed : asked.resource = .error failure) :
    Unsendable library settings asked failure := by
  cases asked with
  | state => cases unnamed
  | identity identifier =>
      cases identifier with
      | whole identifier => cases unnamed
      | broken identifier =>
          cases unnamed
          exact .identifier identifier

variable {library : Library} {settings : Settings} {web : Web} {asked : Asked}
  {resource : Resource}

theorem fetch_of_unsent {error : Error}
    (unsent : (web.connection.send resource).2 = .error error) :
    (web.fetch resource).2 = .error error := by
  unfold fetch
  split
  · next failed =>
      rw [failed] at unsent
      cases unsent
      rfl
  · next sent =>
      rw [sent] at unsent
      cases unsent

theorem fetch_of_gets (used : Connection.Used library settings web.connection) {request : Request}
    {reply : Reply} (gets : web.Gets resource request reply) :
    (web.fetch resource).2 =
      (reply.membersWithin library.nesting resource settings.timeout).map .object := by
  obtain ⟨sent, rfl⟩ := gets
  obtain ⟨sends, same, -⟩ := (used.sent resource).keeps
  unfold fetch
  split
  · next failed =>
      rw [failed] at sent
      cases sent
  · next connection request made =>
      rw [made] at sent sends same
      cases sent
      rw [← sends, ← same]
      rfl

theorem ask_of_named (named : asked.resource = .ok resource) :
    web.ask asked = web.fetch resource := by
  rw [ask, named]

theorem ask_of_unsendable (used : Connection.Used library settings web.connection)
    {failure : Foreign} (unsendable : Unsendable library settings asked failure) :
    (web.ask asked).2 = .error (.foreign failure) := by
  cases unsendable with
  | identifier identifier => rfl
  | resource named unsendable =>
      rw [ask_of_named named]
      exact fetch_of_unsent (used.send_eq_error_iff.mpr ⟨failure, rfl, unsendable⟩)

structure Exchange (library : Library) (settings : Settings) (web : Web) (asked : Asked)
    (result : Except Error Value) : Prop where
  object : ∀ value, result = .ok value → ∃ members, value = .object members
  /-- Errors of transport are those of the network, and tell whether time ran out. -/
  transport : ∀ isTimeout,
    (∃ message cause, result = .error (.transport message isTimeout cause)) ↔
      ∃ request fault message, web.Brings asked request (.fault fault message) ∧
        fault.isTimeout = isTimeout
  connectionError : (∃ error, result = .error error ∧ error.code? = some "CONNECTION_ERROR") ↔
    ∃ request fault message, web.Brings asked request (.fault fault message) ∧
      fault.isTimeout = false
  /-- Objects and errors about responses come of responses, and every response brings one or the
  other unless it nests too deep. -/
  ofResponse :
    ((∃ value, result = .ok value) ∨ ∃ error, result = .error error ∧ OfResponse error) ↔
      ∃ request response, web.Brings asked request (.response response) ∧
        ∀ failure, ¬TooDeep library.nesting response.body failure
  total : ∀ error, result = .error error →
    (∃ message isTimeout cause, error = .transport message isTimeout cause) ∨ OfResponse error ∨
      ∃ failure, error = .foreign failure
  /-- What else can escape. -/
  escapes : ∀ failure, result = .error (.foreign failure) ↔
    Unsendable library settings asked failure ∨
      ∃ request response, web.Brings asked request (.response response) ∧
        TooDeep library.nesting response.body failure
  /-- Where plain hosts are read, plain settings send what they are asked for. -/
  sendable : library.ReadsPlain → IsPlain settings → settings.timeout < longestTimeout →
    ∀ resource, asked.resource = .ok resource →
      (Connection.path resource).length ≤ Url.maxLength →
        ∀ failure, ¬Unsendable library settings asked failure

inductive Course (library : Library) (settings : Settings) (web : Web) (asked : Asked) :
    Except Error Value → Prop where
  | unsent {failure : Foreign} (unsendable : Unsendable library settings asked failure) :
      Course library settings web asked (.error (.foreign failure))
  | object {request : Request} {response : Response}
      (brings : web.Brings asked request (.response response)) (members : List (String × Value)) :
      Course library settings web asked (.ok (.object members))
  | told {request : Request} {response : Response}
      (brings : web.Brings asked request (.response response)) {error : Error}
      (ofResponse : OfResponse error) : Course library settings web asked (.error error)
  | tooDeep {request : Request} {response : Response}
      (brings : web.Brings asked request (.response response)) {failure : Foreign}
      (tooDeep : TooDeep library.nesting response.body failure) :
      Course library settings web asked (.error (.foreign failure))
  | fault {request : Request} {fault : NetworkFault} {message : String}
      (brings : web.Brings asked request (.fault fault message)) (text : String) :
      Course library settings web asked
        (.error (.transport text fault.isTimeout (some (.network fault))))

theorem members_fault (nesting : Nat) (resource : Resource) (timeout : Nat) (fault : NetworkFault)
    (message : String) :
    ∃ text, (Reply.fault fault message).membersWithin nesting resource timeout =
      .error (.transport text fault.isTimeout (some (.network fault))) := by
  rw [Reply.membersWithin]
  split
  · next isTimeout => exact ⟨_, by rw [isTimeout]⟩
  · next isOther => exact ⟨_, by rw [Bool.eq_false_iff.mpr isOther]⟩

theorem ask_course (used : Connection.Used library settings web.connection)
    (answered : ∀ request message, ¬web.Brings asked request (.refused message)) :
    Course library settings web asked (web.ask asked).2 := by
  cases named : asked.resource with
  | error failure =>
      have unsendable : Unsendable library settings asked failure := .of_unnamed named
      rw [ask_of_unsendable used unsendable]
      exact .unsent unsendable
  | ok resource =>
      cases sent : (web.connection.send resource).2 with
      | error error =>
          obtain ⟨failure, rfl, unsendable⟩ := used.send_eq_error_iff.mp sent
          rw [ask_of_named named, fetch_of_unsent sent]
          exact .unsent (.resource named unsendable)
      | ok request =>
          have gets : web.Gets resource request (web.replyTo request) := ⟨sent, rfl⟩
          rw [ask_of_named named, fetch_of_gets used gets]
          cases reply : web.replyTo request with
          | refused message =>
              exact absurd ⟨resource, named, reply ▸ gets⟩ (answered request message)
          | fault fault message =>
              obtain ⟨text, told⟩ :=
                members_fault library.nesting resource settings.timeout fault message
              rw [told]
              exact .fault ⟨resource, named, reply ▸ gets⟩ text
          | response response =>
              rw [reply] at gets
              have brings : web.Brings asked request (.response response) := ⟨resource, named, gets⟩
              obtain ⟨members, read⟩ | ⟨error, failed, ofResponse⟩ | ⟨failure, failed, tooDeep⟩ :=
                response.members_cases library.nesting resource
              · rw [Reply.membersWithin, read]
                exact .object brings members
              · rw [Reply.membersWithin, failed]
                exact .told brings ofResponse
              · rw [Reply.membersWithin, failed]
                exact .tooDeep brings tooDeep

theorem ask_of_brings (used : Connection.Used library settings web.connection)
    {request : Request} {reply : Reply} (brings : web.Brings asked request reply) :
    ∃ resource, (web.ask asked).2 =
      (reply.membersWithin library.nesting resource settings.timeout).map .object := by
  obtain ⟨resource, named, gets⟩ := brings
  exact ⟨resource, by rw [ask_of_named named, fetch_of_gets used gets]⟩

theorem ask_of_fault (used : Connection.Used library settings web.connection) {request : Request}
    {fault : NetworkFault} {message : String}
    (brings : web.Brings asked request (.fault fault message)) :
    ∃ text, (web.ask asked).2 =
      .error (.transport text fault.isTimeout (some (.network fault))) := by
  obtain ⟨resource, ended⟩ := ask_of_brings used brings
  obtain ⟨text, told⟩ := members_fault library.nesting resource settings.timeout fault message
  rw [told] at ended
  exact ⟨text, ended⟩

theorem ask_of_tooDeep (used : Connection.Used library settings web.connection)
    {request : Request} {response : Response} {failure : Foreign}
    (brings : web.Brings asked request (.response response))
    (tooDeep : TooDeep library.nesting response.body failure) :
    (web.ask asked).2 = .error (.foreign failure) := by
  obtain ⟨resource, ended⟩ := ask_of_brings used brings
  rw [Reply.membersWithin, Response.members_of_tooDeep tooDeep] at ended
  exact ended

section Course

variable (used : Connection.Used library settings web.connection)
  (course : Course library settings web asked (web.ask asked).2)

include used course

theorem ask_transport_iff (isTimeout : Bool) :
    (∃ message cause, (web.ask asked).2 = .error (.transport message isTimeout cause)) ↔
      ∃ request fault message, web.Brings asked request (.fault fault message) ∧
        fault.isTimeout = isTimeout := by
  constructor
  · rintro ⟨message, cause, failed⟩
    rw [failed] at course
    cases course with
    | told _ ofResponse => cases ofResponse
    | fault brings => exact ⟨_, _, _, brings, rfl⟩
  · rintro ⟨request, fault, message, brings, rfl⟩
    obtain ⟨text, told⟩ := ask_of_fault used brings
    exact ⟨text, _, told⟩

theorem ask_connectionError_iff :
    (∃ error, (web.ask asked).2 = .error error ∧ error.code? = some "CONNECTION_ERROR") ↔
      ∃ request fault message, web.Brings asked request (.fault fault message) ∧
        fault.isTimeout = false := by
  constructor
  · rintro ⟨error, failed, code⟩
    rw [failed] at course
    cases course with
    | unsent | tooDeep => cases code
    | told _ ofResponse => cases ofResponse <;> simp [Error.code?] at code
    | @fault _ fault _ brings text =>
        refine ⟨_, fault, _, brings, ?_⟩
        cases isTimeout : fault.isTimeout with
        | false => rfl
        | true => simp [Error.code?, isTimeout] at code
  · rintro ⟨request, fault, message, brings, isOther⟩
    obtain ⟨text, told⟩ := ask_of_fault used brings
    exact ⟨_, told, by rw [isOther]; rfl⟩

theorem ask_ofResponse_iff :
    ((∃ value, (web.ask asked).2 = .ok value) ∨
        ∃ error, (web.ask asked).2 = .error error ∧ OfResponse error) ↔
      ∃ request response, web.Brings asked request (.response response) ∧
        ∀ failure, ¬TooDeep library.nesting response.body failure := by
  constructor
  · rintro (⟨value, ok⟩ | ⟨error, failed, ofResponse⟩)
    · rw [ok] at course
      cases course with
      | object brings =>
          refine ⟨_, _, brings, fun failure deep => ?_⟩
          cases ok.symm.trans (ask_of_tooDeep used brings deep)
    · rw [failed] at course
      cases course with
      | unsent | fault | tooDeep => cases ofResponse
      | told brings =>
          refine ⟨_, _, brings, fun failure deep => ?_⟩
          cases failed.symm.trans (ask_of_tooDeep used brings deep)
          cases ofResponse
  · rintro ⟨request, response, brings, notDeep⟩
    obtain ⟨resource, ended⟩ := ask_of_brings used brings
    rw [ended, Reply.membersWithin]
    obtain ⟨members, read⟩ | ⟨error, failed, ofResponse⟩ | ⟨failure, _, tooDeep⟩ :=
      response.members_cases library.nesting resource
    · exact .inl ⟨.object members, by rw [read]; rfl⟩
    · exact .inr ⟨error, by rw [failed]; rfl, ofResponse⟩
    · exact absurd tooDeep (notDeep failure)

theorem ask_foreign_iff (failure : Foreign) :
    (web.ask asked).2 = .error (.foreign failure) ↔
      Unsendable library settings asked failure ∨
        ∃ request response, web.Brings asked request (.response response) ∧
          TooDeep library.nesting response.body failure := by
  constructor
  · intro failed
    rw [failed] at course
    cases course with
    | unsent unsendable => exact .inl unsendable
    | told _ ofResponse => cases ofResponse
    | tooDeep brings tooDeep => exact .inr ⟨_, _, brings, tooDeep⟩
  · rintro (unsendable | ⟨request, response, brings, tooDeep⟩)
    · exact ask_of_unsendable used unsendable
    · exact ask_of_tooDeep used brings tooDeep

end Course

theorem ask_exchange (used : Connection.Used library settings web.connection) (asked : Asked)
    (answered : ∀ request message, ¬web.Brings asked request (.refused message)) :
    Exchange library settings web asked (web.ask asked).2 where
  object value ok := by
    have course := ask_course used answered
    rw [ok] at course
    cases course with
    | object _ members => exact ⟨members, rfl⟩
  transport := ask_transport_iff used (ask_course used answered)
  connectionError := ask_connectionError_iff used (ask_course used answered)
  ofResponse := ask_ofResponse_iff used (ask_course used answered)
  total error failed := by
    have course := ask_course used answered
    rw [failed] at course
    cases course with
    | unsent | tooDeep => exact .inr (.inr ⟨_, rfl⟩)
    | told _ ofResponse => exact .inr (.inl ofResponse)
    | fault => exact .inl ⟨_, _, _, rfl⟩
  escapes := ask_foreign_iff used (ask_course used answered)
  sendable reads plain within resource named short failure unsendable := by
    cases unsendable with
    | identifier => cases named
    | resource other unsendable =>
        cases named.symm.trans other
        exact reads.sends plain within short failure unsendable

def slow : Web :=
  ⟨Connection.reopenable, [("/sdk/initialize", .fault .readTimeout "slow")], []⟩

theorem isPlain_keyOnly : IsPlain Connection.keyOnly where
  host :=
    { unreserved := List.all_eq_true.mp (by decide)
      letter := ⟨'a', by decide, by decide⟩
      notEncoded := by decide }
  short := by decide +kernel
  port := by decide

theorem ask_exchange_slow :
    Connection.Used .usual Connection.keyOnly slow.connection ∧
      (∀ request message, ¬slow.Brings .state request (.refused message)) ∧
      Library.usual.ReadsPlain ∧ IsPlain Connection.keyOnly ∧
      Exchange .usual Connection.keyOnly slow .state (slow.ask .state).2 := by
  have reopened : Connection.Used .usual Connection.keyOnly Connection.reopenable :=
    .closed (.sent .new (.identity "ada"))
  have used : Connection.Used .usual Connection.keyOnly slow.connection := by
    dsimp only [slow]
    exact reopened
  have answered : ∀ request message, ¬slow.Brings .state request (.refused message) := by
    rintro request message ⟨resource, -, -, refused⟩
    unfold replyTo slow at refused
    rw [List.lookup_cons] at refused
    split at refused <;> cases refused
  exact ⟨used, answered, readsPlain_usual, isPlain_keyOnly, ask_exchange used .state answered⟩

def patient (timeout : Nat) : Settings :=
  { Connection.keyOnly with timeout }

theorem ofEntries_patient {timeout : Nat} (positive : 0 < timeout) :
    Settings.ofEntries [(.text "api_key", .text "key"), (.text "timeout_ms", .int timeout)] =
      .ok (patient timeout) := by
  have read : Settings.readTimeout (.int timeout) = .ok timeout := by
    have above : ¬(timeout : Int) ≤ 0 := by omega
    simp only [Settings.readTimeout, Settings.readInteger]
    change (if (timeout : Int) ≤ 0 then _ else _) = _
    rw [if_neg above]
    rfl
  have given : Settings.given? [(.text "api_key", .text "key"), (.text "timeout_ms", .int timeout)]
      .timeout = some (.int timeout) := rfl
  have readTimeout : Settings.readOr Settings.defaultTimeout Settings.readTimeout
      [(.text "api_key", .text "key"), (.text "timeout_ms", .int timeout)] .timeout =
        .ok timeout := by
    rw [Settings.readOr, given]
    exact read
  rw [Settings.ofEntries, readTimeout]
  rfl

def hugeTimeout : Nat :=
  10 ^ 400

/-- Settings can be built with which no client can be opened. -/
theorem huge_timeout_escapes :
    Settings.ofEntries [(.text "api_key", .text "key"), (.text "timeout_ms", .int hugeTimeout)] =
      .ok (patient hugeTimeout) ∧
    ((Web.new (patient hugeTimeout)).ask .state).2 = .error (.foreign .quotientTooLarge) := by
  have huge : longestTimeout ≤ hugeTimeout := by decide +kernel
  have positive : 0 < hugeTimeout := by decide +kernel
  have used : Connection.Used .usual (patient hugeTimeout)
    (Web.new (patient hugeTimeout)).connection := .new
  exact ⟨ofEntries_patient positive, ask_of_unsendable used (.resource rfl (.timeout huge))⟩

end Web

end FeatureFlags
