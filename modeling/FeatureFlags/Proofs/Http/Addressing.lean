import FeatureFlags.Http.Connection
import FeatureFlags.Proofs.Http.Url
import FeatureFlags.Proofs.Result

/-!
# Where requests go

A connection sends what a new connection would send, however often it has been used and closed.  An
identifier that is no dots is asked for under the path of identities and one segment of its own.
-/

set_option autoImplicit false

namespace FeatureFlags.Http.Connection

variable {library : Library} {settings : Settings} {connection : Connection}

/-! ## Use -/

inductive Used (library : Library) (settings : Settings) : Connection → Prop where
  | new : Used library settings (.through library settings)
  | sent {connection : Connection} (used : Used library settings connection)
      (resource : Resource) : Used library settings (connection.send resource).1
  | closed {connection : Connection} (used : Used library settings connection) :
      Used library settings connection.close.1

def clientWith (timeout : Option Double) (url : Except Foreign Url) : Except Foreign Client :=
  match timeout, url with
  | none, _ => .error .quotientTooLarge
  | some _, .error failure => .error failure
  | some timeout, .ok url => .ok ⟨url, timeout⟩

def clientOf (library : Library) (settings : Settings) : Except Foreign Client :=
  clientWith settings.timeoutSeconds? (library.base settings)

theorem url_of_clientOf {client : Client} (asked : clientOf library settings = .ok client) :
    library.base settings = .ok client.url := by
  unfold clientOf at asked
  generalize settings.timeoutSeconds? = timeout, library.base settings = url at asked ⊢
  cases timeout with
  | none => cases asked
  | some timeout =>
      cases url with
      | error failure => cases asked
      | ok url =>
          cases asked
          rfl

structure Keeps (library : Library) (settings : Settings) (connection : Connection) : Prop where
  sends : connection.library = library
  same : connection.settings = settings
  client : ∀ client, connection.client = .opened client → clientOf library settings = .ok client

theorem Keeps.ensureOpen (keeps : Keeps library settings connection) :
    connection.ensureOpen.2 = clientOf library settings ∧
      Keeps library settings connection.ensureOpen.1 := by
  obtain ⟨rfl, rfl, known⟩ := keeps
  have asked : clientOf connection.library connection.settings =
    clientWith connection.settings.timeoutSeconds?
      (connection.library.base connection.settings) := rfl
  unfold Connection.ensureOpen
  -- the timeout is a variable from here on, so that no step computes it
  generalize connection.settings.timeoutSeconds? = timeout,
    connection.library.base connection.settings = url at asked ⊢
  cases state : connection.client with
  | opened client => exact ⟨(known client state).symm, rfl, rfl, known⟩
  | unused | closed =>
      cases timeout with
      | none => exact ⟨asked.symm, rfl, rfl, known⟩
      | some timeout =>
          cases url with
          | error failure => exact ⟨asked.symm, rfl, rfl, fun client opened => by cases opened⟩
          | ok url =>
              refine ⟨asked.symm, rfl, rfl, fun client opened => ?_⟩
              cases opened
              exact asked

theorem Keeps.close (keeps : Keeps library settings connection) :
    Keeps library settings connection.close.1 := by
  unfold Connection.close
  split
  · exact keeps
  · exact ⟨keeps.sends, keeps.same, fun client opened => by cases opened⟩
  · exact ⟨keeps.sends, keeps.same, fun client opened => by cases opened⟩

theorem send_eq (connection : Connection) (resource : Resource) :
    connection.send resource = (connection.ensureOpen.1,
      (connection.ensureOpen.2 >>= fun client =>
        request connection.library connection.settings client resource).mapError .foreign) := by
  unfold send
  split
  · next opened => rw [opened]; rfl
  · next unopened => rw [unopened]; rfl

theorem Used.keeps (used : Used library settings connection) :
    Keeps library settings connection := by
  induction used with
  | new => exact ⟨rfl, rfl, fun client opened => by cases opened⟩
  | sent used resource inductionHypothesis =>
      rw [send_eq]
      exact inductionHypothesis.ensureOpen.2
  | closed used inductionHypothesis => exact inductionHypothesis.close

theorem Used.send_snd (used : Used library settings connection) (resource : Resource) :
    (connection.send resource).2 =
      (clientOf library settings >>= fun client =>
        request library settings client resource).mapError .foreign := by
  obtain ⟨sends, same, -⟩ := used.keeps
  rw [send_eq, used.keeps.ensureOpen.1, sends, same]

/-! ## Requests -/

theorem request_eq_ok_iff {client : Client} {resource : Resource} {sent : Request} :
    request library settings client resource = .ok sent ↔
      ∃ url host, library.append (path resource) client.url = .ok url ∧
        library.host url = .ok host ∧
          sent = ⟨url.protocol, host, String.ofList url.target, authorization settings.apiKey,
            client.timeout⟩ := by
  rw [request, bind_eq_ok_iff]
  refine exists_congr fun url => ?_
  rw [exists_and_left]
  refine and_congr_right fun _ => ?_
  rw [bind_eq_ok_iff]
  refine exists_congr fun host => and_congr_right fun _ => ?_
  exact ⟨fun made => (Except.ok.inj made).symm, fun same => congrArg Except.ok same.symm⟩

theorem Used.send_eq_ok_iff (used : Used library settings connection) {resource : Resource}
    {sent : Request} :
    (connection.send resource).2 = .ok sent ↔
      ∃ client, clientOf library settings = .ok client ∧
        request library settings client resource = .ok sent := by
  rw [used.send_snd, mapError_eq_ok_iff, bind_eq_ok_iff]

def behindSlash : Resource → List Char
  | .state => "sdk/initialize".toList
  | .identity identifier => "sdk/identities/".toList ++ segmentOf identifier

theorem path_eq (resource : Resource) : path resource = '/' :: behindSlash resource := by
  cases resource <;> rfl

theorem head?_behindSlash (resource : Resource) : (behindSlash resource).head? ≠ some '/' := by
  have first : (behindSlash resource).head? = some 's' := by
    cases resource <;> rfl
  rw [first]
  decide

theorem dropWhile_path (resource : Resource) :
    (path resource).dropWhile (· == '/') = behindSlash resource := by
  cases resource <;> rfl

theorem ofSettings_of_base {base : Url} (read : Library.usual.base settings = .ok base) :
    Url.ofSettings settings = .ok base := by
  change Url.base settings = .ok base at read
  unfold Url.base at read
  split at read
  · exact mapError_eq_ok_iff.mp read
  · cases read

/-- Where a request goes depends on the target of the base URL alone. -/
theorem Used.path_of_sent (used : Used .usual settings connection) {resource : Resource}
    {sent : Request} (ok : (connection.send resource).2 = .ok sent) :
    ∃ base, Url.ofSettings settings = .ok base ∧
      sent.path.toList = Url.normalTarget (base.target ++ behindSlash resource) := by
  obtain ⟨client, asked, requested⟩ := used.send_eq_ok_iff.1 ok
  obtain ⟨url, host, appended, _, rfl⟩ := request_eq_ok_iff.1 requested
  refine ⟨client.url, ofSettings_of_base (url_of_clientOf asked), ?_⟩
  rw [String.toList_ofList, Url.target_of_append (mapError_eq_ok_iff.mp appended), dropWhile_path]

/-- What sends one request sends every other that is short enough, to the same server. -/
theorem Used.sent_of_sent (used : Used .usual settings connection) {resource other : Resource}
    {sent : Request} (ok : (connection.send resource).2 = .ok sent)
    (short : ∀ base, Url.ofSettings settings = .ok base →
      base.target.length + (behindSlash other).length ≤ Url.maxLength) :
    ∃ path, (connection.send other).2 = .ok { sent with path } := by
  obtain ⟨client, asked, requested⟩ := used.send_eq_ok_iff.1 ok
  obtain ⟨url, host, appended, named, rfl⟩ := request_eq_ok_iff.1 requested
  have again := Url.append_aimed (mapError_eq_ok_iff.mp appended) (head?_behindSlash other)
    (short client.url (ofSettings_of_base (url_of_clientOf asked)))
  refine ⟨String.ofList (url.aimed (client.url.target ++ behindSlash other)).target, ?_⟩
  refine used.send_eq_ok_iff.2 ⟨client, asked, request_eq_ok_iff.2 ?_⟩
  refine ⟨url.aimed _, host, mapError_eq_ok_iff.mpr ?_, named, rfl⟩
  rw [path_eq]
  exact again

/-! ## Segments of their own -/

def Fits (settings : Settings) (identifier : String) : Prop :=
  ∀ base, Url.ofSettings settings = .ok base →
    base.target.length + (behindSlash (.identity identifier)).length ≤ Url.maxLength

theorem fits_of_hostOnly {identifier : String} (hostOnly : Url.HostOnly settings)
    (short : (identityPath identifier).length ≤ Url.maxLength) : Fits settings identifier := by
  intro base read
  rw [Url.target_of_ofSettings hostOnly read, Nat.add_comm]
  exact short

/-- How the requests of a connection are addressed, with what stands in front of each path. -/
structure Addresses (settings : Settings) (connection : Connection) (front : List Char) : Prop where
  root : Url.HostOnly settings → front = ['/']
  state : ∀ sent, (connection.send .state).2 = .ok sent →
    sent.path.toList = front ++ "sdk/initialize".toList
  /-- An identifier that is no dots is one segment, and can be read back from it. -/
  segment : ∀ identifier, identifier ≠ "." → identifier ≠ ".." →
    ∃ segment, IsSegmentOf identifier segment ∧
      ∀ sent, (connection.send (.identity identifier)).2 = .ok sent →
        sent.path.toList = front ++ "sdk/identities/".toList ++ segment
  /-- Where the state can be asked for, so can every identifier that is short enough. -/
  goesOut : ∀ identifier state, (connection.send .state).2 = .ok state → Fits settings identifier →
    ∃ path, (connection.send (.identity identifier)).2 = .ok { state with path }
  distinct : ∀ first second one other, (connection.send (.identity first)).2 = .ok one →
    (connection.send (.identity second)).2 = .ok other → one.path = other.path → first = second
  apart : ∀ identifier sent state, (connection.send (.identity identifier)).2 = .ok sent →
    (connection.send .state).2 = .ok state → sent.path ≠ state.path
  /-- Dots are carried out, and lead above the path of identities. -/
  dot : Url.HostOnly settings → ∀ sent, (connection.send (.identity ".")).2 = .ok sent →
    sent.path = "/sdk/identities"
  dots : Url.HostOnly settings → ∀ sent, (connection.send (.identity "..")).2 = .ok sent →
    sent.path = "/sdk"

theorem exists_target (settings : Settings) :
    ∃ target, (Url.HostOnly settings → target = ['/']) ∧
      ∀ base, Url.ofSettings settings = .ok base → base.target = target := by
  cases read : Url.ofSettings settings with
  | error fault => exact ⟨['/'], fun _ => rfl, fun base none => by cases none⟩
  | ok base =>
      refine ⟨base.target, fun hostOnly => Url.target_of_ofSettings hostOnly read, ?_⟩
      rintro other same
      cases same
      rfl

/-- All paths of a connection stand behind one front. -/
theorem Used.exists_ending (used : Used .usual settings connection) :
    ∃ front ending, Endings ending ∧
      (Url.HostOnly settings → front = ['/'] ∧ ending = settled) ∧
      (∀ sent, (connection.send .state).2 = .ok sent →
        sent.path.toList = front ++ "sdk/initialize".toList) ∧
      ∀ identifier sent, (connection.send (.identity identifier)).2 = .ok sent →
        sent.path.toList = front ++ ending (segmentOf identifier) := by
  obtain ⟨target, slash, known⟩ := exists_target settings
  obtain ⟨front, ending, endings, ending_eq, stated, identified⟩ := Url.exists_front target
  have addressed : ∀ resource sent, (connection.send resource).2 = .ok sent →
      sent.path.toList = Url.normalTarget (target ++ behindSlash resource) := by
    intro resource sent ok
    obtain ⟨base, read, path⟩ := used.path_of_sent ok
    rw [path, known base read]
  refine ⟨front, ending, endings, fun hostOnly => ?_,
    fun sent ok => (addressed .state sent ok).trans stated,
    fun identifier sent ok => (addressed _ sent ok).trans (identified identifier)⟩
  rw [slash hostOnly] at stated ending_eq
  have plain : Url.normalTarget (['/'] ++ "sdk/initialize".toList) =
      ['/'] ++ "sdk/initialize".toList := by decide
  exact ⟨List.append_cancel_right (stated.symm.trans plain), ending_eq (by decide)⟩

theorem identifiers_addressed (used : Used .usual settings connection) :
    ∃ front, Addresses settings connection front := by
  obtain ⟨front, ending, endings, plain, state, identity⟩ := used.exists_ending
  have carried : Url.HostOnly settings → ∀ identifier sent,
      (connection.send (.identity identifier)).2 = .ok sent →
        sent.path.toList = ['/'] ++ settled (segmentOf identifier) := by
    intro hostOnly identifier sent ok
    rw [identity identifier sent ok, (plain hostOnly).1, (plain hostOnly).2]
  refine ⟨front, fun hostOnly => (plain hostOnly).1, state, ?_, ?_, ?_, ?_, ?_, ?_⟩
  · intro identifier one two
    refine ⟨segmentOf identifier, isSegmentOf_segmentOf identifier, fun sent ok => ?_⟩
    have ordinary := endings.ordinary (segmentOf identifier)
      (fun same => one (segmentOf_injective same)) (fun same => two (segmentOf_injective same))
    rw [identity identifier sent ok, ordinary, List.append_assoc]
  · intro identifier sent ok fits
    exact used.sent_of_sent ok fits
  · intro first second one other sentOne sentOther same
    have paths := congrArg String.toList same
    rw [identity first one sentOne, identity second other sentOther] at paths
    exact segmentOf_injective (endings.distinct _ _ (List.append_cancel_left paths))
  · intro identifier sent base sentOne sentState same
    have paths := congrArg String.toList same
    rw [identity identifier sent sentOne, state base sentState] at paths
    exact endings.apart _ (List.append_cancel_left paths)
  · intro hostOnly sent ok
    exact String.toList_inj.1 ((carried hostOnly "." sent ok).trans (by decide))
  · intro hostOnly sent ok
    exact String.toList_inj.1 ((carried hostOnly ".." sent ok).trans (by decide))

def keyOnly : Settings :=
  ⟨"key", Settings.defaultHost, Settings.defaultPort, .https, Settings.defaultTimeout⟩

def reopenable : Connection :=
  ((new keyOnly).send (.identity "ada")).1.close.1

theorem identifiers_addressed_reopened :
    Used .usual keyOnly reopenable ∧ (∃ front, Addresses keyOnly reopenable front) ∧
      Fits keyOnly "../a?é" ∧
      (reopenable.send .state).2.toOption.map (·.path) = some "/sdk/initialize" ∧
      (reopenable.send (.identity "../a?é")).2.toOption.map (·.path) =
        some "/sdk/identities/..%2Fa%3F%C3%A9" := by
  have used : Used .usual keyOnly reopenable := .closed (.sent .new (.identity "ada"))
  have hostOnly : Url.HostOnly keyOnly := by
    have all : keyOnly.host.toList.all (fun c => c != '/' && c != '?' && c != '#') = true := by
      decide
    intro c member
    simpa [and_assoc] using List.all_eq_true.1 all c member
  exact ⟨used, identifiers_addressed used, fits_of_hostOnly hostOnly (by decide +kernel),
    by decide +kernel, by decide +kernel⟩

/-- The identifier `.` has no segment of its own. -/
theorem dot_without_segment :
    ∃ sent, ((new keyOnly).send (.identity ".")).2 = .ok sent ∧
      ¬ ∃ segment, segment ≠ [] ∧
        sent.path.toList = "/sdk/identities/".toList ++ segment := by
  have path : ((new keyOnly).send (.identity ".")).2.toOption.map (·.path) =
      some "/sdk/identities" := by decide +kernel
  cases ok : ((new keyOnly).send (.identity ".")).2 with
  | error error =>
      rw [ok] at path
      cases path
  | ok sent =>
      rw [ok] at path
      refine ⟨sent, rfl, ?_⟩
      rintro ⟨segment, _, whole⟩
      have same : sent.path = "/sdk/identities" := Option.some.inj path
      rw [same] at whole
      exact absurd (congrArg List.length whole) (by simp)

end FeatureFlags.Http.Connection
