import FeatureFlags.Http.Library
import FeatureFlags.Http.Reply
import FeatureFlags.Text.Base64

/-!
# Sending requests

A connection opens a client on first use and again after it was closed.  What can fail before a
request is sent fails with the failure of the timeout or of the library.
-/

set_option autoImplicit false

namespace FeatureFlags.Http

structure Request where
  protocol : Protocol
  /-- Host and port; none if the URL has no host. -/
  host : Option String
  path : String
  authorization : String
  /-- In seconds. -/
  timeout : Double

namespace Request

def method : String := "GET"

def contentType : String := "application/json"

def userAgent (interpreter : String) : String :=
  "k1s0-switcherlabs-python/0.1.0 python/" ++ interpreter

def headers (interpreter : String) (request : Request) : List (String × String) :=
  [("authorization", request.authorization), ("accept", contentType),
    ("content-type", contentType), ("user-agent", userAgent interpreter)]

end Request

structure Client where
  url : Url
  timeout : Double

inductive ClientState where
  | unused
  | opened (client : Client)
  | closed

structure Connection where
  settings : Settings
  client : ClientState
  /-- How many clients there have been, those with an unusable URL among them. -/
  clients : Nat
  library : Library

namespace Connection

def through (library : Library) (settings : Settings) : Connection :=
  ⟨settings, .unused, 0, library⟩

def new (settings : Settings) : Connection :=
  .through .usual settings

/-- The credentials of an API key: it is the password of a nameless user. -/
def authorization (apiKey : String) : String :=
  "Basic " ++ String.ofList (Text.Base64.encode (Text.Utf8.encode (':' :: apiKey.toList)))

def ensureOpen (connection : Connection) : Connection × Except Foreign Client :=
  match connection.client with
  | .opened client => (connection, .ok client)
  | .unused | .closed =>
      match connection.settings.timeoutSeconds? with
      | none => (connection, .error .quotientTooLarge)
      | some timeout =>
          let counted := { connection with clients := connection.clients + 1 }
          match connection.library.base connection.settings with
          | .ok url => ({ counted with client := .opened ⟨url, timeout⟩ }, .ok ⟨url, timeout⟩)
          | .error failure => (counted, .error failure)

def path : Resource → List Char
  | .state => statePath
  | .identity identifier => identityPath identifier

def request (library : Library) (settings : Settings) (client : Client) (resource : Resource) :
    Except Foreign Request := do
  let url ← library.append (path resource) client.url
  return ⟨url.protocol, ← library.host url, String.ofList url.target,
    authorization settings.apiKey, client.timeout⟩

def send (resource : Resource) (connection : Connection) : Connection × Except Error Request :=
  match connection.ensureOpen with
  | (opened, .ok client) =>
      (opened, (request connection.library connection.settings client resource).mapError .foreign)
  | (unopened, .error failure) => (unopened, .error (.foreign failure))

/-- Closes the client; whether there has been one to close. -/
def close (connection : Connection) : Connection × Bool :=
  match connection.client with
  | .unused => (connection, false)
  | .opened _ | .closed => ({ connection with client := .closed }, true)

end Connection

end FeatureFlags.Http
