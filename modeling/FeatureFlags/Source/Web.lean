import FeatureFlags.Http.Connection

/-!
# A source on the web

Requests go through a connection to a server whose replies stand by path.  Whoever asks for an
identity may give a broken identifier, of which no path can be made.
-/

set_option autoImplicit false

namespace FeatureFlags

structure Web where
  connection : Http.Connection
  replies : List (String × Http.Reply)
  /-- The requests sent, in this order. -/
  sent : List Http.Request

namespace Web

def new (settings : Settings) : Web :=
  ⟨.new settings, [], []⟩

def notFound : Http.Reply :=
  .response ⟨404, Text.Utf8.encode ['\x7b', '\x7d']⟩

def setReply (path : String) (reply : Http.Reply) (web : Web) : Web :=
  { web with replies := (path, reply) :: web.replies }

def fetch (resource : Resource) (web : Web) : Web × Except Error Value :=
  match web.connection.send resource with
  | (connection, .error error) => ({ web with connection := connection }, .error error)
  | (connection, .ok request) =>
      let reply := (web.replies.lookup request.path).getD notFound
      ({ web with connection := connection, sent := web.sent ++ [request] },
        (reply.membersWithin connection.library.nesting resource
          connection.settings.timeout).map .object)

inductive Asked where
  | state
  | identity (identifier : Text.Raw)
  deriving DecidableEq, Repr

def Asked.resource : Asked → Except Foreign Resource
  | .state => .ok .state
  | .identity (.whole identifier) => .ok (.identity identifier)
  | .identity (.broken identifier) => .error identifier.unencodable

def ask (asked : Asked) (web : Web) : Web × Except Error Value :=
  match asked.resource with
  | .ok resource => web.fetch resource
  | .error failure => (web, .error (.foreign failure))

end Web

end FeatureFlags
