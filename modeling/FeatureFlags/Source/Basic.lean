import FeatureFlags.Source.Memory
import FeatureFlags.Source.Web

/-!
# Where a client fetches from
-/

set_option autoImplicit false

namespace FeatureFlags

inductive Source where
  | memory (memory : Memory)
  | web (web : Web)

namespace Source

/-- Sends a request for a resource; the reply is what the source holds at that moment. -/
def fetch (resource : Resource) : Source → Source × Except Error Value
  | .memory inner => let (after, reply) := inner.fetch resource; (.memory after, reply)
  | .web inner => let (after, reply) := inner.fetch resource; (.web after, reply)

/-- Closes the source; whether that is worth a word in the log. -/
def close : Source → Source × Bool
  | .memory inner => (.memory { inner with closings := inner.closings + 1 }, false)
  | .web inner =>
      let (connection, closed) := inner.connection.close
      (.web { inner with connection := connection }, closed)

def canHold : Source → Bool
  | .memory _ => true
  | .web _ => false

end Source

end FeatureFlags
