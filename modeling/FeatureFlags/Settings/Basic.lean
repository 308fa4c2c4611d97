import FeatureFlags.Double.Basic
import FeatureFlags.Text.Raw

/-!
# Settings of a client

Where the flag server is, how to speak to it, and how long to wait for it.  A host may be a broken
text, which only shows when it is used.
-/

set_option autoImplicit false

namespace FeatureFlags

inductive Protocol where
  | http
  | https
  deriving DecidableEq, Repr

def Protocol.name : Protocol → String
  | .http => "http"
  | .https => "https"

structure Settings where
  apiKey : String
  host : Text.Raw
  port : Nat
  protocol : Protocol
  /-- In milliseconds. -/
  timeout : Nat
  deriving DecidableEq, Repr

namespace Settings

def defaultHost : Text.Raw := .whole "api.switcherlabs.com"

def defaultPort : Nat := 443

def defaultTimeout : Nat := 60000

def maxPort : Nat := 65535

def place (settings : Settings) : String :=
  settings.host ++ ":" ++ toString settings.port

/-- The URL that request paths are appended to, as far as it can be shown. -/
def baseUrl (settings : Settings) : String :=
  settings.protocol.name ++ "://" ++ settings.place

/-- The timeout in seconds; none if no finite double comes near it. -/
def timeoutSeconds? (settings : Settings) : Option Double :=
  Double.ofQuotient? settings.timeout 1000

end Settings

end FeatureFlags
