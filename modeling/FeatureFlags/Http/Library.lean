import FeatureFlags.Error
import FeatureFlags.Http.Url
import FeatureFlags.Json.Reader

/-!
# What requests are sent with

The library under a connection reads URLs, names hosts and reads JSON.  Each of these can fail in a
way of its own.  The usual library reads URLs as `Url` does; it escapes a text character by
character, so a surrogate in one is told as if it stood alone.
-/

set_option autoImplicit false

namespace FeatureFlags.Http

structure Library where
  /-- The URL that request paths are appended to. -/
  base : Settings → Except Foreign Url
  /-- The URL with a request path behind its target. -/
  append : List Char → Url → Except Foreign Url
  /-- Host and port as they are sent; none if the URL has no host. -/
  host : Url → Except Foreign (Option String)
  /-- How deep the arrays and objects of a body may be nested. -/
  nesting : Nat

def refusal (fault : UrlFault) : Foreign :=
  .invalidUrl fault.message

def checkAscii (text : List Char) : Except Foreign Unit :=
  let before := text.takeWhile (·.toNat < 128)
  match text.drop before.length with
  | [] => .ok ()
  | first :: rest =>
      .error
        (.notAscii first.toNat before.length ((rest.takeWhile (128 ≤ ·.toNat)).length + 1))

namespace Url

/-- Why there is no base URL with a broken host.  Of its parts the user is escaped first, then host
and port are read, and the rest is escaped last. -/
def refuseBroken (protocol : Protocol) (host : Text.Broken) (port : Nat) : Foreign :=
  let place := host.shown ++ ':' :: (toString port).toList
  let user := (splitAuthority (takeAuthority place)).1
  let unescaped : Foreign := .notAscii ((host.points.find? Text.isSurrogate).getD 0) 0 1
  let isUserBroken := (host.points.take user.length).any Text.isSurrogate
  match ofText protocol place with
  | .ok _ => unescaped
  | .error (.host fault) => if isUserBroken then unescaped else refusal (.host fault)
  | .error (.port text) => if isUserBroken then unescaped else refusal (.port text)
  | .error fault => refusal fault

def base (settings : Settings) : Except Foreign Url :=
  match settings.host with
  | .whole _ => (ofSettings settings).mapError refusal
  | .broken host => .error (refuseBroken settings.protocol host settings.port)

/-- A host whose first label is encoded has to be a name that can be decoded. -/
def sentHost (url : Url) : Except Foreign (Option String) := do
  if url.host.isEmpty then return none
  if Hostname.mark.isPrefixOf url.host then
    if let .error fault := Hostname.decode url.host then throw (.hostname fault)
  checkAscii url.place
  return some (String.ofList url.place)

end Url

def Library.usual : Library where
  base := Url.base
  append path url := (url.append path).mapError refusal
  host := Url.sentHost
  nesting := Json.usualNesting

end FeatureFlags.Http
