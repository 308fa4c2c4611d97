import FeatureFlags.Http.Host
import FeatureFlags.Http.Port

/-!
# URLs

A URL is read into parts, each in its normal form: the host as it is sent, a path without dot
segments, and all with unsuitable characters escaped.  A URL with another path is read anew from its
parts, so a host is brought into normal form once more, and parts that have grown too long are
refused.
-/

set_option autoImplicit false

namespace FeatureFlags.Http

/-- The parts of a URL whose lengths are bounded, in the order in which they are checked. -/
inductive UrlPart where
  | authority
  | path
  | query
  | fragment
  deriving DecidableEq, Repr

def UrlPart.name : UrlPart → String
  | .authority => "authority"
  | .path => "path"
  | .query => "query"
  | .fragment => "fragment"

inductive UrlFault where
  | tooLong
  | partTooLong (part : UrlPart)
  | control (c : Char) (position : Nat)
  | host (fault : Host.Fault)
  | port (text : String)
  deriving DecidableEq, Repr

def UrlFault.message : UrlFault → String
  | .tooLong => "URL too long"
  | .partTooLong part => "URL component '" ++ part.name ++ "' too long"
  | .control c position =>
      "Invalid non-printable ASCII character in URL, " ++ Text.quoted (String.singleton c) ++
        " at position " ++ toString position ++ "."
  | .host fault => fault.message
  | .port text => "Invalid port: " ++ Text.quoted text

structure Url where
  protocol : Protocol
  user : List Char
  /-- An IPv6 address stands here without brackets. -/
  host : List Char
  port : Option Int
  path : List Char
  query : Option (List Char)
  fragment : Option (List Char)
  deriving DecidableEq, Repr

namespace Url

def maxLength : Nat := 65536

/-- The first control character among ASCII, with its position. -/
def control? (text : List Char) : Option (Char × Nat) :=
  (text.zipIdx).find? fun (c, _) => c.toNat < 0x20 || c.toNat == 0x7F

/-- The visible characters of ASCII but for some. -/
def isVisibleBut (others : String) (c : Char) : Bool :=
  0x20 < c.toNat && c.toNat < 0x7F && !others.toList.contains c

def isUserChar (c : Char) : Bool :=
  isVisibleBut "\"#<>?`\x7b\x7d/;=@[\\]^|" c

def isPathChar (c : Char) : Bool :=
  isVisibleBut "\"#<>?`\x7b\x7d" c

def isQueryChar (c : Char) : Bool :=
  isVisibleBut "\"#<>" c

def isFragmentChar (c : Char) : Bool :=
  isVisibleBut "\"<>`" c

/-- The user, the host and the port of an authority.  The user ends at the last `@`. -/
def splitAuthority (authority : List Char) : List Char × List Char × List Char :=
  let place := (authority.reverse.takeWhile (· != '@')).reverse
  let user := authority.take (authority.length - place.length - 1)
  let bracketed := (place.reverse.dropWhile (· != ']')).reverse
  let host :=
    if place.head? == some '[' && !bracketed.isEmpty then bracketed
    else place.takeWhile (· != ':')
  let rest := place.drop host.length
  (user, host, if rest.head? == some ':' then rest.drop 1 else rest)

def ofParts (protocol : Protocol) (authority path : List Char)
    (query fragment : Option (List Char)) : Except UrlFault Url := do
  let (user, hostText, portText) := splitAuthority authority
  let host ← (Host.normal hostText).mapError .host
  let port ← (Port.normal protocol portText).mapError .port
  return {
    protocol
    user := escapeRest isUserChar user
    host
    port
    path := escapeRest isPathChar (removeDots path)
    query := query.map (escapeRest isQueryChar)
    fragment := fragment.map (escapeRest isFragmentChar) }

def takeAuthority (rest : List Char) : List Char :=
  rest.takeWhile fun c => !(['/', '?', '#'].contains c)

/-- A text up to a mark, and what follows the mark if it is there. -/
def splitAt (mark : Char) (text : List Char) : List Char × Option (List Char) :=
  let head := text.takeWhile (· != mark)
  (head, if head.length < text.length then some (text.drop (head.length + 1)) else none)

/-- The URL that a protocol and a text behind `://` make. -/
def ofText (protocol : Protocol) (rest : List Char) : Except UrlFault Url := do
  let url := (protocol.name ++ "://").toList ++ rest
  if maxLength < url.length then throw .tooLong
  if let some (c, position) := control? url then throw (.control c position)
  let authority := takeAuthority rest
  let (target, fragment) := splitAt '#' (rest.drop authority.length)
  let (path, query) := splitAt '?' target
  ofParts protocol authority path query fragment

/-- A host with its port; a host with colons is put into brackets. -/
def place (url : Url) : List Char :=
  (if url.host.contains ':' then ['['] ++ url.host ++ [']'] else url.host) ++
    (url.port.map fun port => ':' :: (toString port).toList).getD []

def authority (url : Url) : List Char :=
  (if url.user.isEmpty then [] else url.user ++ ['@']) ++ url.place

/-- What is asked of the server: the path, which is never empty, and the query. -/
def target (url : Url) : List Char :=
  (if url.path.isEmpty then ['/'] else url.path) ++
    (url.query.map fun query => '?' :: query).getD []

def withTarget (target : List Char) (url : Url) : Except UrlFault Url := do
  let (path, query) := splitAt '?' target
  let parts := [(UrlPart.authority, url.authority), (.path, path), (.query, query.getD []),
    (.fragment, url.fragment.getD [])]
  if let some (part, _) := parts.find? fun (_, text) => maxLength < text.length then
    throw (.partTooLong part)
  ofParts url.protocol url.authority path query url.fragment

/-- The URL that request paths are appended to: its target ends in a slash. -/
def ofSettings (settings : Settings) : Except UrlFault Url := do
  let url ← ofText settings.protocol settings.place.toList
  if url.target.getLast? == some '/' then return url
  else url.withTarget (url.target ++ ['/'])

def append (path : List Char) (url : Url) : Except UrlFault Url :=
  if maxLength < path.length then .error .tooLong
  else url.withTarget (url.target ++ path.dropWhile (· == '/'))

end Url

end FeatureFlags.Http
