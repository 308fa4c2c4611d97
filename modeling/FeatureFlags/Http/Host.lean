import FeatureFlags.Hostname.Basic
import FeatureFlags.Http.Path
import FeatureFlags.Text.Lowercase

/-!
# Hosts of URLs

A host is an IPv4 address, an IPv6 address in brackets, or a name.  Names are written in small
letters with ASCII characters only.
-/

set_option autoImplicit false

namespace FeatureFlags.Http.Host

inductive Fault where
  | ipv4 (host : String)
  | ipv6 (host : String)
  | name (host : String)
  deriving DecidableEq, Repr

def Fault.message : Fault → String
  | .ipv4 host => "Invalid IPv4 address: " ++ Text.quoted host
  | .ipv6 host => "Invalid IPv6 address: " ++ Text.quoted host
  | .name host => "Invalid IDNA hostname: " ++ Text.quoted host

/-- Four groups of digits with dots between them. -/
def looksIpv4 (host : List Char) : Bool :=
  let groups := Hostname.splitOn (· == '.') host
  groups.length == 4 && groups.all fun group =>
    !group.isEmpty && group.all fun c => (Text.asciiDigit? c).isSome

/-- A number below 256 without leading zeros. -/
def isOctet (text : List Char) : Bool :=
  !text.isEmpty && text.length ≤ 3 && text.all (fun c => (Text.asciiDigit? c).isSome) &&
    (text.length == 1 || text.head? != some '0') &&
    Text.digitsValue (text.filterMap Text.asciiDigit?) < 256

def isIpv4 (text : List Char) : Bool :=
  let octets := Hostname.splitOn (· == '.') text
  octets.length == 4 && octets.all isOctet

/-- Up to four hexadecimal digits. -/
def isGroup (text : List Char) : Bool :=
  !text.isEmpty && text.length ≤ 4 && text.all fun c => (Text.hexDigit? c).isSome

/-- Eight groups between colons, or fewer with one gap; the last two may be an IPv4 address. -/
def isIpv6Groups (groups : List (List Char)) : Bool :=
  let inner := groups.drop 1 |>.dropLast
  let gaps := inner.countP List.isEmpty
  let filled := groups.filter (!·.isEmpty)
  let edgesFit (first last : List Char) : Bool :=
    (!first.isEmpty || (groups[1]?.any List.isEmpty)) &&
      (!last.isEmpty || (groups[groups.length - 2]?.any List.isEmpty))
  match groups.head?, groups.getLast? with
  | some first, some last =>
      filled.all isGroup && edgesFit first last && 3 ≤ groups.length &&
        ((gaps == 0 && filled.length == 8 && groups.length == 8) ||
          (gaps == 1 && filled.length ≤ 7) ||
          (groups.length == 3 && groups.all List.isEmpty))
  | _, _ => false

/-- An IPv6 address, with an optional scope behind `%`. -/
def isIpv6 (text : List Char) : Bool :=
  let address := text.takeWhile (· != '%')
  let scope := text.drop address.length
  let scopeFits := scope.isEmpty || (1 < scope.length && !(scope.drop 1).contains '%')
  let groups := Hostname.splitOn (· == ':') address
  let last := groups.getLast?.getD []
  let expanded :=
    if last.contains '.' then
      if isIpv4 last then groups.dropLast ++ [['0'], ['0']] else [[]]
    else groups
  scopeFits && isIpv6Groups expanded

/-- The characters that a name keeps besides the unreserved ones. -/
def isNameChar (c : Char) : Bool :=
  isUnreserved c || "!$&'()*+,;=\"`\x7b\x7d%|\\".toList.contains c

/-- The host as it is sent, an IPv6 address without its brackets. -/
def normal (host : List Char) : Except Fault (List Char) :=
  let text := String.ofList host
  if looksIpv4 host then if isIpv4 host then .ok host else .error (.ipv4 text)
  else if host.head? == some '[' && host.getLast? == some ']' && 2 ≤ host.length then
    let address := host.drop 1 |>.dropLast
    if isIpv6 address then .ok address else .error (.ipv6 text)
  else if Hostname.isAscii host then .ok (escapeRest isNameChar (host.map Char.toLower))
  else (Hostname.encode (Text.lowercase host)).mapError fun _ => .name text

end FeatureFlags.Http.Host
