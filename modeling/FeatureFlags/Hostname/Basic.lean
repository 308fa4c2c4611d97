import FeatureFlags.Hostname.Label
import FeatureFlags.Hostname.Punycode

/-!
# Host names beyond ASCII

A name consists of labels between dots.  `encode` writes it in ASCII, label by label; `decode` reads
such a name.  Both check every label.
-/

set_option autoImplicit false

namespace FeatureFlags.Hostname

/-- Longest label and longest name in ASCII; a dot at the end of a name does not count. -/
def maxLabel : Nat := 63

def maxName : Nat := 253

def dots : List Char :=
  ['.', '\u3002', '\uFF0E', '\uFF61']

def mark : List Char :=
  "xn--".toList

def isAscii (text : List Char) : Bool :=
  text.all (·.toNat < 128)

def splitOn (separates : Char → Bool) (text : List Char) : List (List Char) :=
  text.foldr (fun c parts =>
    match parts with
    | part :: rest => if separates c then [] :: part :: rest else (c :: part) :: rest
    | [] => [[c]]) [[]]

/-- The labels of a name, and whether a dot ends it. -/
def labels (name : List Char) : List (List Char) × Bool :=
  let parts := splitOn dots.contains name
  if parts.getLast? == some [] then (parts.dropLast, true) else (parts, false)

def joinLabels (parts : List (List Char)) (dotted : Bool) : List Char :=
  ['.'].intercalate (if dotted then parts ++ [[]] else parts)

def decodeLabel (label : List Char) : Except Fault (List Char) := do
  let small := label.map Char.toLower
  if mark.isPrefixOf small then
    let content := small.drop mark.length
    if content.isEmpty then throw .nothingEncoded
    if content.getLast? == some '-' then throw .finalHyphen
    match Punycode.decode? content with
    | none => throw .undecodable
    | some decoded =>
        Label.check decoded
        return decoded
  else
    Label.check small
    return small

def encodeLabel (label : List Char) : Except Fault (List Char) := do
  let encoded ←
    if isAscii label then (decodeLabel label).map fun _ => label
    else (Label.check label).map fun _ => mark ++ Punycode.encode label
  if maxLabel < encoded.length then throw .labelTooLong
  return encoded

def encode (name : List Char) : Except Fault (List Char) := do
  if name.isEmpty then throw .emptyName
  if maxName + 1 < name.length then throw .nameTooLong
  let (parts, dotted) := labels name
  let encoded := joinLabels (← parts.mapM encodeLabel) dotted
  if maxName + (if dotted then 1 else 0) < encoded.length then throw .nameTooLong
  return encoded

def decode (name : List Char) : Except Fault (List Char) := do
  if name.isEmpty then throw .emptyName
  if maxName + 1 < name.length then throw .nameTooLong
  let (parts, dotted) := labels name
  return joinLabels (← parts.mapM decodeLabel) dotted

end FeatureFlags.Hostname
