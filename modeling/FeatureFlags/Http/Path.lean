import FeatureFlags.Text.Utf8

/-!
# Request paths

An identifier becomes one path segment: its UTF-8 bytes, of which only unreserved characters stand
for themselves.  `removeDots` carries out `.` and `..` segments, which is why an identifier of one
or two dots does not stay a segment.
-/

set_option autoImplicit false

namespace FeatureFlags.Http

/-- Letters, digits, `-`, `.`, `_` and `~`. -/
def isUnreserved (c : Char) : Bool :=
  c.isAlphanum || c == '-' || c == '.' || c == '_' || c == '~'

def escapeByte (byte : UInt8) : List Char :=
  '%' :: (Text.hexDigits 2 byte.toNat).map Char.toUpper

/-- The bytes of the characters outside a class, escaped. -/
def escape (keeps : Char → Bool) (text : List Char) : List Char :=
  text.flatMap fun c => if keeps c then [c] else (Text.Utf8.encodeChar c).flatMap escapeByte

/-- Escapes what is outside a class, except in escapes that are there already. -/
def escapeRest (keeps : Char → Bool) : List Char → List Char
  | '%' :: a :: b :: rest =>
      if (Text.hexDigit? a).isSome && (Text.hexDigit? b).isSome then
        '%' :: a :: b :: escapeRest keeps rest
      else escape keeps ['%'] ++ escapeRest keeps (a :: b :: rest)
  | c :: rest => escape keeps [c] ++ escapeRest keeps rest
  | [] => []

def segments (path : List Char) : List (List Char) :=
  path.foldr (fun c parts =>
    match parts with
    | part :: rest => if c == '/' then [] :: part :: rest else (c :: part) :: rest
    | [] => [[c]]) [[]]

/-- Carries out the dots among segments; `done` holds the segments before them in reverse. -/
def removeDotsFrom : (done : List (List Char)) → List (List Char) → List (List Char)
  | done, [] => done.reverse
  | done, ['.'] :: rest => removeDotsFrom done rest
  | done, ['.', '.'] :: rest =>
      removeDotsFrom (if done == [[]] then done else done.tail) rest
  | done, segment :: rest => removeDotsFrom (segment :: done) rest

def removeDots (path : List Char) : List Char :=
  ['/'].intercalate (removeDotsFrom [] (segments path))

def statePath : List Char :=
  "/sdk/initialize".toList

def identityPath (identifier : String) : List Char :=
  "/sdk/identities/".toList ++ escape isUnreserved identifier.toList

end FeatureFlags.Http
