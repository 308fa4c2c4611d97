/-!
# Blank characters

`isSpace` is the white space of all scripts; `isBlank` adds the four ASCII separators `U+001C` to
`U+001F`.  `trimBy` takes a class of characters from the two ends of a text.
-/

set_option autoImplicit false

namespace FeatureFlags.Text

def isSpace (c : Char) : Bool :=
  let code := c.toNat
  (9 ≤ code && code ≤ 13) || code == 0x20 || code == 0x85 || code == 0xA0 || code == 0x1680 ||
    (0x2000 ≤ code && code ≤ 0x200A) || code == 0x2028 || code == 0x2029 || code == 0x202F ||
    code == 0x205F || code == 0x3000

def isBlank (c : Char) : Bool :=
  isSpace c || (0x1C ≤ c.toNat && c.toNat ≤ 0x1F)

/-- Drops the characters of a class from both ends. -/
def trimBy (drops : Char → Bool) (text : List Char) : List Char :=
  ((text.dropWhile drops).reverse.dropWhile drops).reverse

def trim (text : List Char) : List Char :=
  trimBy isBlank text

end FeatureFlags.Text
