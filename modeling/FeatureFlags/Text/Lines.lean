/-!
# Lines

A text ends each of its lines with a break: a carriage return and a line feed together, or one of
the characters of `isLineEnd`.  What stands behind the last break is a line of its own unless it is
empty.
-/

set_option autoImplicit false

namespace FeatureFlags.Text

def isLineEnd (c : Char) : Bool :=
  let code := c.toNat
  (10 ≤ code && code ≤ 13) || (0x1C ≤ code && code ≤ 0x1E) || code == 0x85 || code == 0x2028 ||
    code == 0x2029

/-- The lines of a text behind the characters of an open line, the last one first. -/
def linesFrom : (line : List Char) → List Char → List (List Char)
  | line, [] => if line.isEmpty then [] else [line.reverse]
  | line, '\r' :: '\n' :: rest => line.reverse :: linesFrom [] rest
  | line, c :: rest =>
      if isLineEnd c then line.reverse :: linesFrom [] rest else linesFrom (c :: line) rest

def lines (text : List Char) : List (List Char) :=
  linesFrom [] text

end FeatureFlags.Text
