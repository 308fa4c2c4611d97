import FeatureFlags.Yaml.Token.Basic

/-!
# Scalars of a YAML text

Quoted, block and plain scalars.  A line break inside a scalar folds: a single one becomes a space,
and further ones stay.  Loops are bounded by the length of the text that is left.
-/

set_option autoImplicit false

namespace FeatureFlags.Yaml

/-- The text that a line break and the empty lines after it leave when they fold. -/
def foldBreaks (first : Char) (others : List Char) : List Char :=
  if first != '\n' then first :: others
  else if others.isEmpty then [' ']
  else others

/-! ## Quoted scalars -/

def simpleEscape? : Char → Option Char
  | '0' => some '\x00'
  | 'a' => some '\x07'
  | 'b' => some '\x08'
  | 't' => some '\t'
  | '\t' => some '\t'
  | 'n' => some '\n'
  | 'v' => some '\x0b'
  | 'f' => some '\x0c'
  | 'r' => some '\r'
  | 'e' => some '\x1b'
  | ' ' => some ' '
  | '"' => some '"'
  | '\\' => some '\\'
  | '/' => some '/'
  | 'N' => some '\x85'
  | '_' => some '\xa0'
  | 'L' => some '\u2028'
  | 'P' => some '\u2029'
  | _ => none

/-- How many hexadecimal digits follow the letter of an escape. -/
def escapeWidth? : Char → Option Nat
  | 'x' => some 2
  | 'u' => some 4
  | 'U' => some 8
  | _ => none

def escapedPoint (code : Nat) : Except Fault Nat :=
  if code < 0x110000 then .ok code
  else if code < 0x80000000 then .error (.scalar .codePoint)
  else .error (.scalar .codeTooLarge)

/-- The empty lines that go on after a line break; no document may end among them. -/
def readQuotedBreaks : Nat → Cursor → Except Fault (List Char × Cursor)
  | 0, _ => .error .malformed
  | fuel + 1, cursor =>
      if cursor.atSeparator then .error .malformed
      else
        let after := cursor.skip fun c => c == ' ' || c == '\t'
        match after.lineBreak? with
        | none => .ok ([], after)
        | some (ending, next) => do
            let (others, final) ← readQuotedBreaks fuel next
            return (ending :: others, final)

/-- Blanks between the words of a quoted scalar, folded when they hold a line break. -/
def readQuotedSpaces (cursor : Cursor) : Except Fault (List Char × Cursor) :=
  let (blanks, after) := cursor.run fun c => c == ' ' || c == '\t'
  match after.peek with
  | none => .error .malformed
  | some _ =>
      match after.lineBreak? with
      | none => .ok (blanks, after)
      | some (ending, next) => do
          let (others, final) ← readQuotedBreaks (next.rest.length + 1) next
          return (foldBreaks ending others, final)

/-- One escape of a double-quoted scalar, from behind its backslash, with the code points that it
stands for. -/
def readEscape (cursor : Cursor) : Except Fault (List Nat × Cursor) :=
  match cursor.peek with
  | none => .error .malformed
  | some letter =>
      match simpleEscape? letter, escapeWidth? letter with
      | some c, _ => .ok ([c.toNat], cursor.next)
      | none, some width =>
          let digits := (cursor.next.rest.take width).filterMap Text.hexDigit?
          if digits.length < width then .error .malformed
          else do
            let point ← escapedPoint (digits.foldl (fun code digit => code * 16 + digit) 0)
            return ([point], cursor.forward (width + 1))
      | none, none =>
          match cursor.lineBreak? with
          | some (_, next) => do
              let (breaks, after) ← readQuotedBreaks (next.rest.length + 1) next
              return (breaks.map Char.toNat, after)
          | none => .error .malformed

/-- The code points inside a quoted scalar, up to and including the closing quote. -/
def readQuotedFrom (quote : Char) : Nat → Cursor → Except Fault (List Nat × Cursor)
  | 0, _ => .error .malformed
  | fuel + 1, cursor =>
      match cursor.rest with
      | [] => .error .malformed
      | c :: rest =>
          if c == quote then
            if quote == '\'' && rest.head? == some '\'' then do
              let (more, final) ← readQuotedFrom quote fuel (cursor.forward 2)
              return ('\''.toNat :: more, final)
            else .ok ([], cursor.next)
          else if c == '\\' && quote == '"' then do
            let (points, after) ← readEscape cursor.next
            let (more, final) ← readQuotedFrom quote fuel after
            return (points ++ more, final)
          else if endsToken (some c) then do
            let (text, after) ← readQuotedSpaces cursor
            let (more, final) ← readQuotedFrom quote fuel after
            return (text.map Char.toNat ++ more, final)
          else do
            let (more, final) ← readQuotedFrom quote fuel cursor.next
            return (c.toNat :: more, final)

def readQuoted (quote : Char) (cursor : Cursor) : Except Fault (Token × Cursor) := do
  let (points, after) ← readQuotedFrom quote (cursor.rest.length + 1) cursor.next
  match Text.Raw.ofPoints points with
  | .whole text => return (.scalar text.toList false, after)
  | .broken text => return (.broken text, after)

/-! ## Block scalars -/

/-- What becomes of the line breaks that end a block scalar. -/
inductive Chomping where
  | clip
  | keep
  | strip
  deriving DecidableEq

def readChomping (cursor : Cursor) : Chomping × Cursor :=
  match cursor.peek with
  | some '+' => (.keep, cursor.next)
  | some '-' => (.strip, cursor.next)
  | _ => (.clip, cursor)

/-- The digit that gives the indentation of a block scalar outright. -/
def readIncrement (cursor : Cursor) : Except Fault (Option Nat × Cursor) :=
  match cursor.peek.bind Text.asciiDigit? with
  | none => .ok (none, cursor)
  | some 0 => .error .malformed
  | some digit => .ok (some digit, cursor.next)

def readBlockHeader (cursor : Cursor) : Except Fault (Chomping × Option Nat × Cursor) := do
  let (early, behind) := readChomping cursor
  let (increment, after) ← readIncrement behind
  let (late, final) :=
    if early == .clip && increment.isSome then readChomping after else (.clip, after)
  if endsWord final.peek then
    return (if early == .clip then late else early, increment, ← final.endOfLine)
  else .error .malformed

def skipIndent (indent : Nat) : Nat → Cursor → Cursor
  | 0, cursor => cursor
  | fuel + 1, cursor =>
      if cursor.column < indent && cursor.peek == some ' ' then skipIndent indent fuel cursor.next
      else cursor

/-- The empty lines before a line of a block scalar, and its indentation up to a column. -/
def readBlockBreaks (indent : Nat) : Nat → Cursor → List Char × Cursor
  | 0, cursor => ([], cursor)
  | fuel + 1, cursor =>
      let after := skipIndent indent indent cursor
      match after.lineBreak? with
      | none => ([], after)
      | some (ending, next) =>
          let (others, final) := readBlockBreaks indent fuel next
          (ending :: others, final)

/-- The empty lines at the head of a block scalar and the greatest indentation among them. -/
def readBlockIndent : Nat → Nat → Cursor → List Char × Nat × Cursor
  | 0, widest, cursor => ([], widest, cursor)
  | fuel + 1, widest, cursor =>
      if cursor.peek == some ' ' then
        readBlockIndent fuel (max widest cursor.next.column) cursor.next
      else
        match cursor.lineBreak? with
        | none => ([], widest, cursor)
        | some (ending, next) =>
            let (others, indent, final) := readBlockIndent fuel widest next
            (ending :: others, indent, final)

def startsIndented (cursor : Cursor) : Bool :=
  cursor.peek == some ' ' || cursor.peek == some '\t'

/-- The lines of a block scalar; the result keeps apart the text, the last line break and the empty
lines behind it. -/
def readBlockLines (folded : Bool) (indent : Nat) :
    Nat → List Char → Cursor → List Char × List Char × List Char × Cursor
  | 0, breaks, cursor => ([], [], breaks, cursor)
  | fuel + 1, breaks, cursor =>
      if cursor.column != indent || cursor.peek.isNone then ([], [], breaks, cursor)
      else
        let indented := startsIndented cursor
        let (line, behind) := cursor.run (!isBreak ·)
        let (ending, next) := match behind.lineBreak? with
          | some (c, after) => ([c], after)
          | none => ([], behind)
        let (others, after) := readBlockBreaks indent (next.rest.length + 1) next
        if after.column == indent && after.peek.isSome then
          let joint :=
            if folded && ending == ['\n'] && !indented && !startsIndented after then
              if others.isEmpty then [' '] else []
            else ending
          let (text, lastBreak, tail, final) := readBlockLines folded indent fuel others after
          (breaks ++ line ++ joint ++ text, lastBreak, tail, final)
        else (breaks ++ line, ending, others, after)

/-- A block scalar; `parent` is the indentation of the block around it. -/
def readBlock (folded : Bool) (parent : Int) (cursor : Cursor) : Except Fault (Token × Cursor) := do
  let (chomping, increment, start) ← readBlockHeader cursor.next
  let least := max 1 (parent + 1).toNat
  let (breaks, indent, after) := match increment with
    | none =>
        let (breaks, widest, after) := readBlockIndent (start.rest.length + 1) 0 start
        (breaks, max least widest, after)
    | some digit =>
        let indent := least + digit - 1
        let (breaks, after) := readBlockBreaks indent (start.rest.length + 1) start
        (breaks, indent, after)
  let (text, lastBreak, tail, final) :=
    readBlockLines folded indent (after.rest.length + 1) breaks after
  let closing := match chomping with
    | .strip => []
    | .clip => lastBreak
    | .keep => lastBreak ++ tail
  return (.scalar (text ++ closing) false, final)

/-! ## Plain scalars -/

/-- Whether a plain scalar ends before a character, given what follows it. -/
def endsPlain (flow : Bool) (c : Char) (rest : List Char) : Bool :=
  endsToken (some c) ||
    (c == ':' && (endsToken rest.head? ||
      (flow && rest.head?.any (",[]\x7b\x7d".toList.contains ·)))) ||
    (flow && ",?[]\x7b\x7d".toList.contains c)

def plainWordLength (flow : Bool) : List Char → Nat
  | [] => 0
  | c :: rest => if endsPlain flow c rest then 0 else plainWordLength flow rest + 1

/-- Further empty lines inside a plain scalar; gives nothing when a document ends among them. -/
def readPlainBreaks : Nat → Cursor → Option (List Char) × Cursor
  | 0, cursor => (some [], cursor)
  | fuel + 1, cursor =>
      let after := cursor.skipSpaces
      match after.lineBreak? with
      | none => (some [], after)
      | some (ending, next) =>
          if next.atSeparator then (none, next)
          else
            let (others, final) := readPlainBreaks fuel next
            (others.map (ending :: ·), final)

/-- The space between two words of a plain scalar, the cursor behind it, and whether a line was
passed. -/
def readPlainSpaces (cursor : Cursor) : List Char × Cursor × Bool :=
  let (spaces, after) := cursor.run (· == ' ')
  match after.lineBreak? with
  | none => (spaces, after, false)
  | some (ending, next) =>
      if next.atSeparator then ([], next, true)
      else
        match readPlainBreaks (next.rest.length + 1) next with
        | (none, final) => ([], final, true)
        | (some others, final) => (foldBreaks ending others, final, true)

/-- The words of a plain scalar after the given space.  The flag says whether the scalar ends at the
beginning of a line, where a key may start. -/
def readPlainFrom (flow : Bool) (indent : Int) :
    Nat → List Char → Bool → Cursor → List Char × Bool × Cursor
  | 0, _, atLine, cursor => ([], atLine, cursor)
  | fuel + 1, space, atLine, cursor =>
      let length := plainWordLength flow cursor.rest
      if cursor.peek == some '#' || length == 0 then ([], atLine, cursor)
      else
        let word := cursor.rest.take length
        let (next, after, passed) := readPlainSpaces (cursor.forward length)
        if next.isEmpty || after.peek == some '#' || (!flow && (after.column : Int) < indent) then
          (space ++ word, passed, after)
        else
          let (more, ended, final) := readPlainFrom flow indent fuel next passed after
          (space ++ word ++ more, ended, final)

/-- A plain scalar, and whether a key may start behind it. -/
def readPlain (flow : Bool) (parent : Int) (cursor : Cursor) : Token × Bool × Cursor :=
  let (text, atLine, after) :=
    readPlainFrom flow (parent + 1) (cursor.rest.length + 1) [] false cursor
  (.scalar text true, atLine, after)

end FeatureFlags.Yaml
