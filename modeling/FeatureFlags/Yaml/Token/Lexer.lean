import FeatureFlags.Yaml.Token.Property
import FeatureFlags.Yaml.Token.Scalar

/-!
# From text to tokens

A key before a `:` is recognised only when the `:` is reached, so the lexer remembers, for each
level of flow nesting, where the last thing that could be a key began; its `key` token is inserted
there afterwards.  A possible key lies on one line and within 1024 characters.

Tokens are read on demand: `peek` reads on until the next token is certain, and no further.  A fault
in the text shows only when it is reached.
-/

set_option autoImplicit false

namespace FeatureFlags.Yaml

/-- Where something that could be a key began. -/
structure KeyPlace where
  /-- How many tokens stand before it. -/
  tokens : Nat
  /-- Nothing but a key can stand at the indentation of the block. -/
  required : Bool
  index : Nat
  line : Nat
  column : Nat

structure Lexer where
  cursor : Cursor
  /-- The tokens that have been read and not taken yet. -/
  pending : List Token
  taken : Nat
  /-- Whether the end of the text has been reached. -/
  ended : Bool
  flowLevel : Nat
  indent : Int
  outerIndents : List Int
  keyAllowed : Bool
  keys : List (Nat × KeyPlace)

namespace Lexer

def ofText (text : List Char) : Lexer :=
  ⟨.ofText text, [], 0, false, 0, -1, [], true, []⟩

def push (token : Token) (lexer : Lexer) : Lexer :=
  { lexer with pending := lexer.pending ++ [token] }

def count (lexer : Lexer) : Nat :=
  lexer.taken + lexer.pending.length

def insertAt (place : Nat) (token : Token) (lexer : Lexer) : Lexer :=
  { lexer with pending := lexer.pending.insertIdx (place - lexer.taken) token }

def forward (length : Nat) (lexer : Lexer) : Lexer :=
  { lexer with cursor := lexer.cursor.forward length }

def allowKey (allowed : Bool) (lexer : Lexer) : Lexer :=
  { lexer with keyAllowed := allowed }

def skipToToken : Nat → Lexer → Lexer
  | 0, lexer => lexer
  | fuel + 1, lexer =>
      let after := lexer.cursor.skipSpaces.skipComment
      match after.lineBreak? with
      | none => { lexer with cursor := after }
      | some (_, next) =>
          skipToToken fuel
            { lexer with cursor := next, keyAllowed := lexer.keyAllowed || lexer.flowLevel == 0 }

/-- Passes a byte-order mark at the very beginning. -/
def skipMark (lexer : Lexer) : Lexer :=
  if lexer.cursor.index == 0 && lexer.cursor.peek == some '\uFEFF' then lexer.forward 1 else lexer

/-- Forgets the possible keys that can no longer be one. -/
def dropStale (lexer : Lexer) : Except Fault Lexer :=
  let stale (place : KeyPlace) : Bool :=
    place.line != lexer.cursor.line || 1024 < lexer.cursor.index - place.index
  if lexer.keys.any fun (_, place) => stale place && place.required then .error .malformed
  else .ok { lexer with keys := lexer.keys.filter fun (_, place) => !stale place }

def dropKey (lexer : Lexer) : Except Fault Lexer :=
  match lexer.keys.lookup lexer.flowLevel with
  | some place =>
      if place.required then .error .malformed
      else .ok { lexer with keys := lexer.keys.filter (·.1 != lexer.flowLevel) }
  | none => .ok lexer

def saveKey (lexer : Lexer) : Except Fault Lexer := do
  if lexer.keyAllowed then
    let cursor := lexer.cursor
    let required := lexer.flowLevel == 0 && lexer.indent == cursor.column
    let cleared ← lexer.dropKey
    let place : KeyPlace := ⟨lexer.count, required, cursor.index, cursor.line, cursor.column⟩
    return { cleared with keys := (lexer.flowLevel, place) :: cleared.keys }
  else return lexer

/-- Closes the blocks that are indented deeper than a column. -/
def unwindTo (column : Int) : List Int → Lexer → Lexer
  | [], lexer => lexer
  | outer :: outers, lexer =>
      if column < lexer.indent then
        unwindTo column outers
          { lexer.push .blockEnd with indent := outer, outerIndents := outers }
      else lexer

def unwind (column : Int) (lexer : Lexer) : Lexer :=
  if lexer.flowLevel == 0 then unwindTo column lexer.outerIndents lexer else lexer

/-- Opens a block at a column, unless one is open there. -/
def openBlock (column : Nat) (lexer : Lexer) : Lexer × Bool :=
  if lexer.indent < column then
    ({ lexer with outerIndents := lexer.indent :: lexer.outerIndents, indent := column }, true)
  else (lexer, false)

/-- Opens a block with a token behind the tokens so far. -/
def openBlockHere (token : Token) (lexer : Lexer) : Lexer :=
  let (opened, isNew) := lexer.openBlock lexer.cursor.column
  if isNew then opened.push token else opened

/-- An indicator of the given length, after which a key may or may not begin. -/
def indicator (token : Token) (length : Nat) (keyAllowed : Bool) (lexer : Lexer) :
    Except Fault Lexer := do
  return ((← lexer.dropKey).allowKey keyAllowed |>.forward length).push token

def openFlow (token : Token) (lexer : Lexer) : Except Fault Lexer := do
  let saved ← lexer.saveKey
  return ({ saved with flowLevel := saved.flowLevel + 1, keyAllowed := true }.forward 1).push token

def closeFlow (token : Token) (lexer : Lexer) : Except Fault Lexer := do
  let cleared ← lexer.dropKey
  return ({ cleared with flowLevel := cleared.flowLevel - 1, keyAllowed := false }.forward 1).push
    token

def blockEntry (lexer : Lexer) : Except Fault Lexer :=
  if lexer.flowLevel != 0 then lexer.indicator .blockEntry 1 true
  else if lexer.keyAllowed then
    (lexer.openBlockHere .blockSequenceStart).indicator .blockEntry 1 true
  else .error .malformed

def explicitKey (lexer : Lexer) : Except Fault Lexer :=
  if lexer.flowLevel != 0 then lexer.indicator .key 1 false
  else if lexer.keyAllowed then (lexer.openBlockHere .blockMappingStart).indicator .key 1 true
  else .error .malformed

/-- A `:`; it makes a key of what stands before it, or belongs to an announced key. -/
def valueMark (lexer : Lexer) : Except Fault Lexer :=
  match lexer.keys.lookup lexer.flowLevel with
  | some place =>
      let named :=
        { lexer with keys := lexer.keys.filter (·.1 != lexer.flowLevel) }.insertAt place.tokens .key
      let opened :=
        if lexer.flowLevel == 0 then
          let (opened, isNew) := named.openBlock place.column
          if isNew then opened.insertAt place.tokens .blockMappingStart else opened
        else named
      .ok ((opened.allowKey false |>.forward 1).push .value)
  | none =>
      if lexer.flowLevel != 0 then lexer.indicator .value 1 false
      else if lexer.keyAllowed then (lexer.openBlockHere .blockMappingStart).indicator .value 1 true
      else .error .malformed

/-- A token read as a whole, which could be a key. -/
def keyLike (read : Cursor → Except Fault (Token × Cursor)) (lexer : Lexer) :
    Except Fault Lexer := do
  let saved ← lexer.saveKey
  let (token, after) ← read saved.cursor
  return { saved with cursor := after, keyAllowed := false }.push token

def namedToken (token : List Char → Token) (cursor : Cursor) : Except Fault (Token × Cursor) := do
  let (name, after) ← readName cursor
  return (token name, after)

def blockScalar (folded : Bool) (lexer : Lexer) : Except Fault Lexer := do
  let cleared ← lexer.dropKey
  let (token, after) ← readBlock folded lexer.indent cleared.cursor
  return { cleared with cursor := after, keyAllowed := true }.push token

def plainScalar (lexer : Lexer) : Except Fault Lexer := do
  let saved ← lexer.saveKey
  let (token, atLine, after) := readPlain (lexer.flowLevel != 0) lexer.indent saved.cursor
  return { saved with cursor := after, keyAllowed := atLine }.push token

/-- A directive or a line that separates documents; it closes all blocks. -/
def documentLine (read : Cursor → Except Fault (Token × Cursor)) (lexer : Lexer) :
    Except Fault Lexer := do
  let cleared ← (lexer.unwind (-1)).dropKey
  let (token, after) ← read cleared.cursor
  return { cleared with cursor := after, keyAllowed := false }.push token

/-- Whether a plain scalar can begin with a character, given what follows it. -/
def startsPlain (flow : Bool) (c : Char) (following : Option Char) : Bool :=
  !(endsToken (some c) || "-?:,[]\x7b\x7d#&*!|>'\"%@\x60".toList.contains c) ||
    (!endsToken following && (c == '-' || (!flow && (c == '?' || c == ':'))))

/-- Closes every block at the end of the text, where no key may be left open. -/
def finish (lexer : Lexer) : Except Fault Lexer := do
  let closed ← (lexer.unwind (-1)).dropKey
  return { closed with keys := [], ended := true }

def step (lexer : Lexer) : Except Fault Lexer := do
  let skipped := lexer.skipMark.skipToToken (lexer.cursor.rest.length + 1)
  let ready := (← skipped.dropStale).unwind skipped.cursor.column
  let cursor := ready.cursor
  match cursor.rest with
  | [] => ready.finish
  | c :: rest =>
      let flow := ready.flowLevel != 0
      let atStart := cursor.column == 0
      let spaced := endsToken rest.head?
      if atStart && c == '%' then ready.documentLine readDirective
      else if atStart && c == '-' && cursor.atSeparator then
        ready.documentLine fun place => .ok (.documentStart, place.forward 3)
      else if atStart && c == '.' && cursor.atSeparator then
        ready.documentLine fun place => .ok (.documentEnd, place.forward 3)
      else if c == '[' then ready.openFlow .flowSequenceStart
      else if c == '\x7b' then ready.openFlow .flowMappingStart
      else if c == ']' then ready.closeFlow .flowSequenceEnd
      else if c == '\x7d' then ready.closeFlow .flowMappingEnd
      else if c == ',' then ready.indicator .flowEntry 1 true
      else if c == '-' && spaced then ready.blockEntry
      else if c == '?' && (flow || spaced) then ready.explicitKey
      else if c == ':' && (flow || spaced) then ready.valueMark
      else if c == '*' then ready.keyLike (namedToken .alias)
      else if c == '&' then ready.keyLike (namedToken .anchor)
      else if c == '!' then ready.keyLike readTag
      else if c == '|' && !flow then ready.blockScalar false
      else if c == '>' && !flow then ready.blockScalar true
      else if c == '\'' || c == '"' then ready.keyLike (readQuoted c)
      else if startsPlain flow c rest.head? then ready.plainScalar
      else .error .malformed

/-- Reads on until it is certain that no key is announced before the next token.  Every step passes
a character or reaches the end. -/
def settle : Nat → Lexer → Except Fault Lexer
  | 0, _ => .error .malformed
  | fuel + 1, lexer =>
      if lexer.ended then .ok lexer
      else if lexer.pending.isEmpty then do settle fuel (← lexer.step)
      else do
        let fresh ← lexer.dropStale
        if fresh.keys.any fun (_, place) => place.tokens == fresh.taken then
          settle fuel (← fresh.step)
        else return fresh

/-- The next token, which is left in place; there is none at the end of the text. -/
def peek (lexer : Lexer) : Except Fault (Option Token × Lexer) := do
  let settled ← lexer.settle (lexer.cursor.rest.length + 2)
  return (settled.pending.head?, settled)

def take (lexer : Lexer) : Lexer :=
  { lexer with pending := lexer.pending.tail, taken := lexer.taken + 1 }

end Lexer

end FeatureFlags.Yaml
