import FeatureFlags.Entries
import FeatureFlags.Error
import FeatureFlags.Log.Basic
import FeatureFlags.Text.Lines

/-!
# A logger that prints records

A logger prints the records that reach its threshold, as objects or as coloured lines of text.
Fields come from the call, from what is bound to the logger and from the surrounding context, in
this order of precedence; event, level, logger and time stamp stand above all of them.  A record of
a failure ends with that failure; none is at hand when a record is printed.
-/

set_option autoImplicit false

namespace FeatureFlags.Log

inductive Format where
  | object
  | text
  deriving DecidableEq, Repr

def Format.ofName (name : String) : Format :=
  if name = "json" then .object else .text

/-- The ASCII capital of a letter; two letters beyond ASCII have one. -/
def capital (c : Char) : Char :=
  if c == 'ı' then 'I' else if c == 'ſ' then 'S' else c.toUpper

def plainLayout : String := "%(levelname)s:%(name)s:%(message)s"

def layouts : String :=
  "\x7b'%': (<class 'logging.PercentStyle'>, '" ++ plainLayout ++
    "'), '\x7b': (<class 'logging.StrFormatStyle'>, '\x7blevelname\x7d:\x7bname\x7d:" ++
    "\x7bmessage\x7d'), '$': (<class 'logging.StringTemplateStyle'>, '$\x7blevelname\x7d:" ++
    "$\x7bname\x7d:$\x7bmessage\x7d')\x7d"

/-- The names of levels, in capitals, with the least severity that they let through. -/
def thresholds : List (String × Nat) :=
  [("DEBUG", 10), ("INFO", 20), ("WARNING", 30), ("WARN", 30), ("ERROR", 40), ("CRITICAL", 50),
    ("FATAL", 50), ("NOTSET", 0)]

/-- The least severity that a named threshold lets through; an unknown name counts as `INFO`. -/
def leastSeverity (name : String) : Except Error Nat :=
  match String.ofList (name.toList.map capital) with
  | "BASIC_FORMAT" => .error (.foreign (.unknownLevel plainLayout))
  | "_STYLES" => .error (.foreign (.notLevel layouts))
  | capitals => .ok ((thresholds.lookup capitals).getD Level.info.severity)

structure Logger where
  threshold : Nat
  format : Format
  context : List (String × Value)

inductive Printed where
  | object (members : List (String × Value))
  | line (text : String)

namespace Logger

def name : String := "k1s0_switcherlabs"

def new (level format : String) : Except Error Logger :=
  (leastSeverity level).map fun least => ⟨least, .ofName format, []⟩

/-- Adds fields to the context of this and all later records. -/
def withContext (fields : List (String × Value)) (logger : Logger) : Logger :=
  { logger with context := Entries.putAll fields logger.context }

/-- The members that no field can replace. -/
def fixedMembers (time : String) (record : Record) : List (String × Value) :=
  [("event", .string record.event), ("level", .string record.level.name), ("logger", .string name),
    ("timestamp", .string time)]

/-- The field that asks for the failure at hand; it is never printed itself. -/
def failureField : String := "exc_info"

def allFields (bound : List (String × Value)) (record : Record) (logger : Logger) :
    List (String × Value) :=
  (Entries.putAll record.fields (Entries.putAll bound logger.context)).filter
    (·.1 != failureField)

def isPlain (c : Char) : Bool :=
  !([' ', '\t', '=', '\r', '\n', '"', '\''].contains c)

/-- Text of plain characters stands for itself, every other value is written as a literal. -/
def fieldText : Value → String
  | .string content => if content.toList.all isPlain then content else Text.quoted content
  | value => value.literal

def styled (style content : String) : String :=
  "\x1b[" ++ style ++ "m" ++ content ++ "\x1b[0m"

def padded (width : Nat) (content : String) : String :=
  content.pushn ' ' (width - content.length)

def levelStyle : Level → String
  | .debug | .info => "32"
  | .warning => "33"
  | .error | .critical => "31"

/-- The field that may name a second logger. -/
def nameField : String := "logger_name"

def stackField : String := "stack"

def exceptionField : String := "exception"

def bracketed (content : String) : String :=
  "[\x1b[0m\x1b[1m" ++ styled "34" content ++ "]\x1b[0m"

def column (field : String × Value) : String :=
  styled "36" field.1 ++ "=" ++ styled "35" (fieldText field.2)

/-- The coloured line of a record.  A field without a name comes first; other fields follow in the
order of their names. -/
def line (time : String) (record : Record) (fields : List (String × Value)) : String :=
  let fixed := (fixedMembers time record).map (·.1)
  let special := fixed ++ ["", nameField, stackField, exceptionField]
  let others := (fields.filter fun field => !special.contains field.1).mergeSort
    fun left right => !(right.1 < left.1)
  let nameless := fields.filter (·.1 == "")
  let second := (fields.lookup nameField).map fun value => bracketed value.plain
  " ".intercalate (nameless.map column ++
    [styled "2" time,
      "[\x1b[" ++ levelStyle record.level ++ "m" ++ styled "1" (padded 9 record.level.name) ++ "]",
      styled "1" (padded 30 record.event), bracketed name] ++ second.toList ++ others.map column)

/-- The text of a field that follows the line; null counts as absent. -/
def trailing (field : String) (fields : List (String × Value)) : Except Error (Option String) :=
  match fields.lookup field with
  | none | some .null => .ok none
  | some (.string content) => .ok (some content)
  | some value => .error (.foreign (.notAppendable value))

def text (time : String) (record : Record) (fields : List (String × Value)) :
    Except Error String := do
  let stack ← trailing stackField fields
  let exception ← trailing exceptionField fields
  let gap := if exception.isSome then "\n\n" ++ "".pushn '=' 79 ++ "\n" else ""
  return line time record fields ++
    (stack.map fun content => "\n" ++ content ++ gap).getD "" ++
    (exception.map fun content => "\n" ++ content).getD ""

/-- How a record of a failure ends when none is at hand. -/
def noFailure : String := "NoneType: None"

def withLine (final text : String) : String :=
  if text.toList.getLast? == some '\n' then text ++ final else text ++ "\n" ++ final

/-- The names that a method has for its own arguments, with the function that they belong to. -/
def ownArguments (method : Method) : List (String × String) :=
  [("event", method.name), ("self", method.name), ("method_name", "_proxy_to_logger")]

/-- A field with the name of an argument cannot be given. -/
def checkFields (method : Method) (fields : List (String × Value)) : Except Error Unit :=
  match fields.findSome? fun (field, _) =>
      ((ownArguments method).lookup field).map fun function => (function, field) with
  | some (function, field) =>
      .error (.foreign (.repeatedArgument ("BoundLogger." ++ function) field))
  | none => .ok ()

/-- What a method prints of an event at the given time, with further fields bound to the logger. -/
def print (time : String) (bound : List (String × Value)) (method : Method) (event : String)
    (given : List (String × Value)) (logger : Logger) : Except Error (List Printed) := do
  checkFields method given
  let record : Record := ⟨method.level, event, given⟩
  let fields := logger.allFields bound record
  let isFailure := method == .exception
  let printed ← match logger.format with
    | .object =>
        pure (.object (Entries.putAll (fixedMembers time record) fields) ::
          if isFailure then [.line noFailure] else [])
    | .text => do
        let text ← text time record fields
        let ended := if isFailure then withLine noFailure text else text
        pure ((Text.lines (ended ++ "\n").toList).map fun line => .line (String.ofList line))
  return if record.level.severity < logger.threshold then [] else printed

end Logger

end FeatureFlags.Log
