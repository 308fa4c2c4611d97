import FeatureFlags.Hostname.Fault
import FeatureFlags.Text.Raw
import FeatureFlags.Text.Utf8
import FeatureFlags.Value.Literal

/-!
# Failures and their wording

`Error` lists what can go wrong as causes: each constructor carries the facts of the failure, and
`Error.message` words them.  The library's own failures have a code; the failures under
`Error.foreign` come from outside its vocabulary and pass through unworded.
-/

set_option autoImplicit false

namespace FeatureFlags

/-- Why decoded data does not have the expected shape. -/
inductive ShapeFault where
  /-- A member was looked up in something that is no object. -/
  | notIndexable (value : Value)
  | missing (member : String)
  | notIterable (value : Value)
  /-- A list or an object stands where a key is needed. -/
  | unhashable (value : Value)

namespace ShapeFault

def isMissing : ShapeFault → Bool
  | .missing _ => true
  | _ => false

def text : ShapeFault → String
  | .notIndexable (.string _) => "string indices must be integers, not 'str'"
  | .notIndexable (.list _) => "list indices must be integers or slices, not str"
  | .notIndexable value => "'" ++ value.kindName ++ "' object is not subscriptable"
  | .missing member => Text.quoted member
  | .notIterable value => "'" ++ value.kindName ++ "' object is not iterable"
  | .unhashable value => "unhashable type: '" ++ value.kindName ++ "'"

def described : ShapeFault → String
  | .missing member => "KeyError(" ++ Text.quoted member ++ ")"
  | fault => "TypeError(" ++ Text.quoted fault.text ++ ")"

end ShapeFault

inductive NetworkFault where
  | timeout
  | connectTimeout
  | readTimeout
  | writeTimeout
  | poolTimeout
  | network
  | connect
  | read
  | write
  | close
  | protocol
  | localProtocol
  | remoteProtocol
  | proxy
  | unsupportedProtocol
  | decoding
  | tooManyRedirects
  | transport
  | request
  | general
  deriving DecidableEq, Repr

def NetworkFault.isTimeout : NetworkFault → Bool
  | .timeout | .connectTimeout | .readTimeout | .writeTimeout | .poolTimeout => true
  | _ => false

inductive Cause where
  | shape (fault : ShapeFault)
  /-- Text that could not be read: a bad operator, bad JSON, undecodable bytes. -/
  | unreadable
  | yaml
  | fileSystem
  | validation
  | network (fault : NetworkFault)
  /-- Reported by a source outside the library. -/
  | reported (message : String)

/-- The settings of a client, in the order in which problems are listed. -/
inductive Field where
  | apiKey
  | host
  | port
  | protocol
  | timeout
  deriving DecidableEq, Repr

inductive Problem where
  | notText
  /-- Bytes that are not UTF-8, or a broken text. -/
  | undecodableText
  | notAnOption
  | notInteger
  | unreadableInteger
  | oversizedInteger
  | notFinite
  | fractional
  | belowMinimum
  | aboveMaximum
  | notAboveMinimum
  deriving DecidableEq, Repr

inductive ConfigurationFault where
  | missingApiKey
  | invalid (problems : List (Field × Problem))
  | unreadableFile (path : String)
  | malformedYaml (path : String)
  | rootNotMapping (path : String)
  | sectionNotMapping (path : String)
  | reported (message : String) (cause : Option Cause)

inductive ParseFault where
  | malformedState (fault : ShapeFault)
  | malformedIdentity (fault : ShapeFault)
  | overridesNotObject (value : Value)
  | notJson (context : String) (status : Nat)
  | notObject (context : String) (value : Value)
  | reported (message : String) (cause : Option Cause)

inductive RuleFault where
  /-- A rule's operator is none of the six. -/
  | unknownOperator (operator : Value)
  /-- A comparison was asked for by text instead of by an operator. -/
  | uncheckedOperator (operator : String)
  | unknownFlag (flag : Key) (reference : Value)
  | reported (message : String)

/-- Why a YAML scalar cannot become the value that its tag promises. -/
inductive ScalarFault where
  | month
  | day
  | hour
  | minute
  | second
  | year (value : Nat)
  /-- An offset of a day or more, in seconds. -/
  | timeZone (offset : Int)
  | notTimestamp
  | integerText (base : Nat) (text : String)
  | floatText (text : String)
  | boolText (text : String)
  /-- A number was expected and no character is there. -/
  | noText
  /-- An escape names a code point past the last one, or a number past every code point. -/
  | codePoint
  | codeTooLarge
  | integerDigits (count : Nat)
  /-- A place of base sixty is worth more than every double. -/
  | weightTooLarge
  /-- A mapping stands where the text of a timestamp is read. -/
  | notText
  deriving DecidableEq, Repr

/-- What goes deeper than an interpreter follows. -/
inductive Nesting where
  /-- A document, or what its keys for merging and for the usual entry lead to. -/
  | document
  /-- A mapping over a mapping. -/
  | overlay
  | jsonArray
  | jsonObject
  deriving DecidableEq, Repr

/-- Failures that the library neither catches nor words. -/
inductive Foreign where
  | runtime (message : String)
  | shape (fault : ShapeFault)
  | unknownOperator (operator : Value)
  | keywordNotText
  | quotientTooLarge
  | undecodable (fault : Text.Utf8.Fault)
  | scalar (fault : ScalarFault)
  | tooDeep (nesting : Nesting)
  | invalidUrl (message : String)
  | hostname (fault : Hostname.Fault)
  /-- Code points that an encoding cannot write, of which the first is given: surrogates, or
  characters where there can only be ASCII. -/
  | notAscii (first position count : Nat)
  | noRunningLoop
  | unknownLevel (name : String)
  /-- Something that is no level at all stands for one. -/
  | notLevel (text : String)
  /-- A function was given one of its arguments twice. -/
  | repeatedArgument (function argument : String)
  /-- Something else stands where text is appended to text. -/
  | notAppendable (value : Value)

/-- What comes of encoding a broken text: its first run of surrogates is told. -/
def Text.Broken.unencodable (text : Text.Broken) : Foreign :=
  let before := text.points.takeWhile (!Text.isSurrogate ·)
  let run := (text.points.drop before.length).takeWhile Text.isSurrogate
  .notAscii (run.headD 0) before.length run.length

inductive Error where
  | general (code message : String) (cause : Option Cause)
  | configuration (fault : ConfigurationFault)
  | flagNotFound (key : Value)
  | transport (message : String) (isTimeout : Bool) (cause : Option Cause)
  | api (status : Int) (message : String) (payload : List (String × Value))
  | parse (fault : ParseFault)
  | ruleIntegrity (fault : RuleFault)
  | foreign (failure : Foreign)

namespace ConfigurationFault

def message : ConfigurationFault → String
  | .missingApiKey =>
      "You must set api_key in the config when initializing a SwitcherLabs client."
  | .invalid _ => "Config validation failed"
  | .unreadableFile path => "Failed to read config file: " ++ path
  | .malformedYaml path => "Failed to parse YAML: " ++ path
  | .rootNotMapping path => "Config root must be a mapping: " ++ path
  | .sectionNotMapping path => "switcherlabs section must be a mapping: " ++ path
  | .reported message _ => message

def cause : ConfigurationFault → Option Cause
  | .invalid _ => some .validation
  | .unreadableFile _ => some .fileSystem
  | .malformedYaml _ => some .yaml
  | .reported _ cause => cause
  | _ => none

end ConfigurationFault

namespace ParseFault

def message : ParseFault → String
  | .malformedState fault => "malformed state response: " ++ fault.described
  | .malformedIdentity fault => "malformed identity response: " ++ fault.described
  | .overridesNotObject value => "malformed identity response: overrides is " ++ value.kindName
  | .notJson context status =>
      context ++ ": response body is not valid JSON (HTTP " ++ toString status ++ ")"
  | .notObject context value => context ++ ": expected a JSON object, got " ++ value.kindName
  | .reported message _ => message

def cause : ParseFault → Option Cause
  | .malformedState fault | .malformedIdentity fault => some (.shape fault)
  | .notJson _ _ => some .unreadable
  | .reported _ cause => cause
  | _ => none

end ParseFault

namespace RuleFault

def message : RuleFault → String
  | .unknownOperator operator => "unsupported rule operator: " ++ operator.literal
  | .uncheckedOperator operator => "unsupported rule operator: " ++ Text.quoted operator
  | .unknownFlag flag reference =>
      "rule on flag " ++ flag.value.literal ++ " references unknown flag id " ++ reference.literal
  | .reported message => message

def cause : RuleFault → Option Cause
  | .unknownOperator _ => some .unreadable
  | _ => none

end RuleFault

/-- A time difference as whole days and the seconds left over. -/
def offsetText (offset : Int) : String :=
  let days := Int.fdiv offset 86400
  let seconds := Int.fmod offset 86400
  let rest := if seconds = 0 then [] else ["seconds=" ++ toString seconds]
  "datetime.timedelta(" ++ ", ".intercalate (("days=" ++ toString days) :: rest) ++ ")"

def ScalarFault.message : ScalarFault → String
  | .month => "month must be in 1..12"
  | .day => "day is out of range for month"
  | .hour => "hour must be in 0..23"
  | .minute => "minute must be in 0..59"
  | .second => "second must be in 0..59"
  | .year value => "year " ++ toString value ++ " is out of range"
  | .timeZone offset =>
      "offset must be a timedelta strictly between -timedelta(hours=24) and " ++
        "timedelta(hours=24), not " ++ offsetText offset ++ "."
  | .notTimestamp => "'NoneType' object has no attribute 'groupdict'"
  | .integerText base text =>
      "invalid literal for int() with base " ++ toString base ++ ": " ++
        String.ofList ((Text.quoted text).toList.take 200)
  | .boolText text => Text.quoted text
  | .noText => "string index out of range"
  | .weightTooLarge => "int too large to convert to float"
  | .notText => "expected string or bytes-like object, got 'list'"
  | .codePoint => "chr() arg not in range(0x110000)"
  | .codeTooLarge => "Python int too large to convert to C int"
  | .floatText text => "could not convert string to float: " ++ Text.quoted text
  | .integerDigits count =>
      "Exceeds the limit (4300 digits) for integer string conversion: value has " ++
        toString count ++ " digits; use sys.set_int_max_str_digits() to increase the limit"

def Nesting.message (nesting : Nesting) : String :=
  "maximum recursion depth exceeded" ++
    match nesting with
    | .document => ""
    | .overlay => " while calling a Python object"
    | .jsonArray => " while decoding a JSON array from a unicode string"
    | .jsonObject => " while decoding a JSON object from a unicode string"

def notAsciiText (first position count : Nat) : String :=
  let place :=
    if count = 1 then
      " '" ++ String.ofList (Text.escapeCode first) ++ "' in position " ++ toString position
    else "s in position " ++ toString position ++ "-" ++ toString (position + count - 1)
  let (codec, reason) :=
    if Text.isSurrogate first then ("utf-8", "surrogates not allowed")
    else ("ascii", "ordinal not in range(128)")
  "'" ++ codec ++ "' codec can't encode character" ++ place ++ ": " ++ reason

def Foreign.message : Foreign → String
  | .runtime message => message
  | .shape fault => fault.text
  | .unknownOperator operator => operator.literal ++ " is not a valid Operator"
  | .keywordNotText => "keywords must be strings"
  | .quotientTooLarge => "integer division result too large for a float"
  | .undecodable fault => fault.text
  | .scalar fault => fault.message
  | .tooDeep nesting => nesting.message
  | .invalidUrl message => message
  | .hostname fault => fault.message
  | .notAscii first position count => notAsciiText first position count
  | .noRunningLoop => "no running event loop"
  | .unknownLevel name => "Unknown level: " ++ Text.quoted name
  | .notLevel text => "Level not an integer or a valid string: " ++ text
  | .repeatedArgument function argument =>
      function ++ "() got multiple values for argument " ++ Text.quoted argument
  | .notAppendable value =>
      "can only concatenate str (not \"" ++ value.kindName ++ "\") to str"

namespace Error

def code? : Error → Option String
  | .general code _ _ => some code
  | .configuration _ => some "CONFIGURATION_ERROR"
  | .flagNotFound _ => some "FLAG_NOT_FOUND"
  | .transport _ isTimeout _ => some (if isTimeout then "TIMEOUT" else "CONNECTION_ERROR")
  | .api .. => some "API_ERROR"
  | .parse _ => some "PARSE_ERROR"
  | .ruleIntegrity _ => some "RULE_INTEGRITY_ERROR"
  | .foreign _ => none

def message : Error → String
  | .general _ message _ => message
  | .configuration fault => fault.message
  | .flagNotFound key => "flag requested does not exist: " ++ key.plain
  | .transport message _ _ => message
  | .api _ message _ => message
  | .parse fault => fault.message
  | .ruleIntegrity fault => fault.message
  | .foreign failure => failure.message

/-- The full text of a failure: a failure of the library is led by its code. -/
def text (error : Error) : String :=
  match error.code? with
  | some code => code ++ ": " ++ error.message
  | none => error.message

def cause : Error → Option Cause
  | .general _ _ cause => cause
  | .configuration fault => fault.cause
  | .transport _ _ cause => cause
  | .parse fault => fault.cause
  | .ruleIntegrity fault => fault.cause
  | _ => none

/-- Whether a failure is one of the library's own. -/
def isLibrary (error : Error) : Bool :=
  error.code?.isSome

end Error

end FeatureFlags
