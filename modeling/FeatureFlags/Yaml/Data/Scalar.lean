import FeatureFlags.Text.Base64
import FeatureFlags.Yaml.Data.Moment
import FeatureFlags.Yaml.Data.Numeral
import FeatureFlags.Yaml.Tag

/-!
# Data of one text

What a text stands for under a tag.  A tag need not fit its text, so every reading can fail.
-/

set_option autoImplicit false

namespace FeatureFlags.Yaml.Data

def ofBoolText (text : List Char) : Except ScalarFault Data :=
  let small := String.ofList (Text.lowercase text)
  if ["yes", "true", "on"].contains small then .ok (.bool true)
  else if ["no", "false", "off"].contains small then .ok (.bool false)
  else .error (.boolText small)

def ofBase64 (text : List Char) : Except Fault Data :=
  if text.all (·.toNat < 128) then
    match Text.Base64.decode? text with
    | some bytes => .ok (.binary bytes)
    | none => .error .malformed
  else .error .malformed

def promisesCollection (tag : Tag) : Bool :=
  [.seq, .map, .set, .omap, .pairs].contains tag

/-- Whether a tag promises data that is made of a text. -/
def promisesScalar (tag : Tag) : Bool :=
  [.null, .str, .bool, .int, .float, .timestamp, .binary].contains tag

/-- A broken text fits only the tags of null and of text: for the others it is read with the
replacement character, and fails. -/
def ofScalar (tag : Tag) (text : Text.Raw) : Except Fault Data :=
  match tag with
  | .null => .ok .null
  | .str => .ok (.ofRaw text)
  | .bool => (ofBoolText text.toList).mapError .scalar
  | .int => ((Numeral.ofIntegerText text.toList).map .int).mapError .scalar
  | .float => ((Numeral.ofFloatText text.toList).map .double).mapError .scalar
  | .timestamp => (Moment.ofText text.toList).mapError .scalar
  | .binary => ofBase64 text.toList
  | _ => .error .malformed

end FeatureFlags.Yaml.Data
