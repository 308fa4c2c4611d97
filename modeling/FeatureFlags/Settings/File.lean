import FeatureFlags.Settings.Build
import FeatureFlags.Settings.Overlay
import FeatureFlags.Yaml.Data.Document

/-!
# Settings from files

A settings file is a YAML mapping, either of the settings themselves or with a section that holds
them.  A second file, where there is one, is laid over the first.  What YAML is read with, and how
deep an interpreter follows mappings over mappings, is up to a loader.
-/

set_option autoImplicit false

namespace FeatureFlags.Settings

open Yaml (Data Label)

inductive Content where
  | missing
  | directory
  | bytes (bytes : List UInt8)

structure File where
  name : String
  content : Content

def unifyBreaks : List Char → List Char
  | '\r' :: '\n' :: rest => '\n' :: unifyBreaks rest
  | '\r' :: rest => '\n' :: unifyBreaks rest
  | c :: rest => c :: unifyBreaks rest
  | [] => []

def File.text (file : File) : Except Error (List Char) :=
  match file.content with
  | .missing | .directory => .error (.configuration (.unreadableFile file.name))
  | .bytes bytes =>
      match Text.Utf8.decode bytes with
      | .ok text => .ok (unifyBreaks text)
      | .error fault => .error (.foreign (.undecodable fault))

structure Loader where
  /-- The data of the YAML in a text.  A collection may hold itself, so the data is unfolded, right
  down to the given depth. -/
  read : (depth : Nat) → List Char → Except Yaml.Fault Data
  /-- How deep in the sections mappings can be laid over mappings. -/
  nesting : Nat

/-- How many calls the usual interpreter nests behind those that lead to a document. -/
def usualCalls : Nat := 990

namespace Loader

def usual : Loader :=
  ⟨Data.ofText usualCalls, 995⟩

/-- The data of a text, right down to all that can be laid over other data. -/
def dataOf (loader : Loader) (text : List Char) : Except Yaml.Fault Data :=
  loader.read (loader.nesting + 3) text

def data (loader : Loader) (file : File) : Except Error Data := do
  match loader.dataOf (← file.text) with
  | .ok data => return data
  | .error .malformed => throw (.configuration (.malformedYaml file.name))
  | .error (.scalar fault) => throw (.foreign (.scalar fault))
  | .error .tooDeep => throw (.foreign (.tooDeep .document))

end Loader

def sectionName : String := "switcherlabs"

namespace Loader

/-- The mapping of settings in a file: its section, or else all of it.  Empty data counts as an
empty mapping. -/
def entries (loader : Loader) (file : File) : Except Error (List (Label × Data)) := do
  let data ← loader.data file
  match if data.isFalsy then .map [] else data with
  | .map entries =>
      match entries.lookup (.text sectionName) with
      | none => return entries
      | some (.map settings) => return settings
      | some _ => throw (.configuration (.sectionNotMapping file.name))
  | _ => throw (.configuration (.rootNotMapping file.name))

/-- The entries of the first file with those of the second laid over them; a second file that is not
there does not matter. -/
def layered (loader : Loader) (base : File) (above : Option File) :
    Except Error (List (Label × Data)) := do
  let lower ← loader.entries base
  match above with
  | none | some ⟨_, .missing⟩ => return lower
  | some file =>
      let upper ← loader.entries file
      if Yaml.reaches (loader.nesting + 1) upper lower then throw (.foreign (.tooDeep .overlay))
      return Yaml.overlay upper lower

end Loader

def isText : Label → Bool
  | .text _ | .broken _ => true
  | _ => false

def Loader.load (loader : Loader) (base : File) (above : Option File) : Except Error Settings := do
  let entries ← loader.layered base above
  if entries.all (isText ·.1) then ofEntries entries
  else throw (.foreign .keywordNotText)

def load (base : File) (above : Option File) : Except Error Settings :=
  Loader.usual.load base above

end FeatureFlags.Settings
