import Gateway.Config.Decode
import Gateway.Config.Validate
import Gateway.Settings.FromJson
import Gateway.Settings.FromYaml

/-!
# Configuration files

A file holds its configuration in YAML or JSON, as the end of its name says.
-/

namespace Gateway

inductive ConfigFormat where
  | yaml
  | json
  deriving DecidableEq, Repr

namespace ConfigFormat

/-- What stands behind the last dot of a name, unless the name begins with it. -/
def extension? (name : List Char) : Option (List Char) :=
  let last := name.reverse.takeWhile (· ≠ '.')
  if name.length ≤ last.length + 1 then none else some last.reverse

def ofFileName (name : List Char) : ConfigFormat :=
  match extension? name with
  | some e => if e = "yaml".toList || e = "yml".toList then .yaml else .json
  | none => .json

end ConfigFormat

/-- Why a configuration cannot be had. -/
inductive LoadFault where
  | unreadable
  | malformed (f : ConfigFormat)
  | invalid (f : ConfigFault)
  deriving DecidableEq, Repr

def LoadFault.message : LoadFault → String
  | .unreadable => "Failed to read config file"
  | .malformed .yaml => "Failed to parse YAML config"
  | .malformed .json => "Failed to parse JSON config"
  | .invalid f => f.message

namespace Configuration

def parse? (f : ConfigFormat) (cs : List Char) : Option Configuration :=
  match f with
  | .yaml => (Settings.Place.read? cs).bind ofSettings?
  | .json => (Json.Document.read? cs).bind ofSettings?

def checked (c : Configuration) : Except LoadFault Configuration :=
  match c.fault? with
  | some f => .error (.invalid f)
  | none => .ok c

/-- The configuration in a file, of which `content` is missing if there is none. -/
def load (name : List Char) (content : Option Bytes) : Except LoadFault Configuration :=
  match content.bind Utf8.decodeChars with
  | none => .error .unreadable
  | some cs =>
      let format := ConfigFormat.ofFileName name
      match parse? format cs with
      | none => .error (.malformed format)
      | some c => c.checked

end Configuration

end Gateway
