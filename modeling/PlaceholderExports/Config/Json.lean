import PlaceholderExports.Config
import PlaceholderExports.Json.Scan

/-!
# Configurations as JSON texts

A configuration is an object with any of its three fields, or a list of their values in order, which
may end early. What is missing has its default.

* `Config.ofJson`: the valid configuration of a text.
* `Config.toJson`: the text of a configuration.
-/

namespace PlaceholderExports

/-- Why a text is no valid configuration. -/
inductive ConfigError where
  | json (fault : Json.Fault)
  | invalid (fault : ConfigFault)
  /-- A cause known only by its wording. -/
  | other (text : String)
deriving DecidableEq, Repr

/-- The wording of a cause. -/
def ConfigError.message : ConfigError → String
  | json fault => fault.message
  | invalid fault => fault.message
  | other text => text

namespace Config

open PlaceholderExports.Json

/-- The fields of a configuration. -/
inductive Field where
  | input
  | sourceMap
  | placeholderName
deriving DecidableEq, Repr

/-- The name of a field. -/
def Field.name : Field → String
  | input => "input"
  | sourceMap => "sourceMap"
  | placeholderName => "placeholderName"

/-- The fields in order. -/
def fields : List Field := [.input, .sourceMap, .placeholderName]

/-- The field of a name. -/
def Field.ofName (name : String) : Scan Field :=
  match fields.find? fun f => f.name = name with
  | some f => pure f
  | none => fail (.unknownField name (fields.map Field.name))

/-- The fields that have been read. -/
structure Draft where
  input? : Option (List String) := none
  sourceMap? : Option Bool := none
  placeholderName? : Option String := none
deriving DecidableEq, Repr

namespace Draft

/-- Whether a field has been read. -/
def has (d : Draft) : Field → Bool
  | .input => d.input?.isSome
  | .sourceMap => d.sourceMap?.isSome
  | .placeholderName => d.placeholderName?.isSome

/-- Reads the value of a field. -/
def read (d : Draft) : Field → Scan Draft
  | .input => do return { d with input? := some (← list string) }
  | .sourceMap => do return { d with sourceMap? := some (← boolean) }
  | .placeholderName => do return { d with placeholderName? := some (← string) }

/-- The configuration of the fields, with defaults for the others. -/
def config (d : Draft) : Config :=
  let standard : Config := {}
  { input := d.input?.getD standard.input
    sourceMap := d.sourceMap?.getD standard.sourceMap
    placeholderName := d.placeholderName?.getD standard.placeholderName }

/-- The members of an object up to its closing brace. A field may come once. -/
def members : List Char → Bool → Draft → Scan Draft
  | [], _, _ => fail .endInObject
  | _ :: fuel, isFirst, d => do
    if !(← hasMember isFirst) then
      skip
      return d
    skip
    let field ← Field.ofName (← stringTail)
    if d.has field then fail (.duplicateField field.name)
    colon
    members fuel false (← d.read field)

/-- The values of some fields up to the closing bracket of a list. -/
def values : List Field → Bool → Draft → Scan Draft
  | [], _, d => do
    listEnd
    return d
  | field :: more, isFirst, d => do
    if ← hasItem isFirst then values more false (← d.read field)
    else
      listEnd
      return d

/-- The fields of a text. -/
def scan : Scan Draft :=
  value (.record "PluginConfig") fun c =>
    if c = '\x7b' then
      some do
        skip
        let text ← get
        members (' ' :: text) true {}
    else if c = '[' then
      some do
        skip
        values fields true {}
    else none

end Draft

/-- The valid configuration of a text. -/
def ofJson (text : String) : Except ConfigError Config :=
  match whole Draft.scan text with
  | .error fault => .error (.json fault)
  | .ok d => d.config.check.mapError .invalid

/-- The text of a configuration. -/
def toJson (c : Config) : String :=
  "\x7b\"input\":[" ++ ",".intercalate (c.input.map Text.quote) ++ "],\"sourceMap\":" ++
    (if c.sourceMap then "true" else "false") ++ ",\"placeholderName\":" ++
    Text.quote c.placeholderName ++ "\x7d"

end Config

end PlaceholderExports
