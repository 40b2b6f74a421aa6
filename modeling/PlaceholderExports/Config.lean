import PlaceholderExports.Placeholder

/-!
# Configurations

Which files are loaded, whether source maps are made, and the preferred name of the placeholder. A
configuration is valid if it lists an extension, all its extensions start with a dot, and its
placeholder name can be declared.

* `Config.check`: the first thing that is wrong with a configuration.
-/

namespace PlaceholderExports

/-- The settings of a plugin. -/
structure Config where
  /-- The extensions of the files that are loaded, each with its dot. -/
  input : List String := [".ts", ".tsx"]
  /-- Whether source maps are made. -/
  sourceMap : Bool := false
  /-- The name of the placeholder, if nothing else has it. -/
  placeholderName : String := Placeholder.defaultBase
deriving DecidableEq, Repr

/-- What can be wrong with a configuration. -/
inductive ConfigFault where
  | noInput
  | badExtension (extension : String)
  | badPlaceholder (name : String)
deriving DecidableEq, Repr

/-- The wording of a fault. -/
def ConfigFault.message : ConfigFault → String
  | noInput => "\x60input\x60 must list at least one extension"
  | badExtension extension => "extension '" ++ extension ++ "' must start with '.'"
  | badPlaceholder name => "'" ++ name ++ "' is not a valid placeholder identifier"

namespace Config

/-- The name of the file that is looked up in the working directory. -/
def fileName : String := "ts-exports.json"

/-- Whether a text starts with a dot. -/
def startsWithDot (extension : String) : Bool := extension.toList.head? = some '.'

/-- The first fault of a configuration, if it has one. -/
def fault? (c : Config) : Option ConfigFault :=
  if c.input.isEmpty then some .noInput
  else
    match c.input.find? fun e => !startsWithDot e with
    | some extension => some (.badExtension extension)
    | none =>
      if Placeholder.isValidName c.placeholderName then none
      else some (.badPlaceholder c.placeholderName)

/-- A configuration, if it is valid. -/
def check (c : Config) : Except ConfigFault Config :=
  match c.fault? with
  | some fault => .error fault
  | none => .ok c

end Config

end PlaceholderExports
