import PlaceholderExports.CommandLine.Options

/-!
# Texts about the usage

The help text, the version, and the wording of refused arguments. A refusal ends with a usage line,
which names the options that were used, and with a hint at the help text.

* `helpText`, `versionText`: what the two options of that name show.
* `UsageError.message`: the wordings.
-/

namespace PlaceholderExports.CommandLine

/-- The name of the command. -/
def commandName : String := "ts-exports"

/-- The version of the command. -/
def commandVersion : String := "0.1.0"

/-- The inputs as the usage names them. -/
def inputsText : String := "<FILE|GLOB>..."

/-- The usage line with some parts between the command and its inputs. -/
def usageLine (parts : List String) : String :=
  "Usage: " ++ " ".intercalate (commandName :: parts ++ [inputsText])

/-- The usage line that leaves the options open. -/
def generalUsage : String := usageLine ["[OPTIONS]"]

/-- The usage line of the options that were used. -/
def usageOf (used : List OptionName) : String :=
  if used.isEmpty then generalUsage else usageLine (used.map OptionName.text)

/-! ### Help -/

/-- A text with blanks up to a width. -/
def padded (width : Nat) (text : String) : String :=
  text ++ String.ofList (List.replicate (width - text.length) ' ')

/-- An option in the list of options: its letter, if it has one, and its name. -/
def OptionName.entry (o : OptionName) : String :=
  (o.letter?.elim "    " fun c => String.ofList ['-', c, ',', ' ']) ++ o.text

/-- The width of the list of options. -/
def entryWidth : Nat := OptionName.all.foldl (fun width o => max width o.entry.length) 0

/-- The lines that `--help` shows. -/
def helpText : String :=
  "\n".intercalate
    (["Adds placeholder value exports for type-only exports and transforms TypeScript", "",
      generalUsage, "",
      "Arguments:",
      "  " ++ inputsText ++ "  Modules to load, as paths or glob patterns", "",
      "Options:"] ++
    OptionName.all.map fun o => "  " ++ padded entryWidth o.entry ++ "  " ++ o.purpose)

/-- The line that `--version` shows. -/
def versionText : String := commandName ++ " " ++ commandVersion

/-! ### Refusals -/

/-- The cause of a refusal. -/
def UsageError.cause : UsageError → String
  | missingValue o => "a value is required for '" ++ o.text ++ "' but none was supplied"
  | repeated o => "the argument '" ++ o.text ++ "' cannot be used multiple times"
  | unexpectedValue o value _ =>
    "unexpected value '" ++ value ++ "' for '" ++ o.text ++ "' found; no more were expected"
  | unknownOption name _ _ => "unexpected argument '--" ++ name ++ "' found"
  | unknownLetter c => "unexpected argument '" ++ String.ofList ['-', c] ++ "' found"
  | missingInputs _ => "the following required arguments were not provided:\n  " ++ inputsText

/-- How to give an argument as an input. -/
def asInput (argument : String) : String :=
  "to pass '" ++ argument ++ "' as a value, use '-- " ++ argument ++ "'"

/-- The advice that comes with a refusal. -/
def UsageError.tip? : UsageError → Option String
  | unknownOption _ (some o) _ =>
    some ("a similar argument exists: '--" ++ o.long ++ "'")
  | unknownOption name none _ => some (asInput ("--" ++ name))
  | unknownLetter c => some (asInput (String.ofList ['-', c]))
  | missingValue _ | repeated _ | unexpectedValue _ _ _ | missingInputs _ => none

/-- The usage line that comes with a refusal. -/
def UsageError.usage? : UsageError → Option String
  | missingValue _ => none
  | repeated _ | unknownLetter _ => some generalUsage
  | unexpectedValue _ _ used | unknownOption _ _ used => some (usageOf used)
  | missingInputs used => some (usageLine (used.map OptionName.text))

/-- The wording of a refusal: its paragraphs with empty lines between them. -/
def UsageError.message (e : UsageError) : String :=
  "\n\n".intercalate
    (["error: " ++ e.cause] ++ (e.tip?.map ("  tip: " ++ ·)).toList ++ e.usage?.toList ++
      ["For more information, try '--help'."])

end PlaceholderExports.CommandLine
