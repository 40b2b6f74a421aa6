import PlaceholderExports.Text.Similarity

/-!
# Arguments of the command

The command takes files or patterns, and options among them. An option is written in full after two
hyphens, or as one letter after a hyphen; letters may be joined, and a value may follow its option
after an equals sign, at once after its letter, or as the next argument. After `--` every argument
is an input. Asking for the help text or the version ends the reading.

An option whose value is the next argument stays open until something else is read; only then is it
counted, and only then is it noticed that its value is missing or that it was given before.

* `Request.ofArguments`: what some arguments ask for.
* `UsageError`: why arguments are refused.
-/

namespace PlaceholderExports.CommandLine

/-- The options of the command. -/
inductive OptionName where
  | config
  | outDir
  | list
  | sourceMap
  | verbose
  | help
  | version
deriving DecidableEq, Repr

namespace OptionName

/-- The options in the order in which they are listed. -/
def all : List OptionName := [config, outDir, list, sourceMap, verbose, help, version]

/-- The full name of an option. -/
def long : OptionName → String
  | config => "config"
  | outDir => "out-dir"
  | list => "list"
  | sourceMap => "source-map"
  | verbose => "verbose"
  | help => "help"
  | version => "version"

/-- The letter of an option. -/
def letter? : OptionName → Option Char
  | config => some 'c'
  | outDir => some 'o'
  | list | sourceMap => none
  | verbose => some 'v'
  | help => some 'h'
  | version => some 'V'

/-- What the value of an option is called, if it takes one. -/
def valueName? : OptionName → Option String
  | config => some "PATH"
  | outDir => some "DIR"
  | list | sourceMap | verbose | help | version => none

/-- What an option is for. -/
def purpose : OptionName → String
  | config => "Path to ts-exports.json"
  | outDir => "Write transformed modules below DIR instead of stdout"
  | list => "Only print the type-only exports of every module, as JSON"
  | sourceMap => "Emit source maps (overrides the configuration)"
  | verbose => "Log debug output"
  | help => "Print help"
  | version => "Print version"

/-- An option as messages name it. -/
def text (o : OptionName) : String :=
  "--" ++ o.long ++ (o.valueName?.elim "" fun v => " <" ++ v ++ ">")

/-- The option of a full name. -/
def ofLong? (name : String) : Option OptionName := all.find? fun o => o.long = name

/-- The option of a letter. -/
def ofLetter? (c : Char) : Option OptionName := all.find? fun o => o.letter? = some c

/-- The option whose name is most like a text, of several the last one, if it is at least seven
tenths like it. -/
def similar? (name : String) : Option OptionName :=
  let likeness (o : OptionName) := Text.similarity name.toList o.long.toList
  (all.filter fun o => decide (7 / 10 ≤ likeness o)).foldl
    (fun best o =>
      match best with
      | some b => if likeness b ≤ likeness o then some o else some b
      | none => some o)
    none

end OptionName

/-- What the command is to do. -/
structure Options where
  /-- The files and patterns. -/
  inputs : List String := []
  config? : Option String := none
  outDir? : Option String := none
  list : Bool := false
  sourceMap : Bool := false
  verbose : Bool := false
deriving DecidableEq, Repr

/-- What arguments ask for. -/
inductive Request where
  | run (options : Options)
  | help
  | version
deriving DecidableEq, Repr

/-- Why arguments are refused. Some causes come with the options that were used before. -/
inductive UsageError where
  | missingValue (o : OptionName)
  | repeated (o : OptionName)
  | unexpectedValue (o : OptionName) (value : String) (used : List OptionName)
  | unknownOption (name : String) (similar? : Option OptionName) (used : List OptionName)
  | unknownLetter (c : Char)
  | missingInputs (used : List OptionName)
deriving DecidableEq, Repr

/-! ### Single arguments -/

/-- How an argument is written. -/
inductive Argument where
  /-- Two hyphens alone. -/
  | separator
  | long (name : String) (value? : Option String)
  | letters (cs : List Char)
  | plain (text : String)
deriving DecidableEq, Repr

/-- The form of an argument. A single hyphen is no option. -/
def Argument.ofText (text : String) : Argument :=
  match text.toList with
  | ['-', '-'] => separator
  | '-' :: '-' :: body =>
    long (String.ofList (body.takeWhile (· ≠ '=')))
      (match body.dropWhile (· ≠ '=') with
      | [] => none
      | _ :: value => some (String.ofList value))
  | '-' :: c :: cs => letters (c :: cs)
  | _ => plain text

/-! ### Reading in order -/

/-- What has been read so far. -/
structure Progress where
  options : Options := {}
  /-- The options that count as used, in order. -/
  used : List OptionName := []
  /-- An option that is not counted yet, with its value once that was read. -/
  open? : Option (OptionName × Option String) := none
deriving DecidableEq, Repr

/-- The options with a value of one of them. -/
def Options.withValue (options : Options) (o : OptionName) (value : String) : Options :=
  match o with
  | .config => { options with config? := some value }
  | .outDir => { options with outDir? := some value }
  | .list => { options with list := true }
  | .sourceMap => { options with sourceMap := true }
  | .verbose => { options with verbose := true }
  | .help | .version => options

namespace Progress

/-- Counts an option that was not used before. -/
def count (p : Progress) (o : OptionName) (value : String) : Except UsageError Progress :=
  if o ∈ p.used then .error (.repeated o)
  else
    .ok { p with options := p.options.withValue o value, used := p.used ++ [o] }

/-- Counts the option that is open. -/
def settle (p : Progress) : Except UsageError Progress :=
  match p.open? with
  | none => .ok p
  | some (o, none) => .error (.missingValue o)
  | some (o, some value) => { p with open? := none }.count o value

/-- The options that count as used once none is open. One that was given twice counts no longer. -/
def settledUse (p : Progress) : List OptionName :=
  match p.settle with
  | .ok q => q.used
  | .error (.repeated o) => p.used.filter (· ≠ o)
  | .error _ => p.used

/-- An option without a value so far: one that takes a value stays open, the others are counted. -/
def start (p : Progress) (o : OptionName) : Except UsageError Progress := do
  let p ← p.settle
  match o.valueName? with
  | some _ => return { p with open? := some (o, none) }
  | none => p.count o ""

/-- An option with a value. -/
def give (p : Progress) (o : OptionName) (value : String) : Except UsageError Progress := do
  match o.valueName? with
  | some _ => (← p.settle).count o value
  | none => throw (.unexpectedValue o value (if o ∈ p.used then p.used else p.used ++ [o]))

/-- An argument that is no option: the value of the open option if that has none, or an input. -/
def plain (p : Progress) (text : String) : Except UsageError Progress := do
  match p.open? with
  | some (o, none) => return { p with open? := some (o, some text) }
  | _ =>
    let p ← p.settle
    return { p with options.inputs := p.options.inputs ++ [text] }

/-- An option given by its full name. -/
def long (p : Progress) (name : String) (value? : Option String) :
    Except UsageError (OptionName × Progress) :=
  match OptionName.ofLong? name with
  | some o =>
    match value? with
    | some value => (o, ·) <$> p.give o value
    | none => (o, ·) <$> p.start o
  | none =>
    let similar? := OptionName.similar? name
    let used := p.settledUse
    .error (.unknownOption name similar?
      (match similar? with
      | some o => if o ∈ used then used else used ++ [o]
      | none => used))

end Progress

/-- What has been read, or a request that ends the reading. -/
inductive Step where
  | more (p : Progress)
  | done (request : Request)

/-- The step after an option. -/
def Step.after (o : OptionName) (p : Progress) : Step :=
  match o with
  | .help => done .help
  | .version => done .version
  | .config | .outDir | .list | .sourceMap | .verbose => more p

/-- Reads joined letters. What follows a letter that takes a value is that value. -/
def readLetters (p : Progress) : List Char → Except UsageError Step
  | [] => .ok (.more p)
  | c :: rest =>
    match OptionName.ofLetter? c with
    | none => .error (.unknownLetter c)
    | some o =>
      match o.valueName?, rest with
      | some _, '=' :: value => .more <$> p.give o (String.ofList value)
      | some _, v :: value => .more <$> p.give o (String.ofList (v :: value))
      | some _, [] => .more <$> p.start o
      | none, rest => do
        match Step.after o (← p.start o) with
        | .more p => readLetters p rest
        | .done request => return .done request

/-- What is asked for when all arguments are read. -/
def Progress.finish (p : Progress) : Except UsageError Request := do
  let p ← p.settle
  if p.options.inputs.isEmpty then throw (.missingInputs p.used)
  return .run p.options

/-- Reads arguments in order. -/
def readArguments (p : Progress) : List String → Except UsageError Request
  | [] => p.finish
  | argument :: rest => do
    match Argument.ofText argument with
    | .separator =>
      let p ← p.settle
      { p with options.inputs := p.options.inputs ++ rest }.finish
    | .long name value? =>
      let (o, p) ← p.long name value?
      match Step.after o p with
      | .more p => readArguments p rest
      | .done request => return request
    | .letters cs =>
      match ← readLetters p cs with
      | .more p => readArguments p rest
      | .done request => return request
    | .plain text => readArguments (← p.plain text) rest

/-- What some arguments ask for. -/
def Request.ofArguments (arguments : List String) : Except UsageError Request :=
  readArguments {} arguments

end PlaceholderExports.CommandLine
