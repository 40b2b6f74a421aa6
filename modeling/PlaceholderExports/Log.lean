/-!
# Log messages

Messages have one of four levels. A console shows the messages from its own level on, informative
ones on standard output and all others on standard error; a silent logger shows nothing and counts
as one for errors.
-/

namespace PlaceholderExports

/-- How important a message is. -/
inductive LogLevel where
  | debug
  | info
  | warn
  | error
deriving DecidableEq, Repr

namespace LogLevel

/-- The levels in ascending order. -/
def all : List LogLevel := [debug, info, warn, error]

/-- The place of a level in the order. -/
def rank : LogLevel → Nat
  | debug => 0
  | info => 1
  | warn => 2
  | error => 3

/-- The level as it is written in front of a message. -/
def label : LogLevel → String
  | debug => "DEBUG"
  | info => "INFO"
  | warn => "WARN"
  | error => "ERROR"

/-- Why a text is no level: the text in lower case is unknown. -/
structure ParseError where
  lowered : String
deriving DecidableEq, Repr

/-- The wording of an unknown level. -/
def ParseError.message (e : ParseError) : String := "unknown log level '" ++ e.lowered ++ "'"

/-- The level that a text names, in any mix of ASCII cases. -/
def ofText (text : String) : Except ParseError LogLevel :=
  match text.map Char.toLower with
  | "debug" => .ok debug
  | "info" => .ok info
  | "warn" => .ok warn
  | "error" => .ok error
  | lowered => .error ⟨lowered⟩

end LogLevel

/-- A message with its level. -/
structure LogEntry where
  level : LogLevel
  text : String
deriving DecidableEq, Repr

/-- The two standard streams. -/
inductive StandardStream where
  | out
  | err
deriving DecidableEq, Repr

/-- What has been written to the two standard streams, as lines in order. -/
structure Streams where
  out : List String := []
  err : List String := []
deriving DecidableEq, Repr

namespace Streams

/-- Everything written to standard output. -/
def outText (s : Streams) : String := String.join (s.out.map (· ++ "\n"))

/-- Everything written to standard error. -/
def errText (s : Streams) : String := String.join (s.err.map (· ++ "\n"))

/-- One more line on a stream. -/
def printLine (s : Streams) (stream : StandardStream) (line : String) : Streams :=
  match stream with
  | .out => { s with out := s.out ++ [line] }
  | .err => { s with err := s.err ++ [line] }

end Streams

/-- Where messages go: nowhere, or to the console from a level on. -/
inductive Logger where
  | silent
  | console (level : LogLevel)
deriving DecidableEq, Repr

namespace Logger

/-- The level of a logger. -/
def level : Logger → LogLevel
  | silent => .error
  | console level => level

/-- Whether messages of a level pass the level of the logger. -/
def isEnabled (l : Logger) (level : LogLevel) : Bool := decide (l.level.rank ≤ level.rank)

/-- The line that shows a message, and the stream that it goes to. -/
def line? (l : Logger) (entry : LogEntry) : Option (StandardStream × String) :=
  match l with
  | silent => none
  | console _ =>
    if l.isEnabled entry.level then
      some (if entry.level = .info then .out else .err,
        "[" ++ entry.level.label ++ "] " ++ entry.text)
    else none

/-- Shows one message. -/
def send (l : Logger) (s : Streams) (entry : LogEntry) : Streams :=
  match l.line? entry with
  | some (stream, line) => s.printLine stream line
  | none => s

end Logger

end PlaceholderExports
