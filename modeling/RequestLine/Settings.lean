import RequestLine.Log.Format
import RequestLine.Text.Numeral

/-!
# Settings

How the service is to run. Each setting has a flag for the command line, a variable for the
environment and a default; a flag goes before a variable and a variable before the default.

A flag takes one value, behind an equals sign or as the next argument, which must not look like a
flag itself. Arguments are read from left to right. The value of a flag that stands alone counts
only once the next flag is read or the arguments end, so an argument that means nothing is noticed
before a bad value in front of it.
-/

namespace RequestLine

/-- How the service is to run. -/
structure Settings where
  host : String := "127.0.0.1"
  port : UInt16 := 3000
  /-- How long a request may take, in milliseconds. -/
  timeout : UInt64 := 10000
  logFilter : String := "info"
  logFormat : Log.Format := .compact
  deriving DecidableEq, Repr

namespace Settings

/-- Where the service listens. -/
def address (s : Settings) : String :=
  s.host ++ ":" ++ String.ofList (Text.decimal s.port.toNat)

/-- The settings that can be chosen. -/
inductive Flag where
  | host | port | timeout | logFilter | logFormat
  deriving DecidableEq, Repr

namespace Flag

/-- All flags, in the order in which the environment is looked at. -/
def all : List Flag := [.host, .port, .timeout, .logFilter, .logFormat]

/-- The name of a flag, behind two hyphens. -/
def name : Flag → String
  | .host => "host"
  | .port => "port"
  | .timeout => "timeout-ms"
  | .logFilter => "log-filter"
  | .logFormat => "log-format"

/-- The variable of the environment that stands for a flag. -/
def variableName : Flag → String
  | .host => "REQLINE_HOST"
  | .port => "PORT"
  | .timeout => "REQLINE_TIMEOUT_MS"
  | .logFilter => "RUST_LOG"
  | .logFormat => "REQLINE_LOG_FORMAT"

/-- The text that is read for a flag which is not given and has no variable set. -/
def defaultText : Flag → String
  | .host => "127.0.0.1"
  | .port => "3000"
  | .timeout => "10000"
  | .logFilter => "info"
  | .logFormat => "compact"

/-- The flag with a name. -/
def ofName? (text : String) : Option Flag :=
  all.find? (·.name == text)

end Flag

/-- Why there are no settings. -/
inductive Stop where
  /-- Help is asked for. -/
  | help
  /-- The version is asked for. -/
  | version
  /-- A value is missing, or none of the possible ones. -/
  | noValue
  /-- A value is no number in range. -/
  | badNumber
  | unknownArgument
  | repeatedFlag
  /-- A value is given to what takes none. -/
  | needlessValue
  deriving DecidableEq, Repr

/-- The status that the program ends with. -/
def Stop.exitCode : Stop → UInt32
  | .help | .version => 0
  | _ => 2

/-! ## Choices -/

/-- What has been chosen so far. -/
structure Choice where
  host? : Option String := none
  port? : Option UInt16 := none
  timeout? : Option UInt64 := none
  logFilter? : Option String := none
  logFormat? : Option Log.Format := none
  deriving DecidableEq, Repr

namespace Choice

/-- Whether a setting has been chosen. -/
def has (c : Choice) : Flag → Bool
  | .host => c.host?.isSome
  | .port => c.port?.isSome
  | .timeout => c.timeout?.isSome
  | .logFilter => c.logFilter?.isSome
  | .logFormat => c.logFormat?.isSome

/-- A number below a bound, given how numerals are read. -/
def number (read : List Char → Option Nat) (bound : Nat) (text : String) : Except Stop Nat :=
  match read text.toList with
  | some n => if n < bound then .ok n else .error .badNumber
  | none => .error .badNumber

/-- Chooses a setting. -/
def set (c : Choice) (flag : Flag) (text : String) : Except Stop Choice :=
  match flag with
  | .host => .ok { c with host? := some text }
  -- a port is read as an integer and then found to be in range, so zero may have a minus sign
  | .port => do
    return { c with port? := some (← number Text.integerNumeral? UInt16.size text).toUInt16 }
  | .timeout => do
    return { c with timeout? := some (← number Text.signedNumeral? UInt64.size text).toUInt64 }
  | .logFilter => .ok { c with logFilter? := some text }
  | .logFormat =>
    match Log.Format.ofName? text with
    | some format => .ok { c with logFormat? := some format }
    | none => .error .noValue

/-- Chooses a setting that has not been chosen before. -/
def give (c : Choice) (flag : Flag) (text : String) : Except Stop Choice :=
  if c.has flag then .error .repeatedFlag else c.set flag text

/-- The settings that have been chosen, and the usual ones for the rest. -/
def settings (c : Choice) : Settings :=
  let d : Settings := {}
  { host := c.host?.getD d.host
    port := c.port?.getD d.port
    timeout := c.timeout?.getD d.timeout
    logFilter := c.logFilter?.getD d.logFilter
    logFormat := c.logFormat?.getD d.logFormat }

end Choice

/-! ## Arguments -/

/-- What an argument looks like. -/
inductive Argument where
  /-- Two hyphens: no flags follow. -/
  | ending
  /-- A name behind two hyphens, perhaps with a value behind an equals sign. -/
  | long (name : String) (value? : Option String)
  /-- Letters behind one hyphen. -/
  | short (letters : List Char)
  | plain (text : String)
  deriving DecidableEq, Repr

/-- Looks at an argument. -/
def Argument.ofText (text : String) : Argument :=
  match text.toList with
  | ['-', '-'] => .ending
  | '-' :: '-' :: rest =>
    match rest.span (· != '=') with
    | (name, _ :: value) => .long (String.ofList name) (some (String.ofList value))
    | (name, []) => .long (String.ofList name) none
  | '-' :: letter :: rest => .short (letter :: rest)
  | _ => .plain text

/-- Reading in progress: what has been chosen, and the last flag that stood alone, with its value if
that has been read. -/
structure Reading where
  chosen : Choice := {}
  open? : Option (Flag × Option String) := none
  deriving DecidableEq, Repr

namespace Reading

/-- What has been chosen once the last flag counts too. -/
def settle (r : Reading) : Except Stop Choice :=
  match r.open? with
  | none => .ok r.chosen
  | some (_, none) => .error .noValue
  | some (flag, some text) => r.chosen.give flag text

/-- Ends the program, unless what was read before is faulty. -/
def halt (r : Reading) (stop : Stop) : Except Stop Reading := do
  let _ ← r.settle
  throw stop

/-- Reads an argument that is a name with two hyphens. -/
def long (r : Reading) (name : String) (value? : Option String) : Except Stop Reading :=
  match Flag.ofName? name, value? with
  | some flag, some text => do return { chosen := ← (← r.settle).give flag text }
  | some flag, none => do return { chosen := ← r.settle, open? := some (flag, none) }
  | none, _ =>
    if name = "help" ∨ name = "version" then
      if value?.isSome then .error .needlessValue
      else r.halt (if name = "help" then .help else .version)
    else .error .unknownArgument

/-- Reads an argument that is letters behind one hyphen, of which the first decides. -/
def short (r : Reading) (letters : List Char) : Except Stop Reading :=
  match letters.head? with
  | some 'h' => r.halt .help
  | some 'V' => r.halt .version
  | _ => .error .unknownArgument

/-- Reads any other argument, which has to be the value of the last flag. -/
def plain (r : Reading) (text : String) : Except Stop Reading :=
  match r.open? with
  | some (flag, none) => .ok { r with open? := some (flag, some text) }
  | _ => .error .unknownArgument

/-- Reads all arguments. -/
def all (r : Reading) : List String → Except Stop Choice
  | [] => r.settle
  | text :: rest =>
    match Argument.ofText text with
    | .ending => if rest.isEmpty then r.settle else .error .unknownArgument
    | .long name value? => do (← r.long name value?).all rest
    | .short letters => do (← r.short letters).all rest
    | .plain text => do (← r.plain text).all rest

end Reading

/-! ## Resolution -/

/-- Chooses a setting from the environment or by default, unless it has been chosen. -/
def fill (environment : List (String × String)) (c : Choice) (flag : Flag) : Except Stop Choice :=
  if c.has flag then .ok c
  else c.set flag ((environment.lookup flag.variableName).getD flag.defaultText)

/-- The settings that arguments and an environment make up. -/
def resolve (arguments : List String) (environment : List (String × String)) :
    Except Stop Settings := do
  let chosen ← ({} : Reading).all arguments
  let chosen ← Flag.all.foldlM (fill environment) chosen
  return chosen.settings

end Settings

end RequestLine
