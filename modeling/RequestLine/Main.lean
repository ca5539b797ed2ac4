import RequestLine.Log.Session
import RequestLine.Service.Basic
import RequestLine.Service.Network
import RequestLine.Settings

/-!
# The program

Resolves the settings, installs the log, and serves the calls on standard input: each line is the
body of a call, and the body of the reply to it is written as one line. Log lines go to standard
error. Requests pass the check of the network transport; beyond it there is no network to reach.
-/

namespace RequestLine.Main

/-- The variables of the environment that settings are taken from. -/
def environment : IO (List (String × String)) :=
  Settings.Flag.all.filterMapM fun flag => do
    return (← IO.getEnv flag.variableName).map (flag.variableName, ·)

/-- The transport of a program without a network. -/
def unreachable : Transport :=
  Network.transport fun _ => .undelivered (.broken "connection failed")

/-- What is written when the program stops before it serves anything. -/
def stopText : Settings.Stop → String
  | .help => "Usage: reqline-server " ++
      String.intercalate " " (Settings.Flag.all.map fun flag => "[--" ++ flag.name ++ " <VALUE>]")
  | .version => "reqline-server 0.1.0"
  | .noValue => "error: a value is missing or is not one of the possible values"
  | .badNumber => "error: a value is not a number in range"
  | .unknownArgument => "error: unexpected argument found"
  | .repeatedFlag => "error: an argument cannot be used multiple times"
  | .needlessValue => "error: unexpected value for an argument"

/-- The call with a line of input as its body. -/
def callOf (line : String) : Service.Call :=
  { body := line.toUTF8.toList }

/-- Serves the calls that are left on standard input. -/
partial def serve (sink : Log.Sink) (input output errors : IO.FS.Stream) : IO Unit := do
  let line ← input.getLine
  if line.isEmpty then return
  let start := (← IO.monoMsNow).toUInt64
  let stop := (← IO.monoMsNow).toUInt64
  let exchange := Service.handle unreachable ⟨start, stop⟩ (callOf line)
  for text in sink.lines exchange.events do
    errors.putStrLn text
  output.putStrLn exchange.reply.body
  output.flush
  serve sink input output errors

/-- Runs the program with settings. -/
def run (settings : Settings) : IO UInt32 := do
  let errors ← IO.getStderr
  match Log.Filter.parse settings.logFilter with
  | .error cause =>
    errors.putStrLn ("Error: " ++ Log.refusalMessage cause)
    return 1
  | .ok filter =>
    serve ⟨filter, settings.logFormat⟩ (← IO.getStdin) (← IO.getStdout) errors
    return 0

end RequestLine.Main

/-- The program. -/
def main (arguments : List String) : IO UInt32 := do
  match RequestLine.Settings.resolve arguments (← RequestLine.Main.environment) with
  | .ok settings => RequestLine.Main.run settings
  | .error stop =>
    let stream ← if stop.exitCode = 0 then IO.getStdout else IO.getStderr
    stream.putStrLn (RequestLine.Main.stopText stop)
    return stop.exitCode
