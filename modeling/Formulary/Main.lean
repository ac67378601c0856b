/-
Formulary.Main — the program.

The environment and the command line are read here, the time is looked up, and what the command line
leads to is written out. Everything else is decided elsewhere.
-/
import Formulary.Cli.Basic

namespace Formulary.Main

/-- The environment of the process. -/
def environment : IO Environment := do
  let texts ← Variable.all.mapM fun v => do
    let text ← IO.getEnv v.name
    pure (v, text.map String.toList)
  pure fun v => (texts.find? fun entry => entry.1 == v).bind fun entry => entry.2

/-- The stamp of log records: the milliseconds of the clock. -/
def stamp : IO Text := do
  let now ← IO.monoMsNow
  pure (Number.natText now)

/-- Write lines to the error output. -/
def report (lines : List Text) : IO Unit :=
  lines.forM fun line => IO.eprintln (String.ofList line)

/-- Write lines to the output. -/
def output (lines : List Text) : IO Unit :=
  lines.forM fun line => IO.println (String.ofList line)

/-- What a web server has to be told. -/
def handOver (options : Cli.ServeOptions) : Text :=
  Cli.application.toList ++ [' '] ++ options.host ++ [':'] ++ Number.intText options.port
    ++ if options.reload then " reload".toList else []

/-- Carry out an effect, giving the status of the process. -/
def perform : Cli.Effect → IO UInt32
  | .finished status printed diagnostics => do
    report diagnostics
    output printed
    pure status.toUInt32
  | .shown status page => do
    IO.print (String.ofList page.text)
    pure status.toUInt32
  | .refused usage line => do
    IO.eprint (String.ofList usage)
    report [line]
    pure 2
  | .serving options => do
    output [handOver options]
    pure 0
  | .unknownLevel name => do
    report ["ValueError: ".toList ++ Cli.unknownLevelMessage name]
    pure 1

/-- Run the program. -/
def run (arguments : List String) : IO UInt32 := do
  match Settings.ofEnvironment (← environment) with
  | .error error => do
    report [error.name.toList ++ ": ".toList ++ error.message]
    pure 1
  | .ok settings => perform (Cli.run settings (← stamp) (arguments.map String.toList))

end Formulary.Main

/-- The entry point. -/
def main (arguments : List String) : IO UInt32 :=
  Formulary.Main.run arguments
