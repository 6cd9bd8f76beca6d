import BusRelay.Log.Line
import BusRelay.Session
/-!
# The program

Reads the settings from the environment, starts, and prints what is logged. It opens no connections,
so the broker stays out of reach for as long as it listens.
-/

namespace BusRelay.Program

/-- The names of the variables that are looked at. -/
def variableNames : List String := "RUST_LOG" :: Configuration.names.map String.toUpper

/-- The variables that are set. -/
def environment : IO Environment :=
  variableNames.filterMapM fun name => do return (← IO.getEnv name).map (name, ·)

def printRecords (records : List Log.Record) : IO Unit := do
  for r in records do IO.println r.line
  (← IO.getStdout).flush

def printErrors (errors : List String) : IO Unit := do
  for e in errors do IO.eprintln e

/-- Prints what is recorded of a happening. -/
def printHappening (l : Listening) (happening : Relay.Happening) : IO Unit :=
  printRecords (l.filter.passed
    (happening.records l.source.settings (fun _ _ => []) (fun _ => "")))

/-- Asks the broker again and again. -/
partial def serve (l : Listening) : IO Unit := do
  printHappening l (.received (l.source.offlineReceipt .epoch))
  IO.sleep l.source.settings.pause.toUInt32
  serve l

end BusRelay.Program

open BusRelay Program in
def main : IO UInt32 := do
  match Session.start (← environment) with
  | .over exit =>
    printRecords exit.records
    printErrors exit.errors
    return exit.code.toUInt32
  | .listening l =>
    printErrors l.errors
    printRecords l.records
    printHappening l (.published .listening)
    serve l
    return 0
