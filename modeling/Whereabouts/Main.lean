import Std.Time
import Whereabouts.Http.Exchange
import Whereabouts.Program.Server
import Whereabouts.Program.Worker

/-!
# The command line

`whereabouts server` answers the requests on standard input, a record a line. `whereabouts worker`
enriches a file of events and writes the records.
-/

namespace Whereabouts.Program

open Std.Time

def readClock : IO Instant := do
  let now ← Timestamp.now
  let time := DateTime.ofTimestamp now TimeZone.ZoneRules.UTC
  return ⟨now.toMillisecondsSinceUnixEpoch.toInt, ← IO.monoMsNow,
    time.format "uuuu-MM-dd'T'HH:mm:ss.SSSSSSSSS'Z'"⟩

/-- There is no access to the web: the distances on foot stay unknown. -/
def offline (_ : Url) : IO (Option WebResponse) := return none

def readFile? (path : String) : IO (String × Option (List UInt8)) := do
  match ← (IO.FS.readBinFile path).toBaseIO with
  | .ok bytes => return (path, some bytes.toList)
  | .error _ => return (path, none)

/-- The configuration, the files that it names and some others. -/
def readFiles (config : String) (others : List String) : IO Files := do
  let (_, written) ← readFile? config
  let data := match Config.ofFile config written with
    | .ok settings => [settings.data.boundaries, settings.data.stops, settings.data.lines]
    | .error _ => []
  let found ← (data ++ others).mapM readFile?
  return fun path => (List.lookup path ((config, written) :: found)).join

/-- Prints why the program stops, and gives its exit code. -/
def fail (e : Failure) : IO UInt32 := do
  IO.eprintln ("Error: " ++ e.message)
  return UInt32.ofNat e.exitCode

/-- Answers the requests of a stream until it ends. -/
partial def answerLines (p : Pipeline IO) (input output : IO.FS.Stream) : IO Unit := do
  let line ← input.getLine
  if line.isEmpty then return
  let response ← match Http.Request.ofLine? line with
    | some request => Service.respond p request
    | none => pure (Http.Response.bare 400 none)
  output.putStrLn response.toJson.print
  output.flush
  answerLines p input output

def server (line : List String) : IO UInt32 := do
  match ServerOptions.ofLine line with
  | .error e => fail (.usage e)
  | .ok options =>
    match serverPipeline line (← readFiles options.config []) offline with
    | .error e => fail e
    | .ok (_, p) =>
      answerLines p (← IO.getStdin) (← IO.getStdout)
      return 0

/-- Writes the payloads, a line each, into a file or on standard output. -/
def writeLines (output : Option String) (payloads : List String) : IO UInt32 := do
  let text := String.join (payloads.map (· ++ "\n"))
  match output with
  | none =>
    IO.print text
    return 0
  | some path =>
    match ← (IO.FS.writeFile path text).toBaseIO with
    | .ok _ => return 0
    | .error _ => fail (.cannotCreate path)

/-- The worker. One that follows the stream waits for the end of standard input. -/
def worker (line : List String) : IO UInt32 := do
  match WorkerOptions.ofLine line with
  | .error e => fail (.usage e)
  | .ok options =>
    let files ← readFiles options.config [options.input]
    match ← runWorker options files offline readClock .drained with
    | .error e => fail e
    | .ok payloads =>
      if options.follow then
        let _ ← (← IO.getStdin).readToEnd
      writeLines options.output payloads

end Whereabouts.Program

def main (line : List String) : IO UInt32 := do
  match line with
  | "server" :: rest => Whereabouts.Program.server rest
  | "worker" :: rest => Whereabouts.Program.worker rest
  | _ =>
    IO.eprintln "usage: whereabouts (server | worker) ..."
    return 2
