import PluginHost.Logging
import PluginHost.Server

set_option autoImplicit false

namespace PluginHost.Main

/-- How deep code may set off other code. -/
def dispatch : Dispatch := Code.runWithin 100000

/-- How long the run loop is followed while it waits. -/
def patience : Nat := 1000000

def readEnvironment : IO Environment := do
  let bytes ← try IO.FS.readBinFile "/proc/self/environ" catch _ => pure ByteArray.empty
  let text := (String.fromUTF8? bytes).getD ""
  pure ((text.splitOn "\x00").filterMap (Text.splitAtFirst '='))

/-- The files of a directory that configuration is read from. -/
def readDirectory (name : String) (deployment : String) : IO ConfigDirectory := do
  let base ← IO.currentDir
  let mut files : List (String × String) := []
  let candidates := ConfigDirectory.candidates FileFormat.known
  for file in candidates "default" ++ candidates deployment do
    try
      let content ← IO.FS.readFile (name ++ "/" ++ file)
      files := (file, content) :: files
    catch _ => pure ()
  let found := files
  pure
    { name := name
      content? := fun file => Members.find? file found
      origin := fun file => ConfigDirectory.shownFrom base.toString (name ++ "/" ++ file) }

/-- Where events go, and which of them. -/
structure Log where
  filter : LogFilter
  config : LoggingConfig
  /-- When the program started, in milliseconds. -/
  since : Nat

namespace Log

def seconds (ms : Nat) : String :=
  let rest := toString (ms % 1000)
  toString (ms / 1000) ++ "." ++ "".pushn '0' (3 - rest.length) ++ rest

def write (log : Log) (e : Event) : IO Unit := do
  if log.filter.shows e then
    let time := seconds ((← IO.monoMsNow) - log.since)
    let thread := if log.config.threadIds then some "ThreadId(1)" else none
    match log.config.format with
    | .json => IO.println (e.jsonLine (some time) thread)
    | .pretty => IO.println (e.prettyLine time)

def writeFrom (log : Log) (start : Nat) (journal : Journal) : IO Unit := do
  for entry in journal.toList.drop start do
    match entry with
    | .event e => log.write e
    | _ => pure ()

end Log

/-- Takes a step, waits as long as it took on the clock of the reactor, and writes what it told. -/
def follow {α : Type} (log : Log) (act : Act Application α) (app : Application) :
    IO (Flow α × Application) := do
  let (flow, next) := act app
  let passed := next.host.reactor.clock - app.host.reactor.clock
  if passed ≠ 0 then IO.sleep passed.toUInt32
  log.writeFrom app.host.journal.size next.host.journal
  (← IO.getStdout).flush
  pure (flow, next)

/-- Follows the run loop to its end. -/
partial def followLoop (log : Log) (loop : RunLoop) (app : Application) :
    IO (Except Failure Unit × Application) := do
  if loop.phase = .finished then
    match ← follow log (Application.conclude dispatch loop) app with
    | (.returned result, app) => pure (result, app)
    | (_, app) => pure (.ok (), app)
  else
    match ← follow log (Application.loopStep dispatch patience loop) app with
    | (.returned loop, app) => followLoop log loop app
    | (_, app) => pure (.ok (), app)

/-- Lists options or runs the application, and tells how it ended. -/
def serve (log : Log) (listing : Bool) (app : Application) : IO UInt32 := do
  log.writeFrom 0 app.host.journal
  let (result, app) ←
    if listing then
      match ← follow log Application.defaultListing app with
      | (.returned text, app) => do
        IO.print text
        pure (.ok (), app)
      | (_, app) => pure (.ok (), app)
    else
      match ← follow log (Server.bringUp dispatch) app with
      | (.returned (.ok _), app) =>
        match ← follow log Application.openLoop app with
        | (.returned loop, app) =>
          let (result, app) ← followLoop log loop app
          let (_, app) ← follow log (Server.finish result) app
          pure (result, app)
        | (_, app) => pure (.ok (), app)
      | (.returned (.error e), app) => pure (.error e, app)
      | (_, app) => pure (.ok (), app)
  let _ ← follow log (Application.drop dispatch) app
  match result with
  | .ok _ => pure 0
  | .error e =>
    log.write (Server.failureEvent e)
    pure 1

def answer (line : List String) : IO UInt32 := do
  let env ← readEnvironment
  match CommandLine.parse env line with
  | .error .help => do
    IO.println (CommandLine.helpText env)
    pure 0
  | .error .version => do
    IO.println CommandLine.versionText
    pure 0
  | .error refusal => do
    IO.eprintln (CommandLine.complaint refusal)
    pure 2
  | .ok arguments => do
    let directory ← readDirectory arguments.directory arguments.deployment
    match directory.loadFor arguments env with
    | .error e => do
      IO.eprintln ("Failed to load configuration: " ++ e.display)
      pure 1
    | .ok config => do
      let (filter, complaints) := LogFilter.choose (env.value? "RUST_LOG") config.logging.level
      for complaint in complaints do
        IO.eprintln complaint
      let log : Log := ⟨filter, config.logging, ← IO.monoMsNow⟩
      serve log arguments.listing (Server.open_ config [] [])

end PluginHost.Main

def main (line : List String) : IO UInt32 := PluginHost.Main.answer line
