import PackageRegistry.Program
import PackageRegistry.Text.Base64

/-!
The command line. It gathers the world around a run, lets the program decide, and carries out what
it decided. No transport is linked in, so the registry is never within reach.
-/

namespace PackageRegistry.Main

/-- What is at a location of the real disk. -/
def probe (l : Location) : IO (Option Entry) := do
  try
    let content ← IO.FS.readBinFile l
    return some (.file content.toList)
  catch
    | .noFileOrDirectory .. => return none
    | _ => return some .directory

/-- The disk with what is at a location of the real one. -/
def observe (d : Disk) (l : Location) : IO Disk := do
  match ← probe l with
  | none => return d
  | some .directory => return (d.makeDirectory l).2
  | some (.file content) => return ((d.makeParent l).2.write l content).2

/-- The variables of this process. -/
def processEnvironment : IO Environment := do
  let bytes ← try IO.FS.readBinFile "/proc/self/environ" catch _ => pure .empty
  let chars := (Text.Utf8.lossy bytes.toList).toList
  let pairs := (Text.pieces '\x00' chars).filterMap fun entry =>
    (Text.cutAt (· == '=') entry).map fun (k, v) => (String.ofList k, String.ofList v)
  return Keyed.sort pairs

/-- The locations that a command looks at, with the settings it has. -/
def locations (c : Arguments.Command) (s : Settings) : List Location :=
  Program.accountLocation s ::
    match c with
    | .publish o => [o.readme]
    | _ => []

/-- The world as far as a command can see it, without what the user types. -/
def surroundings (c : Arguments.Command) : IO World := do
  let environment ← processEnvironment
  let here := (← IO.currentDir).toString
  let blank : Disk := { current := Location.names here }
  let disk := (blank.makeDirectory here).2
  let configDir := (Settings.configDirOf environment disk).toOption.getD ""
  let disk ← [configDir, configDir.join "registry.toml", configDir.join "registry.toml.toml"].foldlM
    observe disk
  let disk ←
    match Settings.load .plain environment disk with
    | (.ok s, _) => (locations c s).foldlM observe disk
    | (.error _, _) => pure disk
  let secret ← IO.getRandomBytes 16
  return {
    environment
    disk
    input := []
    replies := fun _ => .interrupted .unreachable
    loginState := Text.Base64.encode secret.toList }

/-- The lines that the user types. -/
partial def typed (input : IO.FS.Stream) : IO (List Browse.Line) := do
  let line ← input.getLine
  if line.isEmpty then return []
  let rest ← typed input
  return (Text.lines line).map (fun t => { text := t : Browse.Line }) ++ rest

/-- Brings the real disk to the state that a run left. -/
def carryOut (world : World) (e : Effect) : IO Unit := do
  match Settings.load world.library world.environment world.disk with
  | (.error _, _) => return
  | (.ok s, d) =>
    if s.configDir ≠ "" then IO.FS.createDirAll s.configDir
    let l := Program.accountLocation s
    match e.disk.entry? l with
    | some (.file content) =>
      if d.entry? l ≠ some (.file content) then
        IO.FS.createDirAll s.dataDir
        let fresh := l ++ ".new"
        IO.FS.writeBinFile fresh ⟨content.toArray⟩
        IO.FS.rename fresh l
    | _ => if (d.entry? l).isSome ∧ (e.disk.entry? l).isNone then IO.FS.removeFile l

/-- Prints what a run printed, but for the messages that the user has seen already. -/
def print (e : Effect) (seen : Nat) : IO Unit := do
  (← IO.getStdout).putStr e.output
  (← IO.getStderr).putStr (Display.block (e.allMessages.drop seen))

def perform (c : Arguments.Command) : IO UInt32 := do
  let world ← surroundings c
  let first := Program.run c world
  let asks : Bool :=
    match c with
    | .login | .browse _ _ => !first.messages.isEmpty
    | _ => false
  let seen := if asks then (if c = .login then first.messages.length else Browse.help.length) else 0
  if asks then (← IO.getStderr).putStr (Display.block (first.messages.take seen))
  let input ← if asks then typed (← IO.getStdin) else pure []
  let e := Program.run c { world with input }
  print e seen
  carryOut world e
  return UInt32.ofNat e.exitCode

def usage : String :=
  "Usage: rads-registry [-v]... [-q] (search | browse | show | stats | publish | auth) ...\n"

end PackageRegistry.Main

def main (args : List String) : IO UInt32 := do
  match PackageRegistry.Arguments.parse args with
  | .ok (_, c) => PackageRegistry.Main.perform c
  | .error .help =>
    (← IO.getStdout).putStr PackageRegistry.Main.usage
    return 0
  | .error .usage =>
    (← IO.getStderr).putStr (PackageRegistry.Message.error PackageRegistry.Main.usage)
    return 1
