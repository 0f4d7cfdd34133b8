import CloudProvider.CommandLine

/-!
# The program

Reads the arguments, the environment and standard input, and writes what the library says. The
program has no network of its own, so that no host can be reached.
-/

namespace CloudProvider
set_option autoImplicit false

/-- The variables that the program looks at. -/
def variableNames : List String :=
  ["HOME", "XDG_CONFIG_HOME", "FLEETFORM_CONFIG_PATH", "FLEETFORM_TOKEN", "FLEETFORM_API_URL",
    "FLEETFORM_PROJECT_ID", "FLEETFORM_REGION", "FLEETFORM_PROFILE"]

def readFile (path : String) : IO File := do
  try
    return .content ((← IO.FS.readBinFile path).toList.map UInt8.toNat) "no credentials"
  catch e =>
    match e with
    | .noFileOrDirectory .. => return .missing
    | e => return .unreadable (toString e)

/-- The environment of the program, with its credentials file. -/
def readEnvironment : IO Environment := do
  let values ← variableNames.filterMapM fun name => do
    return (← IO.getEnv name).map (name, ·)
  let env : Environment := ⟨Keyed.ofList values, none, fun _ => .missing⟩
  match env.credentialsPath? with
  | none => return env
  | some path =>
    let file ← readFile path
    return { env with file := fun p => if p = path then file else .missing }

/-- A world in which no host can be reached. -/
def offline : World := ⟨⟨false, []⟩, 0, []⟩

/-- Answers the lines of standard input as they come. -/
partial def serveLines (env : Environment) (s : Server) (w : World) : IO Unit := do
  let line ← (← IO.getStdin).getLine
  match Service.lines line with
  | [] => return
  | request :: _ =>
    if Text.isBlankText request then serveLines env s w
    else
      let (a, s, w) := (Server.service env).answer request (s, w)
      let stdout ← IO.getStdout
      stdout.putStrLn a.line
      stdout.flush
      if !s.stopped then serveLines env s w

end CloudProvider

open CloudProvider in
def main (args : List String) : IO UInt32 := do
  let env ← readEnvironment
  match Invocation.parse args with
  | .serve =>
    IO.println (Server.service env).handshake
    (← IO.getStdout).flush
    serveLines env .start offline
    return 0
  | i =>
    let (exit, _) := i.run env "" offline
    IO.print exit.stdout
    IO.eprint exit.stderr
    return exit.code.toUInt32
