import AccountRegistry.Demo

set_option autoImplicit false

/-!
# The command line

Reads the working directory and the environment, runs the demo and writes what it
reports.
-/
namespace AccountRegistry.Main

def lookedUp : List String :=
  [Config.fileName, Config.Format.toml.fileName, Config.Format.json.fileName]

def entry? (name : String) : IO (Option DirectoryEntry) := do
  try return some (.file (← IO.FS.readBinFile name))
  catch
    | .noFileOrDirectory .. => return none
    | .inappropriateType .. => return some .folder
    | _ => return some .unreadable

def directory : IO Directory := do
  let found ← lookedUp.mapM fun name => return (name, ← entry? name)
  return fun name => (found.lookup name).join

def block : IO Block := return .ofBytes (← IO.FS.readBinFile "/proc/self/environ")

end AccountRegistry.Main

open AccountRegistry in
def main : IO UInt32 := do
  let b ← Main.block
  let report := Demo.runOn (Config.loadFrom (← Main.directory) b) []
  for line in report.logLines b.legible do
    IO.eprintln line
  for line in report.output do
    IO.println line
  return UInt32.ofNat report.exit
