import TreeLint.Command.Run
import TreeLint.Disk

/-! # The program

A command works on a disk that is a value.  This is the layer around it: it copies what
the command can reach from the real disk, runs the command, prints what it says and
makes the changes it has made. -/

namespace TreeLint

/-- Copies what is at a path, with all that is below it, to a disk. -/
partial def copyAll (d : Disk) (path : String) : IO Disk := do
  let here := (← IO.currentDir) / path
  if ← here.isDir then
    let mut d := (d.makeFolder (utf8 path)).toOption.getD d
    for entry in ← here.readDir do
      d ← copyAll d (path ++ "/" ++ entry.fileName)
    return d
  else if ← here.pathExists then
    let content ← IO.FS.readBinFile here
    return (d.write (utf8 path) content.toList).toOption.getD d
  else return d

def foldersAbove (path : String) : List String :=
  let parts := path.splitOn "/"
  (List.range parts.length).map fun n => String.intercalate "/" (parts.take n)

def perform (c : Disk.Change) : IO Unit := do
  match c with
  | .write path content =>
    if let some folder := (Path.dir path).toString? then
      IO.FS.createDirAll folder
    if let some file := path.toString? then
      IO.FS.writeBinFile file ⟨content.toArray⟩
  | .remove path =>
    if let some file := path.toString? then
      IO.FS.removeFile file

def cacheHome : IO String := do
  match ← IO.getEnv "XDG_CACHE_HOME" with
  | some folder => if !folder.isEmpty then return folder
  | none => pure ()
  return ((← IO.getEnv "HOME").getD "") ++ "/.cache"

/-- The disk as far as a command with these arguments can reach it: the folder it is
started in, what its arguments name, the configurations above and the cache. -/
def reachable (caches : String) (args : List String) : IO Disk := do
  let cwd := (← IO.currentDir).toString
  let mut d : Disk := ⟨.empty, utf8 cwd⟩
  let name := (Text.toString? Config.fileName).getD ""
  let program := (Text.toString? programName).getD ""
  for folder in foldersAbove cwd do
    d ← copyAll d (folder ++ "/" ++ name)
  d ← copyAll d cwd
  d ← copyAll d (caches ++ "/" ++ program)
  for arg in args do
    if arg.startsWith "/" || arg.startsWith ".." then d ← copyAll d arg
  return d

def printTo (out : IO.FS.Stream) (t : Text) : IO Unit := do
  out.write ⟨t.toArray⟩
  out.flush

def runMain (args : List String) : IO UInt32 := do
  let caches ← cacheHome
  let disk ← reachable caches args
  let out ← IO.getStdout
  let log ← IO.getStderr
  let env : Command.Environment := {
    disk
    build := .this
    cacheHome := utf8 caches
    terminal := ← out.isTty
    unattended := ((← IO.getEnv "CI").getD "") != ""
    now := ⟨← IO.monoNanosNow⟩ }
  let result := Command.run env (args.map utf8)
  printTo out result.stdout
  printTo log (result.stderr ++ result.log)
  for c in disk.changes result.disk do
    perform c
  match result.failure? with
  | none => return 0
  | some .diagnostics => return 1
  | some (.message m) =>
    printTo log ("error: " ++ m ++ "\n")
    return 1

end TreeLint

def main (args : List String) : IO UInt32 := TreeLint.runMain args
