import StageZero.CommandLine.Run

/-! The program itself. It takes from the file system what a run can ask for, runs, and then writes
what the run wrote. It starts no other programs. -/
namespace StageZero.Main

/-- Adds what stands at the names to a disk, if anything does. -/
def readNode (disk : Disk) (names : List Name) : IO Disk := do
  let file := (← IO.currentDir) / (Location.rooted names).display
  try
    if ← file.isDir then return disk.put names .directory
    return disk.put names (.file (.bytes (← IO.FS.readBinFile file).toList) false)
  catch _ => return disk

/-- Adds what stands on the way from the root to the names, and at them. -/
def readWay (disk : Disk) (names : List Name) : IO Disk :=
  (List.range names.length).foldlM (fun disk count => readNode disk (names.take (count + 1))) disk

/-- What a configuration makes a run read: its input and the way to its output. -/
def readFor (directory : List Name) (config : Config) : IO Disk := do
  let disk ← readWay .empty (Location.namesOf directory config.input.path)
  readWay disk (Location.namesOf directory config.cppPath)

/-- Brings the file system to what a disk holds, for nodes that the run changed. -/
def writeNode (before : Disk) (entry : List Name × Node) : IO Unit := do
  let file := (← IO.currentDir) / (Location.rooted entry.1).display
  if before.node? entry.1 = some entry.2 then return
  match entry.2 with
  | .directory => IO.FS.createDirAll file
  | .file content _ => IO.FS.writeBinFile file content.read.toByteArray

def run (words : List String) : IO UInt32 := do
  let directory := Location.namesOf [] (.ofString (← IO.currentDir).toString)
  let disk ←
    match resolve directory words with
    | .ok (.compile config) => readFor directory config
    | .ok .help | .ok .version | .error _ => pure .empty
  let done := runCommandLine .idle ⟨disk, directory, []⟩ words
  done.machine.disk.nodes.reverse.forM (writeNode disk)
  IO.print done.output
  IO.eprint (String.join (done.notices.map Notice.render))
  return done.exitCode.toUInt32

end StageZero.Main

def main (arguments : List String) : IO UInt32 := StageZero.Main.run ("jakt" :: arguments)
