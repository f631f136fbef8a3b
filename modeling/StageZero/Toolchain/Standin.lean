import StageZero.Toolchain.Machine

/-! A launcher for the programs that stand on a disk as stand-ins. -/
namespace StageZero
open Text (Octets)

/-- What a name without a slash starts, which is searched for in directories outside of the disk:
nothing is found there but those directories and what holds them. -/
def Path.searched (program : Path) : Cause :=
  if program.bytes = [dot] ∨ program.bytes = [dot, dot] then .denied
  else if Disk.longestName < program.bytes.length then .nameTooLong
  else .missing

/-- The stand-in that a path starts. -/
def Disk.standin (disk : Disk) (directory : List Name) (program : Path) : Except Cause Standin :=
  if Path.slash ∉ program.bytes then .error program.searched
  else
    match disk.file directory program with
    | .error .isDirectory => .error .denied
    | .error cause => .error cause
    | .ok (_, _, false) => .error .denied
    | .ok (_, .bytes _, true) => .error .notProgram
    | .ok (_, .program standin, true) => .ok standin

/-- The word behind the first `-o`. -/
def outputWord? : List Octets → Option Octets
  | [] | [_] => none
  | word :: value :: later =>
    if word = Text.octets "-o" then some value else outputWord? (value :: later)

/-- What a stand-in writes. One that cannot write goes on to its end. -/
def Standin.write (standin : Standin) (disk : Disk) (directory : List Name)
    (arguments : List Octets) : Disk :=
  match standin.builds, outputWord? arguments with
  | some ending, some word =>
    match disk.write directory ⟨word⟩ (.program ⟨ending, none⟩) true with
    | .ok disk => disk
    | .error _ => disk
  | _, _ => disk

def Launcher.standins : Launcher := fun machine command =>
  match machine.disk.standin machine.directory command.program with
  | .error cause => (.error cause, machine.disk)
  | .ok standin =>
    (.ok standin.ending, standin.write machine.disk machine.directory command.arguments)

end StageZero
