import StageZero.Disk.Basic
import StageZero.Toolchain.Command

/-! The machine that programs are launched on. It keeps every launch, and what other programs do to
its disk is up to a launcher, which may be any function. -/
namespace StageZero

/-- An attempt to start a program: the disk it was given, and how it ended if it was started. -/
structure Launch where
  command : Command
  found : Disk
  result : Except Cause Ending

structure Machine where
  disk : Disk
  /-- Where programs are started and paths are read from. -/
  directory : List Name
  launches : List Launch

/-- How programs behave: what a command comes to, and what it leaves on the disk. -/
abbrev Launcher := Machine → Command → Except Cause Ending × Disk

namespace Machine

/-- Starts a command, or fails without asking the launcher if a word of it holds a zero octet. -/
def launch (machine : Machine) (launcher : Launcher) (command : Command) :
    Except Cause Ending × Machine :=
  let (result, disk) :=
    if command.holdsZero then (.error .zeroInWord, machine.disk) else launcher machine command
  (result, { machine with
    disk := disk
    launches := machine.launches ++ [⟨command, machine.disk, result⟩] })

def started (machine : Machine) : List Command :=
  machine.launches.filterMap fun launch =>
    match launch.result with
    | .ok _ => some launch.command
    | .error _ => none

end Machine

def Launcher.idle : Launcher := fun machine _ => (.error .missing, machine.disk)

end StageZero
