import LabLifecycle.Host.Schedule
import LabLifecycle.Shell.Program
import LabLifecycle.Tools.Copy
import LabLifecycle.Tools.Count
import LabLifecycle.Tools.Echo
import LabLifecycle.Tools.Edit.Editor
import LabLifecycle.Tools.Pause
import LabLifecycle.Tools.Surround

/-!
# The tools of a system

The programs that scripts can count on, and a file tree in which they are found.
-/
namespace LabLifecycle

/-- A program that ends with a code at once. -/
def endingProgram (code : Nat) : Program := fun _ _ => .exit (.code code)

/-- The programs by name. -/
def toolPrograms : List (String × Program) := [
  ("cat", Copy.program), ("dash", Shell.program), ("echo", Echo.program),
  ("env", Surround.program), ("false", endingProgram 1), ("sed", Edit.program),
  ("sh", Shell.program), ("sleep", Pause.program), ("true", endingProgram 0),
  ("wc", Count.program)]

/-- The program of a name. -/
def systemPrograms : Programs := fun name => toolPrograms.lookup name

/-- The directories of a system that are there before anything is put into them. -/
def systemDirectories : List (List String) := [
  ["dev"], ["etc"], ["home"], ["proc"], ["root"], ["tmp"], ["usr"], ["usr", "bin"],
  ["usr", "local"], ["usr", "local", "bin"], ["usr", "sbin"], ["var"]]

/-- The places of devices, and what stands there. -/
def systemDevices : List (List String × FileEntry) := [
  (["dev", "null"], .sink), (["dev", "stdin"], .descriptor 0), (["dev", "stdout"], .descriptor 1),
  (["dev", "stderr"], .descriptor 2)] ++
  (List.range 10).map fun n => (["dev", "fd", toString n], .descriptor n)

/-- A file tree with the tools in `/usr/bin`, which is `/bin` as well, and with devices. -/
def systemTree : FileTree :=
  let place (names : List String) : Place := names.map textBytes
  let t := systemDirectories.foldl (fun (t : FileTree) d => t.add (place d) .directory) {}
  let t := toolPrograms.foldl (fun t p => t.add (place ["usr", "bin", p.1]) (.tool p.1)) t
  let t := systemDevices.foldl (fun t d => t.add (place d.1) d.2) t
  (t.put (place ["bin"]) (.link (textBytes "usr/bin"))).put (place ["sbin"])
    (.link (textBytes "usr/sbin"))

end LabLifecycle
