import Std.Time.DateTime.Timestamp
import Workflow.Command.Run
import Workflow.Exchange.File
/-!
# The program

Reads the files a command names, runs it, and does what its ending says.
-/
namespace Workflow

/-- Is it this code of the system?  Some calls answer a code with its sign turned. -/
def isSystemCode (code answer : UInt32) : Bool := answer == code || answer == 0 - code

def FileFault.ofError : IO.Error → FileFault
  | .noFileOrDirectory _ _ _ => .missing
  | .permissionDenied _ _ _ => .denied
  | .inappropriateType _ code _ => if isSystemCode 20 code then .notDirectory else .directory
  | e@(.invalidArgument _ code _) => if isSystemCode 36 code then .nameTooLong else .other (toString e)
  | e => .other (toString e)

/-- Does something with a file; the fault in words if the system refuses. -/
def attempt {α : Type} (act : IO α) : IO (Except String α) := do
  match ← act.toBaseIO with
  | .ok a => return .ok a
  | .error e => return .error (FileFault.ofError e).message

def textOfFile (path : String) : IO (Except String String) := do
  match ← attempt (IO.FS.readBinFile path) with
  | .ok bytes => return (textOfBytes bytes).mapError (·.message)
  | .error reason => return .error reason

def presentMoment : IO Timestamp := do
  let nanoseconds := (← Std.Time.Timestamp.now).toNanosecondsSinceUnixEpoch.val
  return .ofUnix (nanoseconds.fdiv 1000000000) (nanoseconds.fmod 1000000000).toNat

/-- Says what a command has to say; answers the exit code. -/
def Command.Report.show (r : Command.Report) : IO UInt32 := do
  IO.print r.output
  for note in r.notes do
    IO.eprintln note
  return if r.success then 0 else 1

def Command.perform (c : Command) : IO UInt32 := do
  let texts ← c.paths.mapM fun path => return (path, ← textOfFile path)
  let files := fun path => (texts.lookup path).getD (.error FileFault.missing.message)
  match c.run files (some (← presentMoment)) with
  | .report r => r.show
  | .write path text r => (r.written path (← attempt (IO.FS.writeFile path text))).show

end Workflow

def main (args : List String) : IO UInt32 := do
  match Workflow.Command.ofArguments args with
  | .ok c => c.perform
  | .error e =>
    IO.eprintln ("error: " ++ e.message)
    return 2
