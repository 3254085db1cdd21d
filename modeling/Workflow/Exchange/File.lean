/-!
# Files

Files hold text as UTF-8.  `FileFault` is why one cannot be read or written, in the words of the system.
-/
namespace Workflow

inductive FileFault where
  | missing
  | denied
  | directory
  /-- A part of the path that ought to be a directory is none. -/
  | notDirectory
  | nameTooLong
  /-- The bytes of the file are not UTF-8. -/
  | notText
  | other (reason : String)
deriving DecidableEq, Repr

namespace FileFault

def message : FileFault → String
  | .missing => "No such file or directory (os error 2)"
  | .denied => "Permission denied (os error 13)"
  | .directory => "Is a directory (os error 21)"
  | .notDirectory => "Not a directory (os error 20)"
  | .nameTooLong => "File name too long (os error 36)"
  | .notText => "stream did not contain valid UTF-8"
  | .other reason => reason

end FileFault

/-- The text that bytes hold. -/
def textOfBytes (bytes : ByteArray) : Except FileFault String :=
  match String.fromUTF8? bytes with
  | some text => .ok text
  | none => .error .notText

end Workflow
