/-!
# Faults of the disk

Why the disk refuses a request, with the wording and the number of the operating system.
-/

namespace Codemod.Disk

inductive Fault where
  | noEntry
  | alreadyThere
  | notFolder
  | isFolder
  | nameTooLong
  | tooManyLinks
  /-- The path holds a character that no path can hold. -/
  | badPath
  deriving DecidableEq, Inhabited

def Fault.message : Fault → String
  | noEntry => "No such file or directory (os error 2)"
  | alreadyThere => "File exists (os error 17)"
  | notFolder => "Not a directory (os error 20)"
  | isFolder => "Is a directory (os error 21)"
  | nameTooLong => "File name too long (os error 36)"
  | tooManyLinks => "Too many levels of symbolic links (os error 40)"
  | badPath => "file name contained an unexpected NUL byte"

end Codemod.Disk
