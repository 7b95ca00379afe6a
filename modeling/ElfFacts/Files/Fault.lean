/-!
# Faults of the file system

What can go wrong with a file operation, and how it is told.
-/
namespace ElfFacts

inductive Fault where
  | missing
  | notExecutable
  | denied
  | alreadyThere
  | notDirectory
  | isDirectory
  | nameTooLong
  | tooManyLinks
  | nulInName
  | other (text : String)
  deriving DecidableEq, Repr

namespace Fault

def message : Fault → String
  | .missing => "No such file or directory (os error 2)"
  | .notExecutable => "Exec format error (os error 8)"
  | .denied => "Permission denied (os error 13)"
  | .alreadyThere => "File exists (os error 17)"
  | .notDirectory => "Not a directory (os error 20)"
  | .isDirectory => "Is a directory (os error 21)"
  | .nameTooLong => "File name too long (os error 36)"
  | .tooManyLinks => "Too many levels of symbolic links (os error 40)"
  | .nulInName => "file name contained an unexpected NUL byte"
  | .other text => text

end Fault

end ElfFacts
