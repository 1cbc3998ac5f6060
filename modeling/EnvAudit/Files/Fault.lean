/-!
# EnvAudit.Files.Fault

Why a file or directory cannot be used, and the words in which that is reported.
-/

namespace EnvAudit

/-- Why a file or directory cannot be used. -/
inductive Fault
  /-- Nothing is there. -/
  | notFound
  /-- A name is looked up in what is no directory. -/
  | notDirectory
  /-- A directory is used as a file. -/
  | isDirectory
  /-- Something should be made where something is. -/
  | taken
  /-- A path leads through too many links. -/
  | tooManyLinks
  /-- A name or a path is too long. -/
  | nameTooLong
  /-- A path holds the character `U+0000`. -/
  | nulInName
  /-- The bytes of a file are no text. -/
  | notText
  /-- A link leads to a directory that it is in. -/
  | linkLoop
  /-- Reading or writing is not allowed. -/
  | denied
  /-- What should be run is no program. -/
  | notProgram
  /-- Anything else, as the system puts it. -/
  | other (message : String)
deriving Repr, DecidableEq, Inhabited

/-- The fault in words. -/
def Fault.message : Fault → String
  | .notFound => "No such file or directory (os error 2)"
  | .notDirectory => "Not a directory (os error 20)"
  | .isDirectory => "Is a directory (os error 21)"
  | .taken => "File exists (os error 17)"
  | .tooManyLinks => "Too many levels of symbolic links (os error 40)"
  | .nameTooLong => "File name too long (os error 36)"
  | .nulInName => "file name contained an unexpected NUL byte"
  | .notText => "stream did not contain valid UTF-8"
  | .linkLoop => "symlink loop detected"
  | .denied => "Permission denied (os error 13)"
  | .notProgram => "Exec format error (os error 8)"
  | .other message => message

end EnvAudit
