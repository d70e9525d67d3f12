/-!
Ways in which a call to the operating system fails, with the texts it gives for them.
-/

namespace Dirlang

inductive OsError
  | notFound
  | busy
  | exists
  | notADirectory
  | invalid
  | nameTooLong
  | notEmpty
  | tooManyLinks
  /-- A path holds a character that no name can hold. -/
  | badName
  /-- Not even the topmost directory of a path could be made. -/
  | noRoot
deriving DecidableEq

namespace OsError

/-- The number and the text of an error that the system itself reports. -/
def code? : OsError → Option (Nat × String)
  | notFound => some (2, "No such file or directory")
  | busy => some (16, "Device or resource busy")
  | .exists => some (17, "File exists")
  | notADirectory => some (20, "Not a directory")
  | invalid => some (22, "Invalid argument")
  | nameTooLong => some (36, "File name too long")
  | notEmpty => some (39, "Directory not empty")
  | tooManyLinks => some (40, "Too many levels of symbolic links")
  | badName => none
  | noRoot => none

def message (e : OsError) : String :=
  match e.code? with
  | some (number, text) => text ++ " (os error " ++ toString number ++ ")"
  | none =>
    if e = badName then "file name contained an unexpected NUL byte"
    else "failed to create whole tree"

end OsError

end Dirlang
