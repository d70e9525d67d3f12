/-!
Ways in which a call on the machine fails, and the texts that report them.
-/

namespace Dirlang

inductive Error
  | notFound (what : String)
  | alreadyExists (what : String)
  /-- The file system refused; the text is its own. -/
  | systemCall (text : String)
  | closedResource (text : String)
  | argumentCount (expected : String) (actual : Nat)
  | argument (text : String)
  | notImplemented (text : String)
  | typeMismatch (expected actual : String)
  | noMethod (method receiver : String)
  | danglingObject
deriving DecidableEq, Inhabited

namespace Error

/-- A call with the wrong number of arguments, when from `least` to `most` are taken. -/
def arity (least most actual : Nat) : Error :=
  .argumentCount (if least = most then toString least else toString least ++ ".." ++ toString most)
    actual

def notADirectory (path : String) : Error := .notFound (path ++ " is not a directory")

def noSuchDirectory : Error := .notFound "No such directory"

def closedDirectory : Error := .closedResource "closed directory"

def alreadyClosed : Error := .closedResource "Directory already closed"

def noBlock : Error := .argument "no block given"

def noChroot : Error :=
  .notImplemented "chroot not implemented: chroot is non-portable and is not supported."

def message : Error → String
  | notFound what => "No such file or directory - " ++ what
  | alreadyExists what => "File exists - " ++ what
  | argumentCount expected actual =>
    "Argument count mismatch: expected " ++ expected ++ " but got " ++ toString actual
  | typeMismatch expected actual =>
    "Type mismatch: expected " ++ expected ++ " but got " ++ actual
  | noMethod method receiver => "Undefined method '" ++ method ++ "' for " ++ receiver
  | danglingObject => "Invalid object reference"
  | systemCall text | closedResource text | argument text | notImplemented text => text

end Error

end Dirlang
