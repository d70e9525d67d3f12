/-!
Paths as the host has them: bytes, of which only slashes and dots mean anything.

They need not be text. Joining them is what it is for texts.
-/

namespace Dirlang

abbrev RawPath := List UInt8

namespace RawPath

def slash : UInt8 := 0x2F

def dot : UInt8 := 0x2E

/-- The pieces of a path between its slashes; there is always at least one. -/
def pieces (p : RawPath) : List RawPath := p.splitOn slash

def ofPieces (ps : List RawPath) : RawPath := [slash].intercalate ps

def isAbsolute (p : RawPath) : Bool := p.head? = some slash

/-- Another piece may follow a path as it stands. -/
def isClosed (p : RawPath) : Bool := p.isEmpty || p.getLast? = some slash

/-- `path` as seen from `base`. -/
def join (base path : RawPath) : RawPath :=
  if path.isAbsolute then path
  else if base.isClosed then base ++ path
  else base ++ slash :: path

end RawPath

end Dirlang
