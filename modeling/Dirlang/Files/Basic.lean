/-!
What the machine asks of a file system. Paths arrive resolved; errors come back as texts.

It is always `Path.resolve` that has resolved them: a file system that joins paths in a way of its
own is left out.
-/

namespace Dirlang

/-- A file system whose states are the elements of `F`. -/
class FileSystem (F : Type) where
  isDir : F → String → Bool
  /-- Names in a directory, in the order of the host, without the dot entries. -/
  list : F → String → Except String (List String)
  canonicalize : F → String → Except String String
  removeDir : F → String → Except String Unit × F
  createDirAll : F → String → Except String Unit × F
  /-- Paths that fit a pattern; a relative one is matched under the base and reported from it. -/
  glob : F → String → String → Except String (List String)

instance {F G : Type} [FileSystem F] [FileSystem G] : FileSystem (F ⊕ G) where
  isDir
    | .inl f => FileSystem.isDir f
    | .inr g => FileSystem.isDir g
  list
    | .inl f => FileSystem.list f
    | .inr g => FileSystem.list g
  canonicalize
    | .inl f => FileSystem.canonicalize f
    | .inr g => FileSystem.canonicalize g
  removeDir
    | .inl f, p => (FileSystem.removeDir f p).map id .inl
    | .inr g, p => (FileSystem.removeDir g p).map id .inr
  createDirAll
    | .inl f, p => (FileSystem.createDirAll f p).map id .inl
    | .inr g, p => (FileSystem.createDirAll g p).map id .inr
  glob
    | .inl f => FileSystem.glob f
    | .inr g => FileSystem.glob g

end Dirlang
