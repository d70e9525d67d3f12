import Dirlang.CommandLine
import Dirlang.Files.Planting
import Dirlang.Files.TreeFiles

/-!
The program: the command line, over a file tree that standard input describes line by line.

Commands run at the top of the tree.
-/

open Dirlang

/-- The tree that the remaining lines of the input grow. -/
partial def growFrom (input : IO.FS.Stream) (t : Tree) : IO Tree := do
  let line ← input.getLine
  if line.isEmpty then return t
  let text := (line.dropEndWhile (· = '\n')).toString
  growFrom input (if text.isEmpty then t else t.plant (.ofLine text))

def main (args : List String) : IO UInt32 := do
  let tree ← growFrom (← IO.getStdin) .empty
  let output := CommandLine.run tree ⟨[], some "/"⟩ args
  (← IO.getStdout).putStr output.stdout
  (← IO.getStderr).putStr output.stderr
  return UInt32.ofNat output.code
