import Dirlang.Machine.Functions
import Dirlang.Store.Text
import Dirlang.Text.Json

/-!
The command line: listing, globbing and walking a directory, and listing what can be called.

The words `json` and `verbose` are flags wherever they stand after the command. Exit codes are 2 for
arguments that make no sense, 1 for a call that fails, and 0 otherwise. The log, of which `verbose`
asks for more, goes to standard error as well and is left out here.
-/

namespace Dirlang.CommandLine

inductive Command
  | entries (dir : String)
  | glob (pattern : String)
  | walk (dir : String)
  | methods
deriving DecidableEq

structure Request where
  command : Command
  /-- Print a list as a JSON array. -/
  json : Bool
deriving DecidableEq

inductive Misuse
  | noCommand
  | unknownOption (arg : String)
  | unknownCommand (name : String)
  | missing (what : String)
deriving DecidableEq

def usage : String := "Usage: corvid <entries|glob|walk|methods> [json] [verbose] <args>"

/-- The lines printed about arguments that make no sense. -/
def Misuse.lines : Misuse → List String
  | .noCommand => [usage]
  | .unknownOption arg => ["Unknown option: " ++ arg]
  | .unknownCommand name => ["Unknown command: " ++ name, usage]
  | .missing what => ["Missing <" ++ what ++ ">"]

def isOption (arg : String) : Bool := ['-', '-'].isPrefixOf arg.toList

def isFlag (arg : String) : Bool := arg = "json" || arg = "verbose"

/-- The only argument besides flags. -/
def only (what : String) (args : List String) : Except Misuse String :=
  match args.filter (!isFlag ·) with
  | [arg] => .ok arg
  | _ => .error (.missing what)

def command (name : String) (args : List String) : Except Misuse Command :=
  match name with
  | "entries" => (only "dir" args).map .entries
  | "glob" => (only "pattern" args).map .glob
  | "walk" => (only "dir" args).map .walk
  | "methods" => .ok .methods
  | _ => .error (.unknownCommand name)

def request : List String → Except Misuse Request
  | [] => .error .noCommand
  | name :: args =>
    match args.find? isOption with
    | some arg => .error (.unknownOption arg)
    | none => (command name args).map (⟨·, args.contains "json"⟩)

abbrev host (F : Type) [FileSystem F] : Embedding where
  Files := F
  Extra := Empty
  Data := Unit

variable {F : Type} [FileSystem F]

instance : Extension (host F) where
  run f := nomatch f

structure Output where
  code : Nat
  stdout : String
  stderr : String
deriving DecidableEq

def unlines (lines : List String) : String := String.join (lines.map (· ++ "\n"))

/-- Lines that a command printed, and the error it ended with, if any. -/
abbrev Printed := List String × Option Error

def Printed.output : Printed → Output
  | (lines, none) => ⟨0, unlines lines, ""⟩
  | (lines, some e) => ⟨1, unlines lines, unlines ["RuntimeError: " ++ e.message]⟩

/-- The strings of a list that a function answers. -/
def listed (function arg : String) : Action (host F) (List String) := do
  let v ← Action.call function [.str arg] none
  (← look).store.strings v

def printList (json : Bool) (names : List String) : List String :=
  if json then [Text.Json.array (names.map Text.Json.string)] else names

/-- Reads a directory name by name, each with the cursor before it, at most `fuel` times. -/
def readLines (v : Value) : Nat → Machine (host F) → Printed × Machine (host F)
  | 0, m => (([], none), m)
  | fuel + 1, m =>
    match m.store.dir v with
    | .error e => (([], some e), m)
    | .ok d =>
      match m.run (Action.callMethod v "read" [] none) with
      | (.error e, m) => (([], some e), m)
      | (.ok .nil, m) => (([], none), m)
      | (.ok name, m) =>
        let line := toString d.pos.toInt ++ "\t" ++ (m.store.text? name).getD ""
        let ((lines, failed), m) := readLines v fuel m
        ((line :: lines, failed), m)

/-- Opens a directory, reads it to its end, and closes it. One read more than there are names
finds the end. -/
def walk (dir : String) (m : Machine (host F)) : Printed :=
  match m.run (Action.call "Dir.open" [.str dir] none) with
  | (.error e, _) => ([], some e)
  | (.ok v, m) =>
    let count := match m.store.dir v with
      | .ok d => d.names.length
      | .error _ => 0
    match readLines v (count + 1) m with
    | ((lines, some e), _) => (lines, some e)
    | ((lines, none), m) =>
      match m.run (Action.callMethod v "close" [] none) with
      | (.ok _, _) => (lines, none)
      | (.error e, _) => (lines, some e)

def printed (m : Machine (host F)) (r : Request) : Printed :=
  let list (function arg : String) : Printed :=
    match (listed function arg m).1 with
    | .ok names => (printList r.json names, none)
    | .error e => ([], some e)
  match r.command with
  | .entries dir => list "Dir.entries" dir
  | .glob pattern => list "Dir.glob" pattern
  | .walk dir => walk dir m
  | .methods => (m.functions.names ++ Method.names.map ("Dir#" ++ ·), none)

/-- What the process prints, and its exit code. -/
def run (files : F) (environment : Environment) (args : List String) : Output :=
  match request args with
  | .error misuse => ⟨2, "", unlines misuse.lines⟩
  | .ok r => (printed (Machine.start {} files environment ()) r).output

end Dirlang.CommandLine
