import Bindery.Console.Program

/-!
# The command line

Looks at the files that a request names, runs the program on them, and carries out
what it has decided. Everything else is in `Bindery.Console`.
-/

namespace Bindery.Console

/-- The written paths that a request can touch. -/
def Request.paths : Request → List String
  | .generate catalog config directory _ =>
    [catalog, config] ++ Target.all.map fun t => FileTree.join directory t.fileName
  | .types catalog config _ => [catalog, config]
  | .findParameters catalog config _ _ => [catalog, config]
  | .validate catalog config => catalog :: config.toList

/-- The system's number of the failure to read a directory. -/
def readsDirectory : UInt32 := 21

/-- Adds what the system has at a written path to the tree, as `place`. -/
def lookAt (t : FileTree) (place : Path) (path : String) : IO FileTree := do
  match ← (IO.FS.readBinFile path).toBaseIO with
  | .ok bytes => return t.setContent place (.ofBytes bytes)
  | .error (.inappropriateType _ code _) =>
    return if code = readsDirectory then { t with directories := place :: t.directories } else t
  | .error _ => return t

/-- Adds everything on the way along the names to the tree. -/
def lookAlong (t : FileTree) (place : Path) (path : String) : List String → IO FileTree
  | [] => return t
  | name :: names => do
    let place :=
      if name = "." then place
      else if name = ".." then place.dropLast
      else place ++ [name]
    let path := path ++ "/" ++ name
    lookAlong (← lookAt t place path) place path names

def snapshot (paths : List String) : IO FileTree := do
  let start := toString (← IO.currentDir)
  let empty : FileTree := { here := FileTree.names start }
  paths.foldlM (fun t path =>
    let origin := t.origin path
    lookAlong t origin (if origin.isEmpty then "" else start) (FileTree.names path)) empty

/-- The path of a place as the system takes it. -/
def systemPath (p : Path) : String := "/" ++ "/".intercalate p

/-- Makes the directories and writes the files that `after` has and `before` has not. -/
def carryOut (before after : FileTree) : IO Unit := do
  for p in after.directories.reverse do
    unless before.directories.contains p do IO.FS.createDir (systemPath p)
  for (p, content) in after.files.reverse do
    unless before.content? p == some content do
      match content with
      | .text s => IO.FS.writeFile (systemPath p) s
      | .binary bytes => IO.FS.writeBinFile (systemPath p) ⟨bytes.toArray⟩

def filesFor (words : List String) : IO FileTree :=
  match readArguments words with
  | .request r _ => snapshot r.paths
  | _ => return {}

end Bindery.Console

open Bindery.Console in
def main (words : List String) : IO UInt32 := do
  let stdout ← IO.getStdout
  let stderr ← IO.getStderr
  let before ← filesFor words
  let color := (← stdout.isTty) && (← IO.getEnv "NO_COLOR").isNone
  let ending := run before color words
  for e in ending.log do stderr.putStrLn e.text
  carryOut before ending.files
  stdout.putStr ending.stdout
  stderr.putStr ending.stderr
  return ending.code.toUInt32
