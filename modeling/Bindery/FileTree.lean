/-!
# File trees

Files and directories as a value: contents by path, the directories that hold no
file, and the directory that relative paths start from. Paths are walked name by
name, so the errors of reading and writing are those of a walk that meets a missing
name, a file or a directory at the wrong place.
-/

namespace Bindery

/-- The names on the way from the root to a file or directory. -/
abbrev Path := List String

/-- What a file holds: a text, or bytes that are none. -/
inductive Content where
  | text (s : String)
  | binary (bytes : List UInt8)
deriving Repr, DecidableEq

def Content.ofBytes (bytes : ByteArray) : Content :=
  match String.fromUTF8? bytes with
  | some s => .text s
  | none => .binary bytes.toList

/-- Why a file operation fails. -/
inductive FileError where
  | missing
  | alreadyThere
  | notDirectory
  | isDirectory
  | nameTooLong
  /-- A path with a character that ends names. -/
  | badName
  | noText
deriving Repr, DecidableEq

def FileError.message : FileError → String
  | .missing => "No such file or directory (os error 2)"
  | .alreadyThere => "File exists (os error 17)"
  | .notDirectory => "Not a directory (os error 20)"
  | .isDirectory => "Is a directory (os error 21)"
  | .nameTooLong => "File name too long (os error 36)"
  | .badName => "file name contained an unexpected NUL byte"
  | .noText => "stream did not contain valid UTF-8"

/-- Files and directories. -/
structure FileTree where
  files : List (Path × Content) := []
  /-- Directories made as such; those on the way to a file need not be listed. -/
  directories : List Path := []
  /-- The directory that relative paths start from. -/
  here : Path := []

namespace FileTree

def content? (t : FileTree) (p : Path) : Option Content := t.files.lookup p

/-- A directory is at the path: the root, one that was made, or one on the way to something. -/
def isDirectory (t : FileTree) (p : Path) : Bool :=
  p.isPrefixOf t.here || t.directories.any (p.isPrefixOf ·) ||
    t.files.any fun file => p.isPrefixOf file.1 && p != file.1

/-- The longest name that a file can have, in bytes. -/
def longestName : Nat := 255

def longestPath : Nat := 4095

/-- One step of a walk from an existing directory: a name, the same place, or the place above,
which is the root itself above the root. -/
def step (t : FileTree) (place : Path) (name : String) : Except FileError Path :=
  if t.isDirectory place then
    if name = "" ∨ name = "." then .ok place
    else if name = ".." then .ok place.dropLast
    else if longestName < name.utf8ByteSize then .error .nameTooLong
    else .ok (place ++ [name])
  else if (t.content? place).isSome then .error .notDirectory
  else .error .missing

/-- Where a walk through the names ends, which need not exist itself. -/
def walk (t : FileTree) (start : Path) : List String → Except FileError Path
  | [] => .ok start
  | name :: names => do t.walk (← t.step start name) names

/-- The names between the slashes of a written path. -/
def segments (path : String) : List String :=
  (path.toList.splitOn '/').map String.ofList

def origin (t : FileTree) (path : String) : Path :=
  if path.toList.head? = some '/' then [] else t.here

/-- Why a written path is refused before any walk. -/
def refusal? (path : String) : Option FileError :=
  if path.toList.contains '\x00' then some .badName
  else if longestPath < path.utf8ByteSize then some .nameTooLong
  else none

/-- Where a written path leads. No path at all leads nowhere. -/
def locate (t : FileTree) (path : String) : Except FileError Path :=
  match refusal? path with
  | some e => .error e
  | none => if path = "" then .error .missing else t.walk (t.origin path) (segments path)

def readText (t : FileTree) (path : String) : Except FileError String := do
  let p ← t.locate path
  match t.content? p with
  | some (.text s) => return s
  | some (.binary _) => throw .noText
  | none => if t.isDirectory p then throw .isDirectory else throw .missing

/-- The tree with a content at a path; what was there before is replaced. -/
def setContent (t : FileTree) (p : Path) (c : Content) : FileTree :=
  { t with files := (p, c) :: t.files.filter (·.1 != p) }

@[simp] theorem content?_setContent_self (t : FileTree) (p : Path) (c : Content) :
    (t.setContent p c).content? p = some c := by
  simp [content?, setContent]

theorem lookup_filter_ne {p q : Path} (h : q ≠ p) (files : List (Path × Content)) :
    (files.filter (·.1 != p)).lookup q = files.lookup q := by
  induction files with
  | nil => rfl
  | cons file rest ih =>
    obtain ⟨r, c⟩ := file
    by_cases hr : r = p
    · subst hr
      have hq : (q == r) = false := by simpa using h
      simp [List.lookup_cons, hq, ih]
    · by_cases hq : q = r <;> simp [List.lookup_cons, hr, hq, ih]

/-- Writing one file leaves the others as they are. -/
theorem content?_setContent_of_ne (t : FileTree) {p q : Path} (c : Content) (h : q ≠ p) :
    (t.setContent p c).content? q = t.content? q := by
  have hq : (q == p) = false := by simpa using h
  simp [content?, setContent, List.lookup_cons, hq, lookup_filter_ne h]

/-- Writes a text to the file at a written path, whose directory has to exist. -/
def writeText (t : FileTree) (path s : String) : Except FileError FileTree := do
  let p ← t.locate path
  if t.isDirectory p then throw .isDirectory
  return t.setContent p (.text s)

/-- Makes one directory, whose parent has to exist. -/
def makeDirectory (t : FileTree) (start : Path) (names : List String) :
    Except FileError FileTree := do
  let p ← t.walk start names
  if t.isDirectory p || (t.content? p).isSome then throw .alreadyThere
  return { t with directories := p :: t.directories }

def leadsToDirectory (t : FileTree) (start : Path) (names : List String) : Bool :=
  match t.walk start names with
  | .ok p => t.isDirectory p
  | .error _ => false

/-- Makes the directory at the end of the names, which are held last first, and those on the way
that are missing. One that exists already is as good. -/
def makeDirectoriesTo (t : FileTree) (start : Path) : List String → Except FileError FileTree
  | [] => .ok t
  | name :: parents =>
    let names := (name :: parents).reverse
    match t.makeDirectory start names with
    | .ok t => .ok t
    | .error .missing =>
      match t.makeDirectoriesTo start parents with
      | .error e => .error e
      | .ok t =>
        match t.makeDirectory start names with
        | .ok t => .ok t
        | .error e => if t.leadsToDirectory start names then .ok t else .error e
    | .error e => if t.leadsToDirectory start names then .ok t else .error e

/-- The names of a written path that are not empty. -/
def names (path : String) : List String := (segments path).filter (· != "")

/-- Makes the directory at a written path with all that is missing on the way. A path that ends in
the name of the same place leads to a directory already. -/
def makeDirectories (t : FileTree) (path : String) : Except FileError FileTree :=
  match refusal? path with
  | some e => .error e
  | none =>
    if (names path).getLast? = some "." then
      (t.walk (t.origin path) (names path)).map fun _ => t
    else t.makeDirectoriesTo (t.origin path) ((names path).filter (· != ".")).reverse

/-- The written path of a name inside a directory. -/
def join (directory name : String) : String :=
  if directory = "" ∨ directory.toList.getLast? = some '/' then directory ++ name
  else directory ++ "/" ++ name

/-- The last name of a written path, unless the path ends in a step upwards or has no name. -/
def fileName? (path : String) : Option String :=
  match ((names path).filter (· != ".")).getLast? with
  | some ".." => none
  | last => last

/-- What follows the last point of the last name, unless nothing else precedes the point. -/
def extension? (path : String) : Option String := do
  let name := (← fileName? path).toList.reverse
  let after := name.takeWhile (· != '.')
  match name.dropWhile (· != '.') with
  | [] => none
  | ['.'] => none
  | _ => some (String.ofList after.reverse)

end FileTree

end Bindery
