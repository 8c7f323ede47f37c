import Lifeline.Text.Letter

/-!
# Files

The files that a command line works with are found by a path from a working
directory.  `FileTree` is such a directory with everything in it.  Nothing
outside it can be found, except that there is a directory above it.

A path is a word that stands for bytes.  It is followed name by name.  Every name
but the last has to be that of a directory, and so does the last one when a slash
comes after it.
-/

namespace Lifeline.CommandLine

open Text (Letters)

/-- Why a file cannot be opened. -/
inductive PathError where
  | missing
  | notDirectory
  | isDirectory
  | nullCharacter
  /-- A letter of the path stands for no bytes. -/
  | surrogate
  /-- Anything else that a system may say. -/
  | other (code : Nat) (reason : String)
  deriving DecidableEq

namespace PathError

def message (path : Letters) : PathError → String
  | missing => "[Errno 2] No such file or directory: " ++ path.quoted
  | notDirectory => "[Errno 20] Not a directory: " ++ path.quoted
  | isDirectory => "[Errno 21] Is a directory: " ++ path.quoted
  | nullCharacter => "embedded null byte"
  | surrogate => "surrogates not allowed"
  | other code reason =>
      "[Errno " ++ toString code ++ "] " ++ reason ++ ": " ++ path.quoted

end PathError

abbrev FileName := List UInt8

inductive FileNode where
  | file (content : ByteArray)
  | directory

namespace FileNode

def isDirectory : FileNode → Bool
  | file _ => false
  | directory => true

end FileNode

/-- What is inside a working directory, each entry by the names on the way to
it.  The directories on the way need no entries of their own. -/
structure FileTree where
  entries : List (List FileName × FileNode)

namespace FileTree

/-- Somewhere on the way along a path. -/
inductive Place where
  | inside (names : List FileName)
  | outside

def slash : UInt8 := 0x2F

/-- The name of a directory in itself. -/
def here : FileName := [0x2E]

/-- The name of the directory above. -/
def above : FileName := [0x2E, 0x2E]

def node? (tree : FileTree) (names : List FileName) : Option FileNode :=
  if names.isEmpty then some .directory
  else
    match tree.entries.find? fun entry => entry.1 == names with
    | some entry => some entry.2
    | none =>
        if tree.entries.any fun entry => names.isPrefixOf entry.1 then
          some .directory
        else none

def isDirectory (tree : FileTree) : Place → Bool
  | .outside => true
  | .inside names => (tree.node? names).any FileNode.isDirectory

def step (tree : FileTree) (place : Place) (name : FileName) :
    Except PathError Place :=
  if !tree.isDirectory place then .error .notDirectory
  else if name = [] || name = here then .ok place
  else
    match place with
    | .outside => if name = above then .ok .outside else .error .missing
    | .inside names =>
        if name = above then
          .ok (if names.isEmpty then .outside else .inside names.dropLast)
        else
          match tree.node? (names ++ [name]) with
          | some _ => .ok (.inside (names ++ [name]))
          | none => .error .missing

def walk (tree : FileTree) (place : Place) (names : List FileName) :
    Except PathError Place :=
  names.foldlM (step tree) place

def split (path : List UInt8) : List FileName :=
  path.splitOn slash

def start (path : List UInt8) : Place :=
  if path.head? = some slash then .outside else .inside []

/-- The bytes of a path, unless it cannot be one. -/
def check (path : Letters) : Except PathError (List UInt8) :=
  match path.pathBytes? with
  | none => .error .surrogate
  | some bytes =>
      if path.contains (.char '\x00') then .error .nullCharacter
      else if path = [] then .error .missing
      else .ok bytes

def read (tree : FileTree) (path : Letters) : Except PathError ByteArray := do
  let bytes ← check path
  match ← tree.walk (start bytes) (split bytes) with
  | .outside => .error .isDirectory
  | .inside names =>
      match tree.node? names with
      | some (.file content) => pure content
      | some .directory => .error .isDirectory
      | none => .error .missing

def insert (tree : FileTree) (names : List FileName) (content : ByteArray) :
    FileTree :=
  ⟨tree.entries.filter (fun entry => entry.1 != names) ++ [(names, .file content)]⟩

/-- Where a file would be written that has some name in a place. -/
def target (tree : FileTree) (place : Place) (name : FileName) :
    Except PathError (List FileName) :=
  if !tree.isDirectory place then .error .notDirectory
  else if name = here || name = above then .error .isDirectory
  else
    match place with
    | .outside => .error .missing
    | .inside names =>
        if (tree.node? (names ++ [name])).any FileNode.isDirectory then
          .error .isDirectory
        else .ok (names ++ [name])

/-- A tree with a file written at a path.  The directory has to be there; the
file need not.  Nothing is written at a path with a slash at its end, which can
only be meant for a directory. -/
def write (tree : FileTree) (path : Letters) (content : ByteArray) :
    Except PathError FileTree := do
  let bytes ← check path
  let names := split bytes
  let named := (names.reverse.dropWhile (· == [])).reverse
  match named.getLast? with
  | none => .error .isDirectory
  | some last =>
      let place ← tree.walk (start bytes) named.dropLast
      if named.length = names.length then
        pure (tree.insert (← tree.target place last) content)
      else if tree.isDirectory place then .error .isDirectory
      else .error .notDirectory

end FileTree

end Lifeline.CommandLine
