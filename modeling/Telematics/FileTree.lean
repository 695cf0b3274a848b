/-
# Telematics.FileTree -- the files that sockets stand among

A socket file is found by its path, as every file is: from the root, or from the
working directory, which holds nothing, through directories and symbolic links.
Binding puts a socket file at a path where nothing is, and connecting asks the
socket file for who listens to it.

The text of an address has less than 108 bytes and no null character.  A socket
that is bound to the empty text has no file, and no text leads to it.
-/
import Telematics.Path
import Telematics.SystemError

namespace Telematics

set_option autoImplicit false

/-- What may be found at a path. -/
inductive FileNode where
  | directory
  /-- A file that is none of the others. -/
  | plain
  /-- A socket, and the number of who listens to it, if somebody does. -/
  | socket (listener : Option Nat)
  | link (target : String)
  deriving Repr, DecidableEq

/-- The files that there are, each with its way from the root. -/
abbrev FileTree := List (List String × FileNode)

namespace FileTree

/-- The way to the working directory, which is not known. -/
def workingDirectory : List String := ["."]

/-- What is at a way from the root. -/
def at? (t : FileTree) (way : List String) : Option FileNode :=
  if way = [] ∨ way = workingDirectory then some .directory else t.lookup way

/-- The tree with something at a way from the root. -/
def put (t : FileTree) (way : List String) (node : FileNode) : FileTree :=
  (way, node) :: t.filter (·.1 ≠ way)

/-- The tree with nothing at a way from the root. -/
def erase (t : FileTree) (way : List String) : FileTree :=
  t.filter (·.1 ≠ way)

/-- The number of links that may be followed on one way. -/
def linkLimit : Nat := 40

/-- The greatest number of bytes in the name of a file. -/
def nameLimit : Nat := 255

/-- The way from the root on which the parts of a path lead from `here`; `follow` says whether a
link at its end is followed.  Nothing needs to be there. -/
def walk (t : FileTree) (follow : Bool) (links : Nat) (here parts : List String) :
    Except SystemError (List String) :=
  match parts with
  | [] => .ok here
  | "." :: rest => walk t follow links here rest
  | ".." :: rest => walk t follow links here.dropLast rest
  | name :: rest =>
    let way := here ++ [name]
    if nameLimit < name.utf8ByteSize then .error .nameTooLong
    else match t.at? way with
      | some .directory => walk t follow links way rest
      | some (.link target) =>
        if rest.isEmpty && !follow then .ok way
        else match links with
          | 0 => .error (.code 40)
          | links + 1 =>
            walk t follow links (if Path.isRooted target then [] else here)
              (Path.parts target ++ rest)
      | some _ => if rest.isEmpty then .ok way else .error .notADirectory
      | none => if rest.isEmpty then .ok way else .error .missing
termination_by (links, parts.length)

def namesDirectory (path : String) : Bool :=
  match (Text.cut '/' path.toList).getLast? with
  | some last => last.isEmpty || last = ['.'] || last = ['.', '.']
  | none => false

def toDirectory (t : FileTree) (way : List String) : Except SystemError (List String) :=
  match t.at? way with
  | some .directory => .ok way
  | some _ => .error .notADirectory
  | none => .error .missing

def origin (path : String) : List String :=
  if Path.isRooted path then [] else workingDirectory

/-- The number of bytes that a path has room for. -/
def pathLimit : Nat := 4096

/-- The way from the root to what a path names, from the working directory if the path does not
begin at the root. -/
def resolve (t : FileTree) (follow : Bool) (path : String) : Except SystemError (List String) :=
  if path = "" then .error .missing
  else if pathLimit ≤ path.utf8ByteSize then .error .nameTooLong
  else if namesDirectory path then
    walk t true linkLimit (origin path) (Path.parts path) >>= t.toDirectory
  else walk t follow linkLimit (origin path) (Path.parts path)

/-- The way from the root to where a file is made that a path names: in a directory, where
nothing is yet, not even a link to nowhere. -/
def vacancy (t : FileTree) (path : String) : Except SystemError (List String) := do
  match (Path.names path).reverse with
  | [] => throw .missing
  | name :: parents =>
    let parent ← walk t true linkLimit (origin path) parents.reverse >>= t.toDirectory
    if name = "." || name = ".." then throw .addressInUse
    if nameLimit < name.utf8ByteSize then throw .nameTooLong
    let way := parent ++ [name]
    if (t.at? way).isSome then throw .addressInUse
    if Path.endsOpen path then throw .missing
    return way

/-- What is at a path, links at its end not followed. -/
def look (t : FileTree) (path : String) : Except SystemError (List String × FileNode) := do
  let way ← t.resolve false path
  match t.at? way with
  | some node => return (way, node)
  | none => throw .missing

/-- Whether there is anything at a path. -/
def exists? (t : FileTree) (path : String) : Bool :=
  (t.look path).isOk

def remove (t : FileTree) (path : String) : Except SystemError FileTree := do
  let (way, node) ← t.look path
  if node = .directory then throw (.code 21)
  return t.erase way

/-- Makes room for a socket file: removes a socket, and refuses to remove anything else. -/
def clear (t : FileTree) (path : String) : Except SystemError FileTree :=
  if path.toList.contains '\x00' then
    .error (.other "file name contained an unexpected NUL byte")
  else
    match t.look path with
    | .ok (way, .socket _) => .ok (t.erase way)
    | .ok _ => .error (.other (path ++ " exists and is not a socket"))
    | .error e => if e = .missing then .ok t else .error e

/-- The number of bytes that an address has room for. -/
def addressLimit : Nat := 108

def bind (t : FileTree) (path : String) (listener : Nat) : Except SystemError FileTree := do
  if addressLimit ≤ path.utf8ByteSize then throw (.other "path must be shorter than SUN_LEN")
  if path = "" then return t
  let way ← t.vacancy path
  return t.put way (.socket (some listener))

def listenerAt (t : FileTree) (path : String) : Except SystemError Nat := do
  if path.toList.contains '\x00' then throw .invalidArgument
  if addressLimit ≤ path.utf8ByteSize then throw .nameTooLong
  if path = "" then throw .invalidArgument
  let way ← t.resolve true path
  match t.at? way with
  | some (.socket (some listener)) => return listener
  | some _ => throw .connectionRefused
  | none => throw .missing

/-- Nobody listens to a socket any more. -/
def silence (t : FileTree) (listener : Nat) : FileTree :=
  t.map fun (way, node) => (way, if node = .socket (some listener) then .socket none else node)

end FileTree

end Telematics
