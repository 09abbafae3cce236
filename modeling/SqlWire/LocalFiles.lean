import SqlWire.Fault

/-!
# Local files

What the paths of the client's machine lead to. There is one directory with files, and perhaps the
socket of a server, in which the client works. A path may leave it: above it there are only
directories, and the system's own ones begin at the root. A path is walked part by part, and the
first part that leads nowhere decides the fault.
-/

namespace SqlWire

/-- What reading a file gives: its content, and the fault that ended it early. -/
structure FileContent where
  content : ByteArray
  fault : Option IoFault

namespace FileContent

/-- A file that was read to its end. -/
def whole (content : ByteArray) : FileContent := ⟨content, none⟩

/-- A file that cannot be read at all. -/
def unreadable (fault : IoFault) : FileContent := ⟨ByteArray.empty, some fault⟩

end FileContent

/-- What a path leads to. -/
inductive Place where
  | directory
  | file (content : ByteArray)
  | socket
  /-- Nothing is there. -/
  | missing (fault : IoFault)

def Place.read : Place → FileContent
  | directory => .unreadable .isDirectory
  | file content => .whole content
  | socket => .unreadable .noDevice
  | missing fault => .unreadable fault

/-- The directory that a client works in: its files, by name, and the name of a socket. -/
structure Directory where
  files : List (String × ByteArray)
  socket : Option String

namespace Directory

def empty : Directory := ⟨[], none⟩

/-- Most bytes of one part of a path. -/
def maxPart : Nat := 255

/-- The first size of a path that is too long. -/
def pathLimit : Nat := 4096

/-- The directory that a walk has come to. -/
inductive Station where
  | here
  | above
  | root
  /-- One of the system's own directories. -/
  | system (name : String)
  deriving DecidableEq, Repr

def Station.parent : Station → Station
  | here | above => above
  | root | system _ => root

def systemDirectories : List String :=
  ["bin", "boot", "dev", "etc", "home", "lib", "lib64", "media", "mnt", "opt", "proc", "root", "run",
    "sbin", "srv", "sys", "tmp", "usr", "var"]

/-- What a name stands for. -/
inductive Entry where
  | station (s : Station)
  | place (p : Place)

/-- What a name stands for in a directory, if it stands for anything. -/
def entry? (directory : Directory) (station : Station) (name : String) : Option Entry :=
  match station with
  | .here =>
    match directory.files.lookup name with
    | some content => some (.place (.file content))
    | none => if directory.socket == some name then some (.place .socket) else none
  | .above => none
  | .root => if systemDirectories.contains name then some (.station (.system name)) else none
  | .system parent =>
    if parent == "dev" && name == "null" then some (.place (.file ByteArray.empty)) else none

/-- Where the parts of a path lead to from a directory on. -/
def walk (directory : Directory) : Station → List String → Place
  | _, [] => .directory
  | station, part :: parts =>
    if part == "" || part == "." then directory.walk station parts
    else if part == ".." then directory.walk station.parent parts
    else if maxPart < part.utf8ByteSize then .missing .nameTooLong
    else match directory.entry? station part with
      | none => .missing .notFound
      | some (.station station) => directory.walk station parts
      | some (.place place) => if parts.isEmpty then place else .missing .notDirectory

def place (directory : Directory) (path : String) : Place :=
  if path.contains '\x00' then .missing .nulInName
  else if path == "" then .missing .notFound
  else if pathLimit ≤ path.utf8ByteSize then .missing .nameTooLong
  else directory.walk (if path.startsWith "/" then .root else .here) (path.splitOn "/")

end Directory

end SqlWire
