/-
A working directory as a value: files and directories by their place, and what paths lead to. Nothing stands
outside of it, so a path that leaves it leads to directories at most.
-/
import LoadTrial.Files

namespace LoadTrial

/-- the entries of a working directory, by the names on the way to them -/
structure Directory where
  entries : List (List String × Entry) := []
  deriving DecidableEq

namespace Directory

/-- a place that a path has reached -/
inductive Place where
  | inside (names : List String)
  | outside
  deriving DecidableEq

/-- the parts of a path between slashes -/
def parts (path : String) : List String :=
  (path.splitOn "/")

/-- the place where a path begins -/
def start (path : String) : Place :=
  if path.startsWith "/" then .outside else .inside []

/-- the entry at a place; a place above an entry is a directory -/
def at? (d : Directory) : Place → Option Entry
  | .outside => some .directory
  | .inside [] => some .directory
  | .inside names =>
    match d.entries.lookup names with
    | some entry => some entry
    | none => if d.entries.any fun e => names.isPrefixOf e.1 then some .directory else none

/-- goes on by one part of a path; the place left must be a directory -/
def step (d : Directory) (place : Place) (part : String) : Except OsError Place :=
  match d.at? place with
  | none => .error .noSuchFile
  | some (.file _) => .error .notADirectory
  | some (.unreadable _) => .error .notADirectory
  | some .directory =>
    if 255 < part.utf8ByteSize then .error .nameTooLong
    else if part == "" || part == "." then .ok place
    else match place with
      | .outside => if part == ".." then .ok .outside else .error .noSuchFile
      | .inside names =>
        if part == ".." then .ok (if names.isEmpty then .outside else .inside names.dropLast)
        else .ok (.inside (names ++ [part]))

/-- follows a path to its place -/
def follow (d : Directory) (path : String) : Except OsError Place :=
  if path.isEmpty then .error .noSuchFile
  else if 4096 ≤ path.utf8ByteSize then .error .nameTooLong
  else (parts path).foldlM d.step (start path)

/-- what a path leads to -/
def find (d : Directory) (path : String) : Except OsError Entry :=
  match d.follow path with
  | .error e => .error e
  | .ok place => match d.at? place with
    | some entry => .ok entry
    | none => .error .noSuchFile

def files (d : Directory) : Files := ⟨d.find⟩

/-- puts an entry at the names of a path -/
def put (d : Directory) (names : List String) (entry : Entry) : Directory :=
  ⟨d.entries.filter (·.1 != names) ++ [(names, entry)]⟩

/-- writes a file, which may exist already; what cannot be read is not written either -/
def write (d : Directory) (path : String) (content : Bytes) : Except ReadError Directory :=
  if path.toList.contains '\x00' then .error .nulInPath
  else match d.follow path with
    | .error e => .error (.os (if e = .noSuchFile && path.endsWith "/" && (d.follow (path.dropEndWhile '/').copy).isOk
        then .isADirectory else e))
    | .ok place => match place, d.at? place with
      | .inside names, some (.file _) => .ok (d.put names (.file content))
      | .inside names, none => .ok (d.put names (.file content))
      | .inside _, some (.unreadable e) => .error (.os e)
      | _, _ => .error (.os .isADirectory)

end Directory

end LoadTrial
