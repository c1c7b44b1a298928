import Chip8.Text.Quoted

/-!
# Folders

What a path leads to, seen from the folder in which a program runs. A path is followed part by part:
empty parts and single dots stay where they are, two dots go up, a name leads to what the folder
holds, and behind a file there is nothing. Elsewhere only what has a known path is there, and the
folders that are reached by going up or by beginning at the root.
-/

namespace Chip8.CommandLine

/-- Why the operating system does not hand out a file. -/
structure ReadProblem where
  code : Nat
  kind : String
  message : String
  deriving DecidableEq, Repr

namespace ReadProblem

/-- There is no file of that name. -/
def notFound : ReadProblem := ⟨2, "NotFound", "No such file or directory"⟩

/-- The file may not be read. -/
def permissionDenied : ReadProblem := ⟨13, "PermissionDenied", "Permission denied"⟩

/-- A part of the path that others stand behind is a file. -/
def notDirectory : ReadProblem := ⟨20, "NotADirectory", "Not a directory"⟩

/-- The name belongs to a directory. -/
def isDirectory : ReadProblem := ⟨21, "IsADirectory", "Is a directory"⟩

/-- The path, or a name in it, is longer than any can be. -/
def nameTooLong : ReadProblem := ⟨36, "InvalidFilename", "File name too long"⟩

/-- A problem with its details. -/
def details (problem : ReadProblem) : String :=
  "Os \x7b code: " ++ toString problem.code ++ ", kind: " ++ problem.kind ++ ", message: " ++
    Text.quoted problem.message ++ " \x7d"

end ReadProblem

/-- The last part of a path, by which a program is known. Empty parts and single dots do not count,
and a path that ends by going up has no last part. -/
def fileName (path : String) : String :=
  let parts := (path.splitOn "/").filter fun part => part != "" && part != "."
  match parts.getLast? with
  | some ".." => ""
  | some part => part
  | none => ""

/-- The most bytes that a name can have. -/
def longestName : Nat := 255

/-- The most bytes that a path can have. -/
def longestPath : Nat := 4095

/-- Where a path leads. -/
inductive Place where
  /-- The folder itself. -/
  | inside
  /-- A folder elsewhere. -/
  | elsewhere
  | file (contents : List UInt8)
  deriving DecidableEq, Repr

/-- What can be reached from a folder, by name if it lies in it, and otherwise by its whole path. -/
structure Folder where
  entries : List (String × Place)
  deriving DecidableEq, Repr

namespace Folder

/-- Where a name leads. -/
def find (folder : Folder) (place : Place) (name : String) : Except ReadProblem Place :=
  if longestName < name.utf8ByteSize then .error .nameTooLong
  else
    match place, folder.entries.lookup name with
    | .inside, some found => .ok found
    | _, _ => .error .notFound

/-- Where the next part of a path leads. -/
def follow (folder : Folder) (place : Place) (part : String) : Except ReadProblem Place :=
  match place with
  | .file _ => .error .notDirectory
  | place =>
      if part = "" ∨ part = "." then .ok place
      else if part = ".." then .ok .elsewhere
      else folder.find place part

/-- Where a path leads, part by part. -/
def walk (folder : Folder) (path : String) : Except ReadProblem Place :=
  let start := if path.startsWith "/" then Place.elsewhere else Place.inside
  (path.splitOn "/").foldlM folder.follow start

/-- Where a path leads that may be known as a whole. -/
def locate (folder : Folder) (path : String) : Except ReadProblem Place :=
  if path = "" then .error .notFound
  else if longestPath < path.utf8ByteSize then .error .nameTooLong
  else
    match folder.entries.lookup path with
    | some place => .ok place
    | none => folder.walk path

/-- The contents of the file that a path leads to. -/
def read (folder : Folder) (path : String) : Except ReadProblem (List UInt8) :=
  match folder.locate path with
  | .ok (.file contents) => .ok contents
  | .ok _ => .error .isDirectory
  | .error problem => .error problem

end Folder

end Chip8.CommandLine
