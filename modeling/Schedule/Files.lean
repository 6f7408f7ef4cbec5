import Schedule.Text.Quoted

/-! # Files

Configuration files are found by their path. A path is put in its plain form first: empty
components and components `.` are dropped, and a path without components is the working directory
itself. How long a path and its components may be is limited.

What is found at a path and what is read from it is up to the system, and so is why it cannot be
done: a fault has any number and any text.
-/

namespace Schedule

/-- Why the system cannot do what is asked of it with a file: the number of the error and its
text. -/
structure FileFault where
  number : Nat
  message : String
  deriving DecidableEq, Repr

namespace FileFault

/-- The fault of the file at a path, shown by its number, its name and the path. -/
def ofError (number : Nat) (name path : String) : FileFault :=
  ⟨number, "[Errno " ++ toString number ++ "] " ++ name ++ ": " ++ Text.quote path⟩

/-- There is no such file. -/
def missing : String → FileFault := ofError 2 "No such file or directory"

/-- A part of the path is a file, but has to be a directory. -/
def notDirectory : String → FileFault := ofError 20 "Not a directory"

/-- What has to be a file is a directory. -/
def isDirectory : String → FileFault := ofError 21 "Is a directory"

/-- The path or one of its components has too many bytes. -/
def nameTooLong : String → FileFault := ofError 36 "File name too long"

/-- The numbers of the faults by which the system tells that there is nothing at a path: there is
no such file, a part of the path is no directory, the handle is bad, or links lead in a circle. -/
def absenceNumbers : List Nat := [2, 20, 9, 40]

/-- The fault tells that there is nothing at the path. -/
def tellsAbsence (fault : FileFault) : Bool :=
  absenceNumbers.contains fault.number

end FileFault

/-- The files that are there: whether something is found at a path, and what is read from it. -/
structure Files where
  find : String → Except FileFault Unit
  read : String → Except FileFault ByteArray

/-- Whether there is something at the path, a file or a directory. A fault that does not tell this
is handed on. There is nothing at a path that cannot be written down for the system. -/
def Files.has (files : Files) (path : String) : Except FileFault Bool :=
  if path.contains '\x00' then .ok false
  else
    match files.find path with
    | .ok () => .ok true
    | .error fault => if fault.tellsAbsence then .ok false else .error fault

namespace Path

/-- The parts of a path between its slashes, which may be empty. -/
def parts : List Char → List (List Char)
  | [] => [[]]
  | c :: cs =>
    if c = '/' then [] :: parts cs
    else
      match parts cs with
      | [] => [[c]]
      | part :: more => (c :: part) :: more

/-- The components of a path, without those that stay where they are. -/
def components (path : String) : List String :=
  ((parts path.toList).map String.ofList).filter fun part => part != "" && part != "."

/-- The slashes that a plain path keeps at its start: one or exactly two count as written, and
more count as one. -/
def root (path : String) : String :=
  match path.toList with
  | '/' :: '/' :: '/' :: _ => "/"
  | '/' :: '/' :: _ => "//"
  | '/' :: _ => "/"
  | _ => ""

/-- The plain form of a path. -/
def plain (path : String) : String :=
  let text := root path ++ "/".intercalate (components path)
  if text.isEmpty then "." else text

/-- The most bytes that a component may have. -/
def longestName : Nat := 255

/-- The most bytes that a path may have. -/
def longest : Nat := 4095

end Path

/-- A file with its content, or a directory with its named entries. -/
inductive Entry where
  | file (content : ByteArray)
  | directory (entries : List (String × Entry))
  deriving Inhabited

namespace Entry

/-- Follows the components of a path from an entry, whose parents are given nearest first. Beyond
the outermost directory nothing is known, so it is taken as empty. -/
def follow (path : String) (entry : Entry) (parents : List Entry) :
    List String → Except FileFault Entry
  | [] => .ok entry
  | part :: parts =>
    match entry with
    | file _ => .error (.notDirectory path)
    | directory entries =>
      if part = ".." then
        match parents with
        | [] => follow path (directory []) [] parts
        | parent :: parents => follow path parent parents parts
      else
        if Path.longestName < part.utf8ByteSize then .error (.nameTooLong path)
        else
          match entries.lookup part with
          | none => .error (.missing path)
          | some next => follow path next (entry :: parents) parts

/-- What is at a path from a working directory. -/
def locate (working : Entry) (path : String) : Except FileFault Entry :=
  let start := if (Path.root path).isEmpty then working else directory []
  if Path.longest < path.utf8ByteSize then .error (.nameTooLong path)
  else start.follow path [] (Path.components path)

/-- The content of the file at a path from a working directory. -/
def contentAt (working : Entry) (path : String) : Except FileFault ByteArray :=
  match working.locate path with
  | .error fault => .error fault
  | .ok (directory _) => .error (.isDirectory path)
  | .ok (file content) => .ok content

/-- The files that are reached by paths from a working directory. -/
def files (working : Entry) : Files where
  find path := (working.locate path).map fun _ => ()
  read := working.contentAt

end Entry

end Schedule
