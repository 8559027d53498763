/-
**Files by name.**

A folder holds texts under their names. A name leads on part by part: parts that are empty or a
single dot stay where they are, and double dots lead up. A file cannot be read if there is none,
if the name is that of a folder, if it leads through a file, or if it or a part of it is too long;
of several reasons the first on the way is given. A slash in front leads to the root of the
system, of which only what every system has is known.

* `code_ofCode` — the fault that is known by a number has this number.
-/

import LineBasic.Text.Quoted

namespace LineBasic

/-- Why a file cannot be read. -/
inductive FileFault where
  | missing
  | denied
  | notFolder
  | folder
  | nameTooLong
  | other (code : Nat) (reason : String)
  deriving DecidableEq

namespace FileFault

/-- The number by which a fault is known. -/
def code : FileFault → Nat
  | missing => 2
  | denied => 13
  | notFolder => 20
  | folder => 21
  | nameTooLong => 36
  | other code _ => code

/-- The fault that is known by a number. -/
def ofCode (code : Nat) (reason : String) : FileFault :=
  match code with
  | 2 => missing
  | 13 => denied
  | 20 => notFolder
  | 21 => folder
  | 36 => nameTooLong
  | code => other code reason

/-- The fault that is known by a number has this number. -/
theorem code_ofCode (code : Nat) (reason : String) : (ofCode code reason).code = code := by
  unfold ofCode
  split <;> rfl

/-- The reason why a file cannot be read. -/
def reason : FileFault → String
  | missing => "No such file or directory"
  | denied => "Permission denied"
  | notFolder => "Not a directory"
  | folder => "Is a directory"
  | nameTooLong => "File name too long"
  | other _ reason => reason

/-- The words for a fault of a named file. -/
def message (name : String) (fault : FileFault) : String :=
  "[Errno " ++ toString fault.code ++ "] " ++ fault.reason ++ ": " ++ Text.quoted name

end FileFault

/-- Texts under their names. -/
structure Folder where
  files : List (String × String)

namespace Folder

/-- The parts of a name between its slashes. -/
def parts : List Char → List (List Char)
  | [] => [[]]
  | c :: rest =>
    match parts rest with
    | [] => [[c]]
    | first :: others => if c = '/' then [] :: first :: others else (c :: first) :: others

/-- The way that a name leads: its parts that lead anywhere. -/
def way (name : String) : List (List Char) :=
  (parts name.toList).filter fun part => part ≠ [] && part ≠ ['.']

/-- The most bytes in a part of a name. -/
def partLimit : Nat :=
  255

/-- The most bytes in a name. -/
def nameLimit : Nat :=
  4095

/-- Where the parts of a name have led so far: down into the folder, down from the root of the
system, or up to a folder of which nothing is known. -/
inductive Place where
  | inside (way : List (List Char))
  | rooted (way : List (List Char))
  | higher
  deriving DecidableEq

namespace Place

/-- The place where a name starts: a slash in front leads to the root. -/
def start (name : String) : Place :=
  if name.toList.head? = some '/' then rooted [] else inside []

/-- The place above; the root is above itself. -/
def above : Place → Place
  | inside way => if way = [] then higher else inside way.dropLast
  | rooted way => rooted way.dropLast
  | higher => higher

end Place

/-- The way from the root to the file that is empty on every system. -/
def emptyFile : List (List Char) :=
  way "dev/null"

/-- The ways from the root that lead somewhere on every system. -/
def systemWays : List (List (List Char)) :=
  [way "dev", emptyFile, way "tmp"]

/-- The text of the file at a place, if a file is there. -/
def file? (folder : Folder) : Place → Option String
  | .inside path => (folder.files.find? fun file => way file.1 = path).map Prod.snd
  | .rooted path => if path = emptyFile then some "" else none
  | .higher => none

/-- Go down to a part of a folder. -/
def descend (folder : Folder) (part : List Char) : Place → Except FileFault Place
  | .inside path =>
    if folder.files.any fun file => (path ++ [part]).isPrefixOf (way file.1) then
      .ok (.inside (path ++ [part]))
    else .error .missing
  | .rooted path =>
    if systemWays.contains (path ++ [part]) then .ok (.rooted (path ++ [part]))
    else .error .missing
  | .higher => .error .missing

/-- Follow a part of a name; from a file no part leads on. -/
def follow (folder : Folder) (place : Place) (part : List Char) : Except FileFault Place :=
  if (folder.file? place).isSome then .error .notFolder
  else if part = [] ∨ part = ['.'] then .ok place
  else if part = ['.', '.'] then .ok place.above
  else if partLimit < (String.ofList part).utf8ByteSize then .error .nameTooLong
  else folder.descend part place

/-- Read the file with a name. -/
def read (name : String) (folder : Folder) : Except FileFault String :=
  if nameLimit < name.utf8ByteSize then .error .nameTooLong
  else
    match (parts name.toList).foldlM folder.follow (Place.start name) with
    | .error fault => .error fault
    | .ok place =>
      match folder.file? place with
      | some text => .ok text
      | none => .error .folder

end Folder

end LineBasic
