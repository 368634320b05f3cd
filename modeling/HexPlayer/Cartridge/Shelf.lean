import HexPlayer.Cartridge.Catalog
import HexPlayer.Cartridge.Source

/-!
# Shelves

A shelf is a directory that holds one file for each program. A title is a path below the directory;
it is followed as file systems do, part by part. A file is read up to one byte past the limit, which
is enough to tell that it is too long.
-/

namespace HexPlayer.Cartridge

/-- What stands at a place on the shelf. -/
inductive Item where
  | folder
  | file (bytes : Program)
  deriving DecidableEq, Repr

/-- Why a path does not lead to bytes. -/
inductive PathFault where
  | missing
  | isFolder
  | notFolder
  | nameTooLong
  | nulInName
  deriving DecidableEq, Repr

/-- What the system calls the fault. -/
def PathFault.text : PathFault → String
  | .missing => "No such file or directory (os error 2)"
  | .isFolder => "Is a directory (os error 21)"
  | .notFolder => "Not a directory (os error 20)"
  | .nameTooLong => "File name too long (os error 36)"
  | .nulInName => "file name contained an unexpected NUL byte"

/-- A directory by its path and by what stands below it, and the longest program it hands out. -/
structure Shelf where
  root : String
  items : List (List String × Item) := []
  limit : Nat := Catalog.maxProgramLength

namespace Shelf

/-- The most bytes a part of a path can have. -/
def maxPartLength : Nat := 255

/-- The bytes from which on a path is too long. -/
def maxPathLength : Nat := 4096

/-- The runs of characters between the slashes of a path; there is one more than slashes. -/
def cut : List Char → List (List Char)
  | [] => [[]]
  | c :: rest =>
    if c = '/' then [] :: cut rest
    else
      match cut rest with
      | [] => [[c]]
      | part :: parts => (c :: part) :: parts

/-- The parts of a path, between its slashes. -/
def parts (path : String) : List String := (cut path.toList).map String.ofList

/-- A path that starts at the root of the file system. -/
def isAbsolute (path : String) : Bool := path.toList.head? = some '/'

/-- Parts that stand for no step downwards. -/
def isDots (part : String) : Bool := part = "" || part = "." || part = ".."

/-- What stands at a place; the root and every place above another one are folders. -/
def item? (s : Shelf) (place : List String) : Option Item :=
  match s.items.lookup place with
  | some item => some item
  | none =>
    if place = [] || s.items.any fun i => place.isPrefixOf i.1 then some .folder else none

/-- The place that a path names: two dots lead up from it, and one dot or nothing leads nowhere. -/
def place (path : String) : List String :=
  (parts path).foldl
    (fun place part =>
      if part = "" || part = "." then place
      else if part = ".." then place.dropLast
      else place ++ [part])
    []

/-- Put an item in its place, over what stood there. -/
def put (s : Shelf) (path : String) (item : Item) : Shelf :=
  { s with items := (place path, item) :: s.items }

/-- Follow the parts of a path from a folder that is not below the root: nothing is known there but
the folders above. -/
def walkOutside : List String → Except PathFault Item
  | [] => .ok .folder
  | part :: rest =>
    if isDots part then walkOutside rest
    else if maxPartLength < part.utf8ByteSize then .error .nameTooLong
    else .error .missing

/-- Follow the parts of a path from a folder. -/
def walk (s : Shelf) : (place : List String) → List String → Except PathFault Item
  | _, [] => .ok .folder
  | place, part :: rest =>
    if part = "" || part = "." then s.walk place rest
    else if part = ".." then
      if place = [] then walkOutside rest else s.walk place.dropLast rest
    else if maxPartLength < part.utf8ByteSize then .error .nameTooLong
    else
      match s.item? (place ++ [part]) with
      | none => .error .missing
      | some .folder => s.walk (place ++ [part]) rest
      | some (.file bytes) => if rest = [] then .ok (.file bytes) else .error .notFolder

/-- The path of a title below the root; a title that starts with a slash is a path of its own. -/
def path (s : Shelf) (title : String) : String :=
  if isAbsolute title then title
  else if s.root = "" || s.root.toList.getLast? = some '/' then s.root ++ title
  else s.root ++ "/" ++ title

/-- What stands at the path of a title. -/
def find (s : Shelf) (title : String) : Except PathFault Item :=
  if title.toList.contains '\x00' then .error .nulInName
  else if maxPathLength ≤ (s.path title).utf8ByteSize then .error .nameTooLong
  else if isAbsolute title then walkOutside (parts title)
  else s.walk [] (parts title)

/-- The most bytes that are read of a file: one past the limit, or as many as 64 bits can count. -/
def readLength (s : Shelf) : Nat := min (s.limit + 1) (UInt64.size - 1)

/-- The bytes of a program, as far as they are read. -/
def read (s : Shelf) (title : String) : Except PathFault Program := do
  match ← s.find title with
  | .folder => .error .isFolder
  | .file bytes => .ok (bytes.take s.readLength)

/-- The program with this title, if it is there, can be read and is within the limit. -/
def deliver (s : Shelf) (title : String) : Delivery :=
  match s.read title with
  | .error .missing => ⟨.error (.notFound title), []⟩
  | .error fault => ⟨.error (.unreadable title fault.text), []⟩
  | .ok program =>
    if s.limit < program.size then ⟨.error (.tooLarge title program.size s.limit), []⟩
    else ⟨.ok program, [.programFetched title program.size (s.path title)]⟩

/-- The shelf as a source. -/
def source (s : Shelf) : Source := ⟨fun r => s.deliver r.title⟩

end Shelf

end HexPlayer.Cartridge
