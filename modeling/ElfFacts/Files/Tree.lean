import ElfFacts.Files.Fault
import ElfFacts.Path
import Std.Data.HashMap

/-!
# File trees

A file tree holds files, directories and symbolic links by their place, and a working directory.
Looking up a path follows links, at most forty of them, and needs every part but the last to be a
directory.
-/
namespace ElfFacts

abbrev Place := List (List UInt8)

inductive Node where
  | file (content : ByteArray) (executable : Bool)
  | directory
  | link (target : Path)
  /-- Takes everything and holds nothing. -/
  | null

structure FileTree where
  nodes : Std.HashMap Place Node := ∅
  workingDirectory : Place := []

namespace FileTree

/-- The root is always a directory. -/
def node? (t : FileTree) (p : Place) : Option Node :=
  if p = [] then some .directory else t.nodes[p]?

def put (t : FileTree) (p : Place) (n : Node) : FileTree := { t with nodes := t.nodes.insert p n }

/-- What a look-up comes to: something that is there, or a free name in a directory. -/
inductive Found where
  | present (place : Place) (node : Node)
  | free (place : Place)

/-- What a look-up is for, which says what happens at the last name of a path. -/
inductive Purpose where
  /-- A final link is followed, and a separator behind the name asks for a directory. -/
  | visit
  /-- A final link is followed, and a separator behind the name speaks of a directory, which no
  file can be written to, whatever is there. -/
  | create
  /-- The name itself is meant, even if it is a link or a separator follows. -/
  | make
  deriving DecidableEq, Repr

def longestName : Nat := 255

def longestPath : Nat := 4095

def mostLinks : Nat := 40

def seek (t : FileTree) (purpose : Purpose) (links : Nat) (here : Place)
    (pieces : List (List UInt8)) : Except Fault Found :=
  match pieces with
  | [] => .ok (.present here .directory)
  | piece :: rest =>
    if Path.isFiller piece then seek t purpose links here rest
    else if piece = [Path.dot, Path.dot] then seek t purpose links here.dropLast rest
    else
      let last := rest.all (· = [])
      if purpose = .create ∧ last ∧ rest ≠ [] then .error .isDirectory
      else if longestName < piece.length then .error .nameTooLong
      else
        let there := here ++ [piece]
        let meant := last && (purpose = .make || rest.isEmpty)
        match t.node? there with
        | none => if last then .ok (.free there) else .error .missing
        | some .directory => seek t purpose links there rest
        | some (.link target) =>
          if meant && purpose = .make then .ok (.present there (.link target))
          else
            match links with
            | 0 => .error .tooManyLinks
            | links + 1 =>
              seek t purpose links (if target.isAbsolute then [] else here)
                (Path.splitSlashes target.octets ++ rest)
        | some n => if meant then .ok (.present there n) else .error .notDirectory
termination_by (links, pieces.length)

def trace (t : FileTree) (purpose : Purpose) (p : Path) : Except Fault Found :=
  if p.octets.contains 0 then .error .nulInName
  else if p.octets = [] then .error .missing
  else
    t.seek purpose mostLinks (if p.isAbsolute then [] else t.workingDirectory)
      (Path.splitSlashes p.octets)

def find (t : FileTree) (purpose : Purpose) (p : Path) : Except Fault Found :=
  if !p.octets.contains 0 && longestPath < p.octets.length then .error .nameTooLong
  else t.trace purpose p

def absolute (p : Place) : Path := ⟨p.flatMap fun name => Path.slash :: name⟩

def pathOf (p : Place) : Path := if p = [] then ⟨[Path.slash]⟩ else absolute p

def currentDirectory (t : FileTree) : Path := pathOf t.workingDirectory

def look (t : FileTree) (p : Path) : Except Fault (Place × Node) :=
  match t.find .visit p with
  | .error fault => .error fault
  | .ok (.present place node) => .ok (place, node)
  | .ok (.free _) => .error .missing

def stat (t : FileTree) (p : Path) : Except Fault Node := (t.look p).map (·.2)

def isFile (t : FileTree) (p : Path) : Bool :=
  match t.stat p with
  | .ok (.file ..) => true
  | _ => false

def isDirectory (t : FileTree) (p : Path) : Bool :=
  match t.stat p with
  | .ok .directory => true
  | _ => false

def present (t : FileTree) (p : Path) : Bool := (t.stat p).isOk

/-- The path of the same place without links, dots and doubled separators. It is found name by
name, so the path may be of any length. -/
def canonical (t : FileTree) (p : Path) : Except Fault Path :=
  match t.trace .visit p with
  | .error fault => .error fault
  | .ok (.present place _) => .ok (pathOf place)
  | .ok (.free _) => .error .missing

def read (t : FileTree) (p : Path) : Except Fault ByteArray :=
  match t.stat p with
  | .error fault => .error fault
  | .ok (.file content _) => .ok content
  | .ok .null => .ok .empty
  | .ok _ => .error .isDirectory

def write (t : FileTree) (p : Path) (content : ByteArray) : Except Fault FileTree :=
  match t.find .create p with
  | .error fault => .error fault
  | .ok (.present place (.file _ executable)) => .ok (t.put place (.file content executable))
  | .ok (.present _ .null) => .ok t
  | .ok (.present _ _) => .error .isDirectory
  | .ok (.free place) => .ok (t.put place (.file content false))

def makeDirectory (t : FileTree) (p : Path) : Except Fault FileTree :=
  match t.find .make p with
  | .error fault => .error fault
  | .ok (.present ..) => .error .alreadyThere
  | .ok (.free place) => .ok (t.put place .directory)

/-- The names in a directory, in no order. -/
def namesIn (t : FileTree) (p : Place) : List (List UInt8) :=
  t.nodes.toList.filterMap fun n =>
    if n.1.length = p.length + 1 ∧ p.isPrefixOf n.1 then n.1.getLast? else none

/-- Every node that is not a directory below a place, in the order of the places. -/
def below (t : FileTree) (p : Place) : List (Place × Node) :=
  let inside := t.nodes.toList.filter fun n =>
    p.isPrefixOf n.1 && match n.2 with
      | .directory => false
      | _ => true
  inside.mergeSort fun a b => (compare a.1 b.1).isLE

end FileTree

end ElfFacts
