/-!
# Records

The fields of a record come by name, in any order, or one after another in the order of the names.
A field that is missing can have a default. A name that the record does not have is passed over,
and a name that it has is given once at most.
-/
namespace ElfFacts

/-- Fields by name; those that are missing are left out. -/
abbrev Fields (α : Type) := List (String × α)

namespace Fields

/-- The members with one of the names, each once. A name that is no text is refused. -/
def ofMembers? {α : Type} (names : List String) : List (Option String × α) → Option (Fields α)
  | [] => some []
  | (none, _) :: _ => none
  | (some name, a) :: rest =>
    match ofMembers? names rest with
    | none => none
    | some fields =>
      if !names.contains name then some fields
      else if (fields.lookup name).isSome then none
      else some ((name, a) :: fields)

/-- The fields in the order of the names; there are no more items than names. -/
def ofItems? {α : Type} (names : List String) (items : List α) : Option (Fields α) :=
  if items.length ≤ names.length then some (names.zip items) else none

/-- A field, or its default where it is missing. -/
def getOr {α β : Type} (fields : Fields α) (name : String) (default : β) (read : α → Option β) :
    Option β :=
  match fields.lookup name with
  | none => some default
  | some a => read a

def get {α β : Type} (fields : Fields α) (name : String) (read : α → Option β) : Option β :=
  fields.lookup name >>= read

end Fields

end ElfFacts
