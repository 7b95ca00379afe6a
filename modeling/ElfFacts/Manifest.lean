import ElfFacts.Generator.Request
import ElfFacts.Json.Parser
import ElfFacts.Yaml.Node

/-!
# Run manifests

A manifest lists the inputs of a run and says where its output goes. It is written in JSON or in
YAML, with paths that count from the directory of the manifest.
-/
namespace ElfFacts

structure Manifest where
  main : List Path := []
  libraries : List Path := []
  compilers : List Path := []
  outputDir : Option Path := none
  deriving DecidableEq, Repr

namespace Manifest

def names : List String := ["main", "libraries", "compilers", "output_dir"]

/-- Main binaries have to be listed, the rest has defaults. -/
def ofFields? {α : Type} (paths : α → Option (List Path)) (path : α → Option (Option Path))
    (fields : Fields α) : Option Manifest := do
  return { main := ← fields.get "main" paths
           libraries := ← fields.getOr "libraries" [] paths
           compilers := ← fields.getOr "compilers" [] paths
           outputDir := ← fields.getOr "output_dir" none path }

/-! ## JSON -/

def ofJson? (j : Json) : Option Manifest := do
  ofFields? (fun j => j.strings?.map (·.map Path.ofString))
    (Json.nullable? fun j => j.string?.map Path.ofString) (← j.fields? names)

def parseJson? (contents : List UInt8) : Option Manifest := Json.parse? (Utf8.decode contents) >>= ofJson?

/-! ## YAML -/

/-- A scalar of any kind is a path. -/
def yamlPath? (d : Yaml.Document) (n : Yaml.Node) : Option Path :=
  match d.follow n with
  | .scalar _ s => some (.ofString (String.ofList s.text))
  | _ => none

def isNothing (s : Yaml.Scalar) : Bool := s.plain && s.text = []

/-- A sequence of paths. Where there is nothing, there are no paths. -/
def yamlPaths? (d : Yaml.Document) (n : Yaml.Node) : Option (List Path) :=
  match d.follow n with
  | .sequence _ items => items.mapM (yamlPath? d)
  | .scalar _ s => if isNothing s then some [] else none
  | _ => none

def nullWords : List (List Char) := ["null".toList, "Null".toList, "NULL".toList, ['~']]

def nullTag : List Char := "tag:yaml.org,2002:null".toList

/-- A plain scalar is no path if it is empty or a word for that. With a tag it is a path, except
that the tag for null needs such a word. -/
def yamlOptionalPath? (d : Yaml.Document) (n : Yaml.Node) : Option (Option Path) :=
  match d.follow n with
  | .scalar _ s =>
    let path : Path := .ofString (String.ofList s.text)
    if !s.plain then some (some path)
    else
      match s.tag with
      | none => if s.text = [] ∨ s.text ∈ nullWords then some none else some (some path)
      | some tag =>
        if tag = nullTag then if s.text ∈ nullWords then some none else none
        else some (some path)
  | _ => none

def yamlMembers (d : Yaml.Document) (members : List (Yaml.Node × Yaml.Node)) : List (Option String × Yaml.Node) :=
  members.map fun (key, value) =>
    (match d.follow key with
      | .scalar _ s => some (String.ofList s.text)
      | _ => none, value)

/-- Unlike an array in JSON, a sequence does not list the fields in order. -/
def yamlFields? (d : Yaml.Document) : Option (Fields Yaml.Node) :=
  match d.follow d.root with
  | .mapping _ members => Fields.ofMembers? names (yamlMembers d members)
  | _ => none

def ofYaml? (d : Yaml.Document) : Option Manifest := do
  ofFields? (yamlPaths? d) (yamlOptionalPath? d) (← yamlFields? d)

def parseYaml? (contents : List UInt8) : Option Manifest := do
  ofYaml? (← Yaml.Document.parse? (← Utf8.strict contents))

/-! ## Paths -/

def resolve (m : Manifest) (base : Path) : Manifest where
  main := m.main.map base.join
  libraries := m.libraries.map base.join
  compilers := m.compilers.map base.join
  outputDir := m.outputDir.map base.join

/-- Manifests with this extension are JSON, all others YAML. -/
def isJson (p : Path) : Bool := p.extension? = some (Utf8.encode "json")

end Manifest

end ElfFacts
