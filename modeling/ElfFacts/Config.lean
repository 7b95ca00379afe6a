import ElfFacts.Json.Parser
import ElfFacts.Json.Printer
import ElfFacts.Walk.Visit

/-!
# Settings of a run

Every setting has a default, and the walk takes its options from the settings. Settings are kept as
a JSON object, from which any of them can be left out.
-/
namespace ElfFacts

def libraryVersion : String := "0.1.0"

structure Config where
  configVersion : String := "0.1.0"
  /-- Raw or normalized tags. -/
  allowedTags : List String := ["dw_tag_function", "dw_tag_formal_parameter"]
  maxDepth : UInt64 := 256
  maxTypeChain : UInt64 := 64
  resolveNeeded : Bool := true
  lddPath : Option String := none
  /-- Without the dot. -/
  extension : String := "lp"
  deriving DecidableEq, Repr, Inhabited

namespace Config

def walkOptions (c : Config) : WalkOptions where
  allowedTags := c.allowedTags.map Tag.normalize
  maxDepth := c.maxDepth.toNat
  maxTypeChain := c.maxTypeChain.toNat
  generatorVersion := libraryVersion

def names : List String :=
  ["config_version", "allowed_tags", "max_depth", "max_type_chain", "resolve_needed_libraries",
    "ldd_path", "fact_file_extension"]

/-- The settings as they are written; a program that is not given is left out. -/
def members (c : Config) : List (String × Json) :=
  [("config_version", .ofString c.configVersion), ("allowed_tags", .ofStrings c.allowedTags),
    ("max_depth", .ofNat c.maxDepth.toNat), ("max_type_chain", .ofNat c.maxTypeChain.toNat),
    ("resolve_needed_libraries", .bool c.resolveNeeded)] ++
  c.lddPath.toList.map (fun p => ("ldd_path", .ofString p)) ++
  [("fact_file_extension", .ofString c.extension)]

def toJson (c : Config) : Json := .ofMembers c.members

def ofJson? (j : Json) : Option Config := do
  let fields ← j.fields? names
  let d : Config := {}
  return {
    configVersion := ← fields.getOr "config_version" d.configVersion Json.string?
    allowedTags := ← fields.getOr "allowed_tags" d.allowedTags Json.strings?
    maxDepth := ← fields.getOr "max_depth" d.maxDepth Json.word?
    maxTypeChain := ← fields.getOr "max_type_chain" d.maxTypeChain Json.word?
    resolveNeeded := ← fields.getOr "resolve_needed_libraries" d.resolveNeeded Json.bool?
    lddPath := ← fields.getOr "ldd_path" d.lddPath (Json.nullable? Json.string?)
    extension := ← fields.getOr "fact_file_extension" d.extension Json.string? }

def parse? (cs : List Char) : Option Config := Json.parse? (cs.map some) >>= ofJson?

end Config

end ElfFacts
