import ElfFacts.TypeChain
import ElfFacts.Walk.Ledger
import ElfFacts.Walk.Tag

/-!
# Visiting one entry

A visit reports an entry, its relations to its children, its own attributes and, for a compile
unit, its language. It gives back the children that were not reported before.
-/
namespace ElfFacts

structure WalkOptions where
  /-- Normalized tags of the entries to report. -/
  allowedTags : List String
  maxDepth : Nat
  maxTypeChain : Nat
  generatorVersion : String
  deriving DecidableEq, Repr

namespace WalkOptions

def allows (o : WalkOptions) (tag : String) : Bool := o.allowedTags.contains tag

end WalkOptions

structure WalkStats where
  entries : Nat := 0
  duplicateChildren : Nat := 0
  /-- Children that lie too deep. -/
  truncated : Nat := 0
  unsupportedTypes : Nat := 0
  deriving DecidableEq, Repr

structure WalkState where
  ledger : Ledger := {}
  stats : WalkStats := {}
  facts : Array Fact := #[]

namespace WalkState

def report (s : WalkState) (f : Fact) : WalkState := { s with facts := s.facts.push f }

def reportAll (s : WalkState) (fs : List Fact) : WalkState := fs.foldl report s

end WalkState

structure WalkContext where
  options : WalkOptions
  path : String
  unitIndex : Nat
  unit : DebugUnit

structure WalkFrame where
  index : Nat
  id : Identity
  depth : Nat

namespace WalkContext

def idOf (c : WalkContext) (e : DebugEntry) (parent : Option Identity) : Identity :=
  Identity.ofEntry c.path c.unit.offset e parent

/-- The state of the loop over the children of one entry. -/
structure Brood where
  state : WalkState
  parameters : Nat := 0
  fresh : Array WalkFrame := #[]

def Brood.withLedger (b : Brood) (ledger : Ledger) : Brood :=
  { b with state := { b.state with ledger } }

def isParameter (tag childTag : String) : Bool :=
  Tag.kind tag = .function && Tag.kind childTag = .formalParameter

def existenceFact (path tag : String) (id : Identity) : Fact := ⟨tag, [.text path, id.argument]⟩

def relationFact (parent child : Identity) : Fact :=
  ⟨"has_child", [parent.argument, child.argument]⟩

def parameterFact (path : String) (function parameter : Identity) (number : Nat) : Fact :=
  ⟨"dw_tag_formal_parameter_order",
    [.text path, function.argument, parameter.argument, .ofNat number]⟩

/-- What is reported about a child: its number as a parameter, and its relation to an entry if one
of the two is reported itself. -/
def childFacts (c : WalkContext) (f : WalkFrame) (tag childTag : String) (id : Identity)
    (parameters : Nat) : List Fact :=
  (if isParameter tag childTag then [parameterFact c.path f.id id parameters] else []) ++
  (if c.options.allows tag || c.options.allows childTag then [relationFact f.id id] else [])

def countDuplicate (s : WalkState) : WalkState :=
  { s with stats := { s.stats with duplicateChildren := s.stats.duplicateChildren + 1 } }

def skipChild (b : Brood) : Brood := { b with state := countDuplicate b.state }

def adoptChild (c : WalkContext) (f : WalkFrame) (tag childTag : String) (index : Nat)
    (id : Identity) (b : Brood) : Brood where
  state := b.state.reportAll (c.childFacts f tag childTag id b.parameters)
  parameters := if isParameter tag childTag then b.parameters + 1 else b.parameters
  fresh := b.fresh.push ⟨index, id, f.depth + 1⟩

def meetChild (c : WalkContext) (f : WalkFrame) (tag : String) (b : Brood) (index : Nat) : Brood :=
  match c.unit.get? index with
  | none => b
  | some child =>
    let id := c.idOf child (some f.id)
    match b.state.ledger.recordChild f.id id with
    | (false, _) => skipChild b
    | (true, ledger) => c.adoptChild f tag (Tag.normalize child.tag) index id (b.withLedger ledger)

/-- The facts about the type of an entry, and whether its reference is of an unsupported kind. -/
def typeFacts (c : WalkContext) (f : WalkFrame) (tag : String) : List Fact × Bool :=
  let about (suffix : String) (value : Argument) : Fact :=
    ⟨tag ++ suffix, [.text c.path, f.id.argument, value]⟩
  match TypeChain.resolve c.unit c.options.maxTypeChain f.index with
  | .ok (.sized bits name) =>
    (about "_size_in_bits" (.ofNat bits.toNat) ::
      name.toList.map fun n => about "_type_name" (.text n), false)
  | .ok (.pointer bits) => ([about "_size_in_bits" (.ofNat bits.toNat)], false)
  | .ok .incomplete => ([about "_non_complete_type" (.text "yes")], false)
  | .ok .unresolved => ([], false)
  | .error _ => ([], true)

def typePart (c : WalkContext) (f : WalkFrame) (e : DebugEntry) (tag : String) :
    List Fact × Bool :=
  if e.has atType then c.typeFacts f tag else ([], false)

def attributeFacts (c : WalkContext) (f : WalkFrame) (e : DebugEntry) (tag : String)
    (type : List Fact) : List Fact :=
  let about (suffix : String) (value : Argument) : Fact :=
    ⟨tag ++ suffix, [.text c.path, f.id.argument, value]⟩
  (e.text? atName).toList.map (fun n => about "_name" (.text n)) ++ type ++
    e.sizeInBits?.toList.map (fun n => about "_size_in_bits" (.ofNat n.toNat)) ++
    e.size.toList.map (fun n => about "_die_size" (.ofNat n.toNat)) ++
    (e.text? atLinkageName).toList.map fun n => about "_mangled_name" (.text n)

def reportAttributes (c : WalkContext) (f : WalkFrame) (e : DebugEntry) (tag : String)
    (s : WalkState) : WalkState :=
  let type := c.typePart f e tag
  let s := s.reportAll (c.attributeFacts f e tag type.1)
  if type.2 then
    { s with stats := { s.stats with unsupportedTypes := s.stats.unsupportedTypes + 1 } }
  else s

def languageOf? (e : DebugEntry) : Option String :=
  match e.attribute? atLanguage with
  | some (.text s) => some s
  | some (.other s) => some s
  | some (.unsigned n) => some ("DW_LANG_" ++ Text.hex n.toNat)
  | _ => none

def newLanguage? (e : DebugEntry) (l : Ledger) : Option String :=
  (languageOf? e).filter fun language => !l.languages.contains language

/-- The version of the generator comes with the first compile unit, and every language once. -/
def unitFacts (c : WalkContext) (e : DebugEntry) (l : Ledger) : List Fact :=
  (if l.sawCompileUnit then []
    else [⟨"generator_version", [.text c.path, .text c.options.generatorVersion]⟩]) ++
  (newLanguage? e l).toList.map fun language => ⟨"language", [.text c.path, .text language]⟩

def recordUnit (e : DebugEntry) (l : Ledger) : Ledger :=
  { l with sawCompileUnit := true, languages := l.languages ++ (newLanguage? e l).toList }

def reportUnit (c : WalkContext) (e : DebugEntry) (s : WalkState) : WalkState :=
  { s with ledger := recordUnit e s.ledger }.reportAll (c.unitFacts e s.ledger)

def countEntry (s : WalkState) : WalkState :=
  { s with stats := { s.stats with entries := s.stats.entries + 1 } }

/-- The children of an entry, as far as the depth limit lets them be visited. -/
def reachable (c : WalkContext) (f : WalkFrame) (e : DebugEntry) : List Nat :=
  if f.depth < c.options.maxDepth then e.children.toList else []

def countTruncated (c : WalkContext) (f : WalkFrame) (e : DebugEntry) (s : WalkState) : WalkState :=
  if f.depth < c.options.maxDepth then s
  else { s with stats := { s.stats with truncated := s.stats.truncated + e.children.size } }

def visitEntry (c : WalkContext) (f : WalkFrame) (e : DebugEntry) (s : WalkState) :
    WalkState × List WalkFrame :=
  let tag := Tag.normalize e.tag
  let allowed := c.options.allows tag
  let s := countEntry s
  let s := if allowed then s.report (existenceFact c.path tag f.id) else s
  let s := c.countTruncated f e s
  let brood := (c.reachable f e).foldl (c.meetChild f tag) { state := s }
  let s := { brood.state with ledger := brood.state.ledger.register f.id (c.unitIndex, f.index) }
  let s := if allowed then c.reportAttributes f e tag s else s
  let s := if Tag.kind tag = .compileUnit then c.reportUnit e s else s
  (s, brood.fresh.toList)

/-- The state after a visit and the children still to visit, in order. -/
def visit (c : WalkContext) (f : WalkFrame) (s : WalkState) : WalkState × List WalkFrame :=
  match c.unit.get? f.index with
  | none => (s, [])
  | some e => c.visitEntry f e s

end WalkContext

end ElfFacts
