import ElfFacts.Yaml.Lexer

/-!
# Nodes

A document is a tree of scalars, sequences and mappings. A node can have an anchor, by which an
alias stands for it elsewhere.
-/
namespace ElfFacts.Yaml

structure Scalar where
  text : List Char
  plain : Bool
  tag : Option (List Char)
  deriving DecidableEq, Repr

/-- Anchors are numbered; a node holds the number of its own, and an alias that of another. -/
inductive Node where
  | scalar (anchor : Option Nat) (s : Scalar)
  | sequence (anchor : Option Nat) (items : List Node)
  | mapping (anchor : Option Nat) (members : List (Node × Node))
  | alias (number : Nat)
  deriving Inhabited

namespace Node

def empty : Node := .scalar none ⟨[], true, none⟩

mutual

def anchored : Node → List (Nat × Node)
  | .scalar a s => (a.map fun n => (n, Node.scalar a s)).toList
  | .sequence a items => (a.map fun n => (n, Node.sequence a items)).toList ++ anchoredItems items
  | .mapping a members =>
    (a.map fun n => (n, Node.mapping a members)).toList ++ anchoredMembers members
  | .alias _ => []

def anchoredItems : List Node → List (Nat × Node)
  | [] => []
  | item :: rest => anchored item ++ anchoredItems rest

def anchoredMembers : List (Node × Node) → List (Nat × Node)
  | [] => []
  | (key, value) :: rest => anchored key ++ anchored value ++ anchoredMembers rest

end

end Node

/-! ## Reading tokens -/

structure Source where
  tokens : List Token
  handles : List (List Char × List Char) := []
  anchors : List (List Char × Nat) := []

abbrev Composer := StateT Source Option

namespace Composer

def fail {α : Type} : Composer α := fun _ => none

/-- The next token; behind the last one there is nothing but the end. -/
def peek : Composer Token := fun s => some (s.tokens.headD .streamEnd, s)

def skip : Composer Unit := fun s => some ((), { s with tokens := s.tokens.drop 1 })

def accept (t : Token) : Composer Bool := do
  if (← peek) = t then
    skip
    return true
  else return false

def nextIs (ts : List Token) : Composer Bool := return ts.contains (← peek)

def define (name : List Char) : Composer Nat := fun s =>
  let number := s.anchors.length
  some (number, { s with anchors := (name, number) :: s.anchors.filter (·.1 ≠ name) })

def numberOf (name : List Char) : Composer Nat := fun s =>
  (s.anchors.lookup name).map fun n => (n, s)

/-- A tag in full. A tag without a handle is in full already. -/
def fullTag (handle suffix : List Char) : Composer (List Char) := fun s =>
  if handle = [] then some (suffix, s)
  else (s.handles.lookup handle).map fun start => (start ++ suffix, s)

structure Properties where
  anchor : Option (List Char) := none
  tag : Option (List Char) := none

def anchorName? : Composer (Option (List Char)) := do
  match ← peek with
  | .anchor name =>
    skip
    return some name
  | _ => return none

def tagText? : Composer (Option (List Char × List Char)) := do
  match ← peek with
  | .tag handle suffix =>
    skip
    return some (handle, suffix)
  | _ => return none

def properties : Composer Properties := do
  let before ← anchorName?
  let tag ← tagText?
  let anchor ← if before.isNone && tag.isSome then anchorName? else pure before
  match tag with
  | none => return { anchor }
  | some (handle, suffix) => return { anchor, tag := some (← fullTag handle suffix) }

mutual

/-- A node. Block collections are allowed in `block` context, and a sequence that is not indented
where `loose` says so. The fuel bounds the depth. -/
def node (block loose : Bool) : (fuel : Nat) → Composer Node
  | 0 => fail
  | fuel + 1 => do
    match ← peek with
    | .alias name =>
      skip
      return .alias (← numberOf name)
    | _ =>
      let p ← properties
      let next ← peek
      if loose ∧ next = .blockEntry then
        let a ← p.anchor.mapM define
        return .sequence a (← looseItems fuel)
      else
        match next with
        | .scalar text plain =>
          let a ← p.anchor.mapM define
          skip
          return .scalar a ⟨text, plain, p.tag⟩
        | .openSequence =>
          let a ← p.anchor.mapM define
          skip
          return .sequence a (← flowItems fuel true)
        | .openMapping =>
          let a ← p.anchor.mapM define
          skip
          return .mapping a (← flowMembers fuel true)
        | .blockSequence =>
          if block then
            let a ← p.anchor.mapM define
            skip
            return .sequence a (← blockItems fuel)
          else bare p
        | .blockMapping =>
          if block then
            let a ← p.anchor.mapM define
            skip
            return .mapping a (← blockMembers fuel)
          else bare p
        | _ => bare p

def bare (p : Properties) : Composer Node := do
  if p.anchor.isNone && p.tag.isNone then fail
  else return .scalar (← p.anchor.mapM define) ⟨[], true, p.tag⟩

def nodeUnless (stops : List Token) (block loose : Bool) : (fuel : Nat) → Composer Node
  | 0 => fail
  | fuel + 1 => do if ← nextIs stops then return .empty else node block loose fuel

def blockItems : (fuel : Nat) → Composer (List Node)
  | 0 => fail
  | fuel + 1 => do
    if ← accept .blockEntry then
      let item ← nodeUnless [.blockEntry, .blockEnd] true false fuel
      return item :: (← blockItems fuel)
    else if ← accept .blockEnd then return []
    else fail

def looseItems : (fuel : Nat) → Composer (List Node)
  | 0 => fail
  | fuel + 1 => do
    if ← accept .blockEntry then
      let item ← nodeUnless [.blockEntry, .key, .value, .blockEnd] true false fuel
      return item :: (← looseItems fuel)
    else return []

def blockMembers : (fuel : Nat) → Composer (List (Node × Node))
  | 0 => fail
  | fuel + 1 => do
    if ← accept .key then
      let stops : List Token := [.key, .value, .blockEnd]
      let key ← nodeUnless stops true true fuel
      let value ← if ← accept .value then nodeUnless stops true true fuel else pure .empty
      return (key, value) :: (← blockMembers fuel)
    else if ← accept .blockEnd then return []
    else fail

def flowItems : (fuel : Nat) → (first : Bool) → Composer (List Node)
  | 0, _ => fail
  | fuel + 1, first => do
    if ← accept .closeSequence then return []
    if !first then
      if !(← accept .flowEntry) then fail
    if ← accept .closeSequence then return []
    let item ← if ← accept .key then pairItem fuel else node false false fuel
    return item :: (← flowItems fuel false)

/-- A mapping of one member inside a flow sequence. Where the key is left out, the token that comes
instead is lost. -/
def pairItem : (fuel : Nat) → Composer Node
  | 0 => fail
  | fuel + 1 => do
    let key ←
      if ← nextIs [.value, .flowEntry, .closeSequence] then
        skip
        pure .empty
      else node false false fuel
    let value ←
      if ← accept .value then nodeUnless [.flowEntry, .closeSequence] false false fuel
      else pure .empty
    return .mapping none [(key, value)]

def flowMembers : (fuel : Nat) → (first : Bool) → Composer (List (Node × Node))
  | 0, _ => fail
  | fuel + 1, first => do
    if ← accept .closeMapping then return []
    if !first then
      if !(← accept .flowEntry) then fail
    if ← accept .closeMapping then return []
    let member ←
      if ← accept .key then do
        let key ← nodeUnless [.value, .flowEntry, .closeMapping] false false fuel
        let value ←
          if ← accept .value then nodeUnless [.flowEntry, .closeMapping] false false fuel
          else pure .empty
        pure (key, value)
      else do pure (← node false false fuel, .empty)
    return member :: (← flowMembers fuel false)

end

/-! ## Documents -/

def usualHandles : List (List Char × List Char) :=
  [(['!'], ['!']), (['!', '!'], "tag:yaml.org,2002:".toList)]

/-- The directives before a document: at most one version, and no handle twice. -/
def directivesFrom : (fuel : Nat) → (versioned : Bool) → List (List Char × List Char) →
    Composer (List (List Char × List Char))
  | 0, _, _ => fail
  | fuel + 1, versioned, handles => do
    match ← peek with
    | .versionDirective major minor =>
      if versioned || major ≠ 1 || (minor ≠ 1 && minor ≠ 2) then fail
      else
        skip
        directivesFrom fuel true handles
    | .tagDirective handle start =>
      if (handles.lookup handle).isSome then fail
      else
        skip
        directivesFrom fuel versioned (handles ++ [(handle, start)])
    | _ => return handles

def skipDocumentEnds : (fuel : Nat) → Composer Unit
  | 0 => fail
  | fuel + 1 => do if ← accept .documentEnd then skipDocumentEnds fuel else return ()

def document (fuel : Nat) : Composer (Option Node) := do
  match ← peek with
  | .streamEnd => return none
  | next =>
    let handles ← directivesFrom fuel false []
    modify fun s => { s with handles := handles ++ usualHandles }
    let explicit ← accept .documentStart
    let announced := match next with
      | .versionDirective .. | .tagDirective .. => true
      | _ => false
    if announced && !explicit then fail
    let root ←
      if explicit then
        match ← peek with
        | .versionDirective .. | .tagDirective .. | .documentStart | .documentEnd | .streamEnd =>
          pure .empty
        | _ => node true false fuel
      else node true false fuel
    skipDocumentEnds fuel
    if (← peek) = .streamEnd then return some root else fail

end Composer

structure Document where
  root : Node
  anchored : List (Nat × Node)

namespace Document

def ofRoot (root : Node) : Document := ⟨root, root.anchored.reverse⟩

/-- The node itself, or the one that it stands for: of several under a number, the last. -/
def follow (d : Document) : Node → Node
  | .alias number => (d.anchored.lookup number).getD (.alias number)
  | n => n

def parse? (cs : List Char) : Option Document := do
  let tokens ← tokens? cs
  let (root, _) ← Composer.document (4 * tokens.length + 16) { tokens }
  return .ofRoot (← root)

end Document

end ElfFacts.Yaml
