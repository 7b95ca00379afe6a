import ElfFacts.Script.Editing
import ElfFacts.Script.Format

/-!
# Tools

Programs that every system has and that scripts use: some turn the text of files into other text,
some answer from their arguments alone.
-/
namespace ElfFacts.Script

/-- What a tool reads, and what becomes of it. Without operands it reads its input, which has no
name. -/
structure Tool where
  operands : List (List Char)
  apply : List (List Char × List Char) → List Char × Nat

/-- A tool that does not care where one file ends and another starts. -/
def Tool.ofText (operands : List (List Char)) (f : List Char → List Char) : Tool :=
  ⟨operands, fun files => (f (files.flatMap (·.2)), 0)⟩

/-! ## Options -/

structure Arguments where
  /-- The letters, each with its value if it takes one. -/
  options : List (Char × List Char) := []
  operands : List (List Char) := []

namespace Arguments

def has (a : Arguments) (letter : Char) : Bool := a.options.any (·.1 = letter)

def value? (a : Arguments) (letter : Char) : Option (List Char) :=
  (a.options.reverse.find? (·.1 = letter)).map (·.2)

def values (a : Arguments) (letter : Char) : List (List Char) :=
  (a.options.filter (·.1 = letter)).map (·.2)

/-- The letters of one argument; the last of them can take the rest of it, or the next argument. -/
def letters (valued : List Char) : List Char → Arguments → Arguments × Option Char
  | [], a => (a, none)
  | c :: rest, a =>
    if valued.contains c then
      if rest = [] then (a, some c) else ({ a with options := a.options ++ [(c, rest)] }, none)
    else letters valued rest { a with options := a.options ++ [(c, [])] }

def readFrom (valued : List Char) : (fuel : Nat) → List (List Char) → Arguments → Arguments
  | 0, _, a => a
  | _ + 1, [], a => a
  | fuel + 1, x :: rest, a =>
    match x with
    | ['-', '-'] => { a with operands := a.operands ++ rest }
    | '-' :: c :: cs =>
      let (a, awaited) := letters valued (c :: cs) a
      match awaited with
      | some letter =>
        readFrom valued fuel rest.tail { a with options := a.options ++ [(letter, rest.headD [])] }
      | none => readFrom valued fuel rest a
    | _ => readFrom valued fuel rest { a with operands := a.operands ++ [x] }

def read (valued : String) (arguments : List (List Char)) : Arguments :=
  readFrom valued.toList (arguments.length + 1) arguments {}

end Arguments

/-! ## Characters -/

def setCharacters : (fuel : Nat) → List Char → List Char
  | 0, _ => []
  | _ + 1, [] => []
  | fuel + 1, '[' :: ':' :: rest =>
    let name := rest.takeWhile Char.isAlpha
    if (rest.drop name.length).take 2 = [':', ']'] then
      ((classRanges name).flatMap fun r => between r.1 r.2) ++
        setCharacters fuel (rest.drop (name.length + 2))
    else '[' :: setCharacters fuel (':' :: rest)
  | fuel + 1, '\\' :: c :: rest =>
    if Format.isOctal c then
      let (e, n) := Format.octal 3 (c :: rest)
      e :: setCharacters fuel (rest.drop (n - 1))
    else (Format.letterEscape? c).getD c :: setCharacters fuel rest
  | fuel + 1, c :: '-' :: d :: rest => between c d ++ setCharacters fuel rest
  | fuel + 1, c :: rest => c :: setCharacters fuel rest
where
  between (c d : Char) : List Char :=
    (List.range (d.toNat + 1 - c.toNat)).map fun n => Char.ofNat (c.toNat + n)

def setOf (cs : List Char) : List Char := setCharacters (cs.length + 1) cs

/-- Of several equal members of a set in a row one is left. -/
def squeeze (set : List Char) : List Char → List Char
  | [] => []
  | c :: rest =>
    if set.contains c && rest.head? = some c then squeeze set rest else c :: squeeze set rest

def translate (a : Arguments) (cs : List Char) : List Char :=
  let named := setOf (a.operands.headD [])
  let all := (List.range 256).map Char.ofNat
  let first := if a.has 'c' || a.has 'C' then all.filter (!named.contains ·) else named
  let second := setOf (a.operands.getD 1 [])
  let filled := second ++
    List.replicate (first.length - second.length) (second.getLast?.getD ' ')
  let pairs := (first.zip filled).reverse
  let changed :=
    if a.has 'd' then cs.filter (!first.contains ·)
    else if second = [] then cs
    else cs.map fun c => (pairs.lookup c).getD c
  if a.has 's' then squeeze (if second = [] then first else second) changed else changed

/-! ## Lines -/

def counted (cs : List Char) : Bool × Bool × Nat :=
  match cs.dropWhile isBlank with
  | '-' :: ds => (true, false, (number? ds).getD 0)
  | '+' :: ds => (false, true, (number? ds).getD 0)
  | ds => (false, false, (number? ds).getD 10)

/-- An old spelling of a count as the first argument. -/
def countFirst (arguments : List (List Char)) : List (List Char) :=
  match arguments with
  | ('-' :: d :: ds) :: rest =>
    if d.isDigit then ['-', 'n'] :: (d :: ds) :: rest else arguments
  | _ => arguments

/-- The first items, or all but the last ones. -/
def firstOf {α : Type} (count : List Char) (items : List α) : List α :=
  let (negative, _, n) := counted count
  if negative then items.take (items.length - n) else items.take n

/-- The last items, or all from one on. -/
def lastOf {α : Type} (count : List Char) (items : List α) : List α :=
  let (_, fromStart, n) := counted count
  if fromStart then items.drop (n - 1) else items.drop (items.length - n)

def before (numeric : Bool) (a b : List Char) : Bool :=
  let value (cs : List Char) : Int :=
    let cs := cs.dropWhile isBlank
    let digits := if cs.head? = some '-' then cs.drop 1 else cs
    let n : Nat := (number? (digits.takeWhile Char.isDigit)).getD 0
    if cs.head? = some '-' then -n else n
  if numeric && value a ≠ value b then value a < value b else (compare a b).isLE

def sorted (a : Arguments) (ls : List (List Char)) : List (List Char) :=
  let ordered := ls.mergeSort (before (a.has 'n'))
  let ordered := if a.has 'u' then unrepeated ordered else ordered
  if a.has 'r' then ordered.reverse else ordered
where
  unrepeated : List (List Char) → List (List Char)
    | [] => []
    | l :: rest => if rest.head? = some l then unrepeated rest else l :: unrepeated rest

/-- Equal lines that follow one another, with their number. -/
def runs : List (List Char) → List (Nat × List Char)
  | [] => []
  | l :: rest =>
    match runs rest with
    | (n, k) :: more => if k = l then (n + 1, k) :: more else (1, l) :: (n, k) :: more
    | [] => [(1, l)]

def aligned (width n : Nat) : List Char :=
  let ds := decimal n
  List.replicate (width - ds.length) ' ' ++ ds

def merged (a : Arguments) (ls : List (List Char)) : List (List Char) :=
  ((runs ls).filter fun r => !(a.has 'd' && r.1 = 1) && !(a.has 'u' && r.1 ≠ 1)).map fun r =>
    if a.has 'c' then aligned 7 r.1 ++ ' ' :: r.2 else r.2

/-- Ranges of numbers, as in `1,3-5,7-`. -/
def inList (ranges : List Char) (n : Nat) : Bool :=
  (parts ',' ranges).any fun r =>
    match parts '-' r with
    | [one] => number? one = some n
    | [low, high] => (number? low).getD 1 ≤ n && n ≤ (number? high).getD n
    | _ => false
where
  parts (separator : Char) (cs : List Char) : List (List Char) :=
    cs.foldr (fun c ps => if c = separator then [] :: ps else match ps with
      | [] => [[c]]
      | p :: rest => (c :: p) :: rest) [[]]

def chosen {α : Type} (ranges : List Char) (items : List α) : List α :=
  (items.zipIdx 1).filterMap fun (x, n) => if inList ranges n then some x else none

def cutLine (a : Arguments) (line : List Char) : Option (List Char) :=
  match a.value? 'f' with
  | some ranges =>
    let delimiter := ((a.value? 'd').bind List.head?).getD '\t'
    if line.contains delimiter then
      some ([delimiter].intercalate (chosen ranges (inList.parts delimiter line)))
    else if a.has 's' then none else some line
  | none => some (chosen (((a.value? 'c') <|> (a.value? 'b')).getD []) line)

def counts (a : Arguments) (cs : List Char) : List Nat :=
  let words := (cs.foldl (fun (n, inside) c =>
    let blank := isBlank c || c = '\n' || c = '\r' || c = '\x0b' || c = '\x0c'
    (if !blank && !inside then n + 1 else n, !blank)) (0, false)).1
  let all := !(a.has 'l' || a.has 'w' || a.has 'c' || a.has 'm')
  (if all || a.has 'l' then [(cs.filter (· = '\n')).length] else []) ++
    (if all || a.has 'w' then [words] else []) ++
    (if all || a.has 'c' || a.has 'm' then [cs.length] else [])

/-- Counts for every file, and for all of them together if there are several. A count that stands
alone is not aligned. -/
def showCounts (a : Arguments) (files : List (List Char × List Char)) : List Char :=
  let named := a.operands ≠ []
  let total := files.flatMap (·.2)
  let single := (counts a []).length = 1 && files.length = 1
  let width := if single then 1 else if named then (decimal total.length).length else 7
  let row (name : List Char) (cs : List Char) : List Char :=
    [' '].intercalate ((counts a cs).map (aligned width)) ++
      (if named then ' ' :: name else []) ++ ['\n']
  files.flatMap (fun f => row f.1 f.2) ++
    (if files.length ≤ 1 then [] else row "total".toList total)

/-! ## Searching -/

def found (r : Regex) (folded : Bool) : (fuel : Nat) → (atStart : Bool) → List Char → List (List Char)
  | 0, _, _ => []
  | fuel + 1, atStart, cs =>
    match r.search? folded atStart cs with
    | none => []
    | some p =>
      if p.text = [] then if p.after = [] then [] else found r folded fuel false (p.after.drop 1)
      else p.text :: found r folded fuel false p.after

def searchFile (a : Arguments) (rs : List Regex) (label cs : List Char) : List Char × Bool :=
  let folded := a.has 'i'
  let fits (line : List Char) : Bool := (rs.any fun r => r.matchesLine folded line) != a.has 'v'
  let fitting := ((lines cs).zipIdx 1).filter fun l => fits l.1
  let mark (n : Nat) : List Char := label ++ if a.has 'n' then decimal n ++ [':'] else []
  let text :=
    if a.has 'q' then []
    else if a.has 'c' then label ++ decimal fitting.length ++ ['\n']
    else if a.has 'o' then
      unlines (fitting.flatMap fun (line, n) =>
        (rs.flatMap fun r => found r folded (line.length + 1) true line).map (mark n ++ ·))
    else unlines (fitting.map fun (line, n) => mark n ++ line)
  (text, !fitting.isEmpty)

/-- Every line shows its file if there are several. -/
def searchFiles (a : Arguments) (rs : List Regex) (files : List (List Char × List Char)) :
    List Char × Nat :=
  let several := (1 < files.length || a.has 'H') && !a.has 'h'
  let results := files.map fun (name, cs) =>
    (name, searchFile a rs (if several then name ++ [':'] else []) cs)
  let text :=
    if a.has 'l' then unlines ((results.filter (·.2.2)).map (·.1)) else results.flatMap (·.2.1)
  (text, if results.any (·.2.2) then 0 else 1)

def search (usual : List (Char × List Char)) (arguments : List (List Char)) : Tool :=
  let a := Arguments.read "efmAB" arguments
  let a := { a with options := usual ++ a.options }
  let (patterns, operands) :=
    if a.has 'e' then (a.values 'e', a.operands) else (a.operands.take 1, a.operands.drop 1)
  let whole (r : Regex) : Regex := if a.has 'x' then .both .lineStart (.both r .lineEnd) else r
  let rs? := (patterns.flatMap lines).mapM fun p =>
    if a.has 'F' then some (whole (Regex.ofText p)) else (Regex.parse? (a.has 'E') p).map whole
  let rs? := if patterns.any (· = []) then rs?.map (Regex.empty :: ·) else rs?
  ⟨operands, fun files => rs?.elim ([], 2) fun rs => searchFiles a rs files⟩

def edit (arguments : List (List Char)) : Tool :=
  let a := Arguments.read "ef" arguments
  let (scripts, operands) :=
    if a.has 'e' then (a.values 'e', a.operands) else (a.operands.take 1, a.operands.drop 1)
  let steps? := Editing.steps? (a.has 'E' || a.has 'r') (['\n'].intercalate scripts)
  ⟨operands, fun files => steps?.elim ([], 1) fun steps =>
    (Editing.run (a.has 'n') steps (files.map (·.2)), 0)⟩

/-! ## Tools by name -/

def byLines (a : Arguments) (f : List (List Char) → List (List Char)) : Tool :=
  .ofText a.operands fun cs => unlines (f (lines cs))

/-- A tool that takes a part of every file; several files have their names above them. -/
def byParts (a : Arguments) (part : List Char → List Char) : Tool :=
  ⟨a.operands, fun files =>
    let titled := files.map fun (name, cs) =>
      if files.length ≤ 1 then part cs else "==> ".toList ++ name ++ " <==\n".toList ++ part cs
    (['\n'].intercalate titled, 0)⟩

def partOf (a : Arguments) (characters : List Char → List Char → List Char)
    (lines : List Char → List (List Char) → List (List Char)) (cs : List Char) : List Char :=
  match a.value? 'c' with
  | some n => characters n cs
  | none => (lines ((a.value? 'n').getD ['1', '0']) (fullLines cs)).flatten

def tool? (name : List Char) (arguments : List (List Char)) : Option Tool :=
  match String.ofList name with
  | "cat" => some (.ofText (Arguments.read "" arguments).operands id)
  | "tac" =>
    some ⟨(Arguments.read "" arguments).operands, fun files =>
      (files.flatMap fun f => (fullLines f.2).reverse.flatten, 0)⟩
  | "rev" =>
    some (.ofText (Arguments.read "" arguments).operands fun cs => (fullLines cs).flatMap fun line =>
      let ending := line.filter (· = '\n')
      (line.take (line.length - ending.length)).reverse ++ ending)
  | "sort" => let a := Arguments.read "kto" arguments; some (byLines a (sorted a))
  | "uniq" => let a := Arguments.read "fsw" arguments; some (byLines a (merged a))
  | "cut" => let a := Arguments.read "dfcb" arguments; some (byLines a (·.filterMap (cutLine a)))
  | "head" =>
    let a := Arguments.read "nc" (countFirst arguments)
    some (byParts a (partOf a firstOf firstOf))
  | "tail" =>
    let a := Arguments.read "nc" (countFirst arguments)
    some (byParts a (partOf a lastOf lastOf))
  | "wc" =>
    let a := Arguments.read "" arguments
    some ⟨a.operands, fun files => (showCounts a files, 0)⟩
  | "tr" => some (.ofText [] (translate (Arguments.read "" arguments)))
  | "grep" => some (search [] arguments)
  | "egrep" => some (search [('E', [])] arguments)
  | "fgrep" => some (search [('F', [])] arguments)
  | "sed" => some (edit arguments)
  | _ => none

/-- What comes after the last slash of a path; slashes at its end do not count. -/
def lastName (cs : List Char) : List Char :=
  let trimmed := cs.reverse.dropWhile (· = '/')
  if trimmed = [] then cs.take 1 else (trimmed.takeWhile (· ≠ '/')).reverse

def directoryName (cs : List Char) : List Char :=
  let above := ((cs.reverse.dropWhile (· = '/')).dropWhile (· ≠ '/')).dropWhile (· = '/')
  if above ≠ [] then above.reverse
  else if cs.head? = some '/' then ['/'] else ['.']

def withoutEnding (ending cs : List Char) : List Char :=
  if ending ≠ cs ∧ ending.isSuffixOf cs then cs.take (cs.length - ending.length) else cs

def numbers (first step last : Int) : List Int :=
  if step = 0 then []
  else
    let count := (Int.fdiv (last - first) step + 1).toNat
    (List.range count).map fun n : Nat => first + step * (n : Int)

/-- The value of an expression, and one as a status if it is nothing. -/
def expression (arguments : List (List Char)) : List Char × Nat :=
  match arguments with
  | [text, [':'], pattern] =>
    match Regex.parse? false pattern with
    | none => ([], 2)
    | some r =>
      match (Regex.both .lineStart r).search? false true text with
      | some found =>
        let shown := (found.groups.lookup 1).getD (decimal found.text.length)
        (shown ++ ['\n'], if shown = [] ∨ shown = ['0'] then 1 else 0)
      | none => (['0', '\n'], 1)
  | [['l', 'e', 'n', 'g', 't', 'h'], text] => counted text.length
  | [text] => (text ++ ['\n'], if text = [] ∨ text = ['0'] then 1 else 0)
  | [a, ['='], b] | [a, ['=', '='], b] => counted (if alike a b then 1 else 0)
  | [a, ['!', '='], b] => counted (if alike a b then 0 else 1)
  | _ =>
    match Arithmetic.evaluate? ([' '].intercalate arguments) [] with
    | some (n, _) => (Arithmetic.decimal n ++ ['\n'], if n = 0 then 1 else 0)
    | none => ([], 2)
where
  counted (n : Nat) : List Char × Nat := (decimal n ++ ['\n'], if n = 0 then 1 else 0)
  /-- Numbers are compared by their value. -/
  alike (a b : List Char) : Bool :=
    match Arithmetic.decimalOf? a, Arithmetic.decimalOf? b with
    | some n, some k => n = k
    | _, _ => a = b

def answer? (dialect : Dialect) (name : List Char) (arguments : List (List Char)) :
    Option (List Char × Nat) :=
  let operands := (Arguments.read "s" arguments).operands
  match String.ofList name with
  | "echo" => some (Format.echo dialect arguments, 0)
  | "printf" =>
    match if arguments.head? = some ['-', '-'] then arguments.tail else arguments with
    | [] => some ([], 2)
    | format :: rest => some (Format.print format rest)
  | "basename" =>
    let ending := (operands[1]?).getD []
    some (match operands with
      | [] => ([], 1)
      | name :: _ => (withoutEnding ending (lastName name) ++ ['\n'], 0))
  | "dirname" => some (unlines (operands.map directoryName), if operands = [] then 1 else 0)
  | "seq" =>
    let (separator, given) := match arguments with
      | ('-' :: 's' :: []) :: text :: rest => (text, rest)
      | ('-' :: 's' :: text) :: rest => (text, rest)
      | _ => (['\n'], arguments)
    match given.map Arithmetic.decimalOf? with
    | [some last] => some (shown separator 1 1 last, 0)
    | [some first, some last] => some (shown separator first 1 last, 0)
    | [some first, some step, some last] => some (shown separator first step last, 0)
    | _ => some ([], 1)
  | "expr" => some (expression arguments)
  | "sleep" => some ([], if operands = [] then 1 else 0)
  | "true" => some ([], 0)
  | "false" => some ([], 1)
  | _ => none
where
  shown (separator : List Char) (first step last : Int) : List Char :=
    let texts := (numbers first step last).map Arithmetic.decimal
    if texts = [] then [] else separator.intercalate texts ++ ['\n']

end ElfFacts.Script
