import ElfFacts.Linker.Listing
import ElfFacts.Proofs.Text.Lines

/-!
# Listings are read back

A listing has a line for every library, found or not, and lines without an arrow for all else. The
found libraries are read from it, in order, and nothing else is, whatever its line ends are.
-/
namespace ElfFacts

open Text

namespace Listing

def arrow : List Char := ['=', '>']

variable {text rest : List Char}

theorem splitArrow_cons_of_ne {c : Char} (hc : c ≠ '=') (r : List Char) :
    splitArrow (c :: r) = (splitArrow r).map fun p => (c :: p.1, p.2) := by
  rw [splitArrow]
  rintro r' rfl
  exact absurd rfl hc

/-- A text without an arrow is passed over, unless an arrow begins in it and ends behind it. -/
theorem splitArrow_append (htext : ¬ arrow <:+: text) (hrest : rest.head? ≠ some '>') :
    splitArrow (text ++ rest) = (splitArrow rest).map fun p => (text ++ p.1, p.2) := by
  induction text with
  | nil => exact Option.map_id'.symm
  | cons c text ih =>
    have hnext : (text ++ rest).head? ≠ some '>' ∨ c ≠ '=' := by
      by_cases hc : c = '='
      · refine .inl fun hhead => ?_
        cases text with
        | nil => exact hrest hhead
        | cons d text =>
          obtain rfl := Option.some.inj hhead
          exact htext (hc ▸ (List.prefix_append arrow text).isInfix)
      · exact .inr hc
    have hstep : splitArrow (c :: (text ++ rest)) =
        (splitArrow (text ++ rest)).map fun p => (c :: p.1, p.2) := by
      rcases hnext with hnext | hc
      · rw [splitArrow]
        rintro r rfl hr
        exact hnext (by rw [hr, List.head?_cons])
      · exact splitArrow_cons_of_ne hc _
    rw [List.cons_append, hstep, ih fun h => htext (List.infix_cons h), Option.map_map]
    rfl

theorem splitArrow_eq_none (htext : ¬ arrow <:+: text) : splitArrow text = none := by
  have hsplit : splitArrow (text ++ []) = none := splitArrow_append htext (by decide)
  rwa [List.append_nil] at hsplit

end Listing

structure ShownName where
  chars : List Char
  ne_nil : chars ≠ []
  head : ∀ c ∈ chars.head?, isBlank c = false
  last : ∀ c ∈ chars.getLast?, isBlank c = false
  arrow : ¬ Listing.arrow <:+: chars
  feed : '\n' ∉ chars

/-- The path of a library as a listing shows it, without the slash that it starts with. -/
structure ShownPath where
  afterSlash : List Char
  blank : ∀ c ∈ afterSlash, isBlank c = false

def ShownPath.chars (p : ShownPath) : List Char := '/' :: p.afterSlash

/-- A line of a listing. The address of a library can be any text on the line. -/
inductive ListingLine where
  | found (name : ShownName) (path : ShownPath) (address : List Char) (feed : '\n' ∉ address)
  | missing (name : ShownName)
  | pathless (name : ShownName) (address : List Char) (feed : '\n' ∉ address)
  | message (text : List Char) (arrow : ¬ Listing.arrow <:+: text) (feed : '\n' ∉ text)

namespace ListingLine

def named (name : ShownName) (after : List Char) : List Char :=
  '\t' :: (name.chars ++ ' ' :: '=' :: '>' :: after)

def parenthesized (address : List Char) : List Char := '(' :: (address ++ [')'])

def chars : ListingLine → List Char
  | found name path address _ => named name (' ' :: (path.chars ++ ' ' :: parenthesized address))
  | missing name => named name " not found".toList
  | pathless name address _ => named name (' ' :: ' ' :: parenthesized address)
  | message text _ _ => text

def library? : ListingLine → Option ResolvedLibrary
  | found name path _ _ => some ⟨String.ofList name.chars, .ofString (String.ofList path.chars)⟩
  | _ => none

theorem feed_notMem_named (name : ShownName) {after : List Char} (h : '\n' ∉ after) :
    '\n' ∉ named name after := by
  simp [named, name.feed, h]

theorem feed_notMem_parenthesized {address : List Char} (h : '\n' ∉ address) :
    '\n' ∉ parenthesized address := by
  simp [parenthesized, h]

theorem feed_notMem_chars (l : ListingLine) : '\n' ∉ l.chars := by
  cases l with
  | found name path address feed =>
    have hpath : '\n' ∉ path.afterSlash := fun h => absurd (path.blank _ h) (by decide)
    refine feed_notMem_named name ?_
    simp [ShownPath.chars, hpath, feed_notMem_parenthesized feed]
  | missing name => exact feed_notMem_named name (by decide)
  | pathless name address feed =>
    refine feed_notMem_named name ?_
    simp [feed_notMem_parenthesized feed]
  | message text arrow feed => exact feed

/-- The line of a name tells of a library if a slash begins the first word behind the arrow. -/
theorem readLine_named (name : ShownName) (after : List Char) :
    Listing.readLine (named name after) =
      ((firstWord? after).filter fun w => w.head? = some '/').map fun w =>
        ⟨String.ofList name.chars, .ofString (String.ofList w)⟩ := by
  have hspace : (' ' :: '=' :: '>' :: after).head? ≠ some '>' := by simp
  have hsplit : Listing.splitArrow (named name after) =
      some ('\t' :: (name.chars ++ [' ']), after) := by
    rw [named, Listing.splitArrow_cons_of_ne (by decide),
      Listing.splitArrow_append name.arrow hspace]
    rfl
  have htrim : trim ('\t' :: (name.chars ++ [' '])) = name.chars :=
    trim_append (a := ['\t']) (b := [' ']) (List.forall_mem_singleton.2 rfl)
      (List.forall_mem_singleton.2 rfl) name.head name.last name.ne_nil
  rw [Listing.readLine, hsplit]
  dsimp only
  rw [htrim]
  obtain ⟨c, r, hname⟩ := List.exists_cons_of_ne_nil name.ne_nil
  rw [hname]
  cases firstWord? after with
  | none => rfl
  | some w =>
    cases w with
    | nil => rfl
    | cons d w =>
      by_cases hd : d = '/'
      · subst hd
        rfl
      · rw [Option.filter_some_neg (by simp [hd])]
        simp [hd]

theorem readLine_found (name : ShownName) (path : ShownPath) {address : List Char}
    (feed : '\n' ∉ address) :
    Listing.readLine (found name path address feed).chars =
      (found name path address feed).library? := by
  have hword : ∀ c ∈ path.chars, isBlank c = false := by
    intro c hc
    rcases List.mem_cons.1 hc with rfl | hc
    · decide
    · exact path.blank c hc
  have hfirst : firstWord? (' ' :: (path.chars ++ ' ' :: parenthesized address)) =
      some path.chars :=
    firstWord?_append (a := [' ']) (List.forall_mem_singleton.2 rfl) hword (List.cons_ne_nil _ _)
      fun c hc => Option.some.inj hc ▸ rfl
  rw [chars, readLine_named, hfirst]
  rfl

theorem readLine_pathless (name : ShownName) {address : List Char} (feed : '\n' ∉ address) :
    Listing.readLine (pathless name address feed).chars = none := by
  have hskip : (' ' :: ' ' :: parenthesized address).dropWhile isBlank =
      parenthesized address := rfl
  rw [chars, readLine_named, firstWord?, hskip]
  rfl

/-- A line with a name ends as what stands behind its arrow, so it has no carriage return there. -/
theorem strip_named (name : ShownName) {after : List Char} {c : Char}
    (hafter : c ∈ after.getLast?) (hc : c ≠ '\r') (e : LineEnd) :
    e.strip (named name after) = named name after := by
  have hlast : (named name after).getLast? = some c := by
    have hsplit : named name after = ('\t' :: (name.chars ++ [' ', '=', '>'])) ++ after := by
      simp [named]
    rw [hsplit, List.getLast?_append, hafter]
    rfl
  exact LineEnd.strip_eq_self (by rw [hlast]; exact fun h => hc (Option.some.inj h)) e

theorem getLast?_parenthesized (front address : List Char) :
    ')' ∈ (front ++ parenthesized address).getLast? := by
  have hsplit : front ++ parenthesized address = (front ++ '(' :: address) ++ [')'] := by
    simp [parenthesized]
  rw [hsplit, List.getLast?_concat]
  rfl

theorem readLine_strip (l : ListingLine) (e : LineEnd) :
    Listing.readLine (e.strip l.chars) = l.library? := by
  cases l with
  | found name path address feed =>
    have hlast := getLast?_parenthesized (' ' :: (path.chars ++ [' '])) address
    rw [chars, strip_named name (by simpa using hlast) (by decide)]
    exact readLine_found name path feed
  | missing name =>
    rw [chars, strip_named name rfl (by decide), readLine_named]
    rfl
  | pathless name address feed =>
    have hlast := getLast?_parenthesized [' ', ' '] address
    rw [chars, strip_named name (by simpa using hlast) (by decide)]
    exact readLine_pathless name feed
  | message text arrow feed =>
    have hnone : ¬ Listing.arrow <:+: e.strip text :=
      fun h => arrow (h.trans (e.isInfix_strip text))
    rw [chars, Listing.readLine, Listing.splitArrow_eq_none hnone]
    rfl

end ListingLine

namespace Listing

/-- Lines with their ends, and behind them the line without an end if there is one. -/
def write (ended : List (ListingLine × LineEnd)) (last : Option ListingLine) : List Char :=
  joinLines (ended.map fun l => (l.1.chars, l.2)) ((last.map ListingLine.chars).getD [])

theorem filterMap_readLine_strip (ended : List (ListingLine × LineEnd)) :
    (ended.map fun l => l.2.strip l.1.chars).filterMap readLine =
      (ended.map (·.1)).filterMap ListingLine.library? := by
  rw [List.filterMap_map, List.filterMap_map]
  congr 1
  funext l
  exact l.1.readLine_strip l.2

theorem filterMap_readLine_last (last : Option ListingLine) :
    (if (last.map ListingLine.chars).getD [] = [] then []
      else [(last.map ListingLine.chars).getD []]).filterMap readLine =
      last.toList.filterMap ListingLine.library? := by
  cases last with
  | none => rfl
  | some l =>
    have hread : readLine l.chars = l.library? := l.readLine_strip .returnFeed
    rw [Option.map_some, Option.getD_some, Option.toList_some, List.filterMap_cons, ← hread]
    split
    · next hempty =>
      rw [hempty]
      rfl
    · exact List.filterMap_cons

/-- The libraries of a listing are those of its found lines, in their order. -/
theorem read_written (ended : List (ListingLine × LineEnd)) (last : Option ListingLine) :
    read (String.ofList (write ended last)) =
      (ended.map (·.1) ++ last.toList).filterMap ListingLine.library? := by
  have hended : ∀ l ∈ ended.map fun l => (l.1.chars, l.2), '\n' ∉ l.1 := by
    intro l hl
    obtain ⟨l, -, rfl⟩ := List.mem_map.1 hl
    exact l.1.feed_notMem_chars
  have hlast : '\n' ∉ (last.map ListingLine.chars).getD [] := by
    cases last with
    | none => exact List.not_mem_nil
    | some l => exact l.feed_notMem_chars
  rw [read, readChars, String.toList_ofList, write, lines_joinLines hended hlast, List.map_map,
    List.filterMap_append, List.filterMap_append, filterMap_readLine_last]
  exact congrArg (· ++ _) (filterMap_readLine_strip ended)

def oddName : ShownName where
  chars := "a=(> b".toList
  ne_nil := by decide
  head c hc := by
    obtain rfl : 'a' = c := Option.some.inj hc
    decide
  last c hc := by
    obtain rfl : 'b' = c := Option.some.inj hc
    decide
  arrow := by decide +kernel
  feed := by decide

def shortPath : ShownPath where
  afterSlash := "l".toList
  blank := List.forall_mem_singleton.2 (by decide)

/-- Lines of all kinds, some with one end and some with the other, and a last one without. -/
theorem read_written_mixed :
    let ended : List (ListingLine × LineEnd) :=
      [(.message "\tvdso (0x1)".toList (by decide +kernel) (by decide), .feed),
        (.found oddName shortPath "0x2".toList (by decide), .returnFeed),
        (.missing oddName, .returnFeed)]
    let last : ListingLine := .pathless oddName "0x3".toList (by decide)
    String.ofList (write ended (some last)) =
        "\tvdso (0x1)\n\ta=(> b => /l (0x2)\r\n\ta=(> b => not found\r\n\ta=(> b =>  (0x3)" ∧
      read (String.ofList (write ended (some last))) = [⟨"a=(> b", .ofString "/l"⟩] := by
  intro ended last
  exact ⟨by decide +kernel, read_written ended (some last)⟩

end Listing

end ElfFacts
