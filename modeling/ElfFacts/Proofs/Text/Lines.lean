import ElfFacts.Text.Blank
import Mathlib.Data.List.TakeWhile

/-!
# Lines and words taken apart

Lines that were put together with line ends of both kinds come apart again, and so do words between
white space. A carriage return is lost only where a line has one of its own in front of a line feed.
-/
namespace ElfFacts.Text

inductive LineEnd where
  | feed
  | returnFeed
  deriving DecidableEq, Repr

namespace LineEnd

def chars : LineEnd → List Char
  | feed => ['\n']
  | returnFeed => ['\r', '\n']

/-- What is left of a line that ends in this way. -/
def strip : LineEnd → List Char → List Char
  | feed, line => dropReturn line
  | returnFeed, line => line

theorem strip_eq_self {line : List Char} (h : line.getLast? ≠ some '\r') (e : LineEnd) :
    e.strip line = line := by
  cases e with
  | feed => exact if_neg h
  | returnFeed => rfl

theorem isInfix_strip (e : LineEnd) (line : List Char) : e.strip line <:+: line := by
  cases e with
  | feed =>
    change dropReturn line <:+: line
    unfold dropReturn
    split
    · exact (List.dropLast_prefix line).isInfix
    · exact List.infix_rfl
  | returnFeed => exact List.infix_rfl

end LineEnd

/-- Lines with their ends, and what follows the last end. -/
def joinLines (ended : List (List Char × LineEnd)) (last : List Char) : List Char :=
  ended.flatMap (fun l => l.1 ++ l.2.chars) ++ last

theorem splitFeeds_eq_splitOn (cs : List Char) : splitFeeds cs = cs.splitOn '\n' := by
  induction cs with
  | nil => rfl
  | cons c r ih =>
    rw [splitFeeds, List.splitOn_cons_eq_if_modifyHead, ← ih]
    by_cases hc : c = '\n'
    · rw [if_pos hc, if_pos (beq_iff_eq.2 hc)]
    · rw [if_neg hc, if_neg (mt beq_iff_eq.1 hc)]
      cases hr : splitFeeds r with
      | nil => exact absurd (ih.symm.trans hr) (List.splitOn_ne_nil '\n' r)
      | cons line rest => rfl

theorem dropReturn_append_return (line : List Char) : dropReturn (line ++ ['\r']) = line := by
  rw [dropReturn, if_pos List.getLast?_concat, List.dropLast_concat]

/-- The pieces between the feeds hold the carriage returns of the line ends. -/
theorem splitFeeds_joinLines {ended : List (List Char × LineEnd)} {last : List Char}
    (hended : ∀ l ∈ ended, '\n' ∉ l.1) (hlast : '\n' ∉ last) :
    splitFeeds (joinLines ended last) =
      ended.map (fun l => l.1 ++ l.2.chars.dropLast) ++ [last] := by
  induction ended with
  | nil => rw [splitFeeds_eq_splitOn, joinLines, List.flatMap_nil, List.nil_append,
      List.splitOn_eq_singleton hlast, List.map_nil, List.nil_append]
  | cons l ended ih =>
    have hrest := ih fun l' hl' => hended l' (List.mem_cons_of_mem l hl')
    have hline : '\n' ∉ l.1 ++ l.2.chars.dropLast := by
      have hend : '\n' ∉ l.2.chars.dropLast := by cases l.2 <;> decide
      rw [List.mem_append, not_or]
      exact ⟨hended l (List.mem_cons_self ..), hend⟩
    have hsplit : joinLines (l :: ended) last =
        (l.1 ++ l.2.chars.dropLast) ++ '\n' :: joinLines ended last := by
      have hend : l.2.chars = l.2.chars.dropLast ++ ['\n'] := by cases l.2 <;> rfl
      rw [joinLines, List.flatMap_cons, hend, List.dropLast_concat, joinLines]
      simp only [List.append_assoc, List.cons_append, List.nil_append]
    rw [splitFeeds_eq_splitOn] at hrest ⊢
    rw [hsplit, List.splitOn_append_cons_self, hrest, List.splitOn_eq_singleton hline,
      List.map_cons]
    rfl

theorem lines_joinLines {ended : List (List Char × LineEnd)} {last : List Char}
    (hended : ∀ l ∈ ended, '\n' ∉ l.1) (hlast : '\n' ∉ last) :
    lines (joinLines ended last) =
      ended.map (fun l => l.2.strip l.1) ++ if last = [] then [] else [last] := by
  have hstrip (l : List Char × LineEnd) :
      dropReturn (l.1 ++ l.2.chars.dropLast) = l.2.strip l.1 := by
    cases l.2 with
    | feed => exact congrArg dropReturn (List.append_nil l.1)
    | returnFeed => exact dropReturn_append_return l.1
  rw [lines, splitFeeds_joinLines hended hlast, List.getLast?_concat, List.dropLast_concat,
    List.map_map]
  simp only [Function.comp_def, hstrip]
  cases last with
  | nil => rw [if_pos rfl, List.append_nil]
  | cons c r => rfl

section Words

variable {a b w : List Char}

theorem dropWhile_isBlank_append (ha : ∀ c ∈ a, isBlank c = true)
    (hw : ∀ c ∈ w.head?, isBlank c = false) (hne : w ≠ []) (b : List Char) :
    (a ++ (w ++ b)).dropWhile isBlank = w ++ b := by
  rw [List.dropWhile_append_of_pos ha]
  cases w with
  | nil => exact absurd rfl hne
  | cons c r =>
    have hc : isBlank c = false := hw c rfl
    rw [List.cons_append, List.dropWhile_cons, hc, if_neg Bool.false_ne_true]

theorem trim_append (ha : ∀ c ∈ a, isBlank c = true) (hb : ∀ c ∈ b, isBlank c = true)
    (hhead : ∀ c ∈ w.head?, isBlank c = false) (hlast : ∀ c ∈ w.getLast?, isBlank c = false)
    (hne : w ≠ []) : trim (a ++ (w ++ b)) = w := by
  have hback := dropWhile_isBlank_append (a := b.reverse) (w := w.reverse)
    (fun c hc => hb c (List.mem_reverse.1 hc)) (by rwa [List.head?_reverse])
    (mt List.reverse_eq_nil_iff.1 hne) []
  rw [trim, dropWhile_isBlank_append ha hhead hne, List.reverse_append, ← List.append_nil w.reverse,
    hback, List.append_nil, List.reverse_reverse]

theorem firstWord?_append (ha : ∀ c ∈ a, isBlank c = true) (hw : ∀ c ∈ w, isBlank c = false)
    (hne : w ≠ []) (hb : ∀ c ∈ b.head?, isBlank c = true) :
    firstWord? (a ++ (w ++ b)) = some w := by
  rw [firstWord?, dropWhile_isBlank_append ha (fun c hc => hw c (List.mem_of_mem_head? hc)) hne]
  cases w with
  | nil => exact absurd rfl hne
  | cons c r =>
    have hr : ∀ d ∈ r, (!isBlank d) = true := fun d hd => by
      rw [hw d (List.mem_cons_of_mem c hd)]
      rfl
    have hstop : b.takeWhile (fun d => !isBlank d) = [] := by
      cases b with
      | nil => rfl
      | cons d b =>
        have hd : isBlank d = true := hb d rfl
        rw [List.takeWhile_cons, hd]
        rfl
    dsimp only [List.cons_append]
    rw [List.takeWhile_append_of_pos hr, hstop, List.append_nil]

end Words

end ElfFacts.Text
