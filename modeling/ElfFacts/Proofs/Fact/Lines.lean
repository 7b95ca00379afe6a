import ElfFacts.Fact.Sheet
import ElfFacts.Proofs.Fact.Rendered
import Mathlib.Data.List.Basic

/-!
# Reading a sheet of facts

A reader of a sheet takes every line for a fact that is neither empty nor a comment. The facts of a
document are found in this way, each on a line of its own; besides them only the further lines of a
heading can be taken for facts, when a heading has more than one line.
-/
namespace ElfFacts

/-- Readers pass over empty lines and over comments. -/
def Line.isRead : List Char → Bool
  | [] => false
  | c :: _ => c != '%'

def factLines (text : List Char) : List String :=
  ((text.splitOn '\n').filter Line.isRead).map String.ofList

@[simp] theorem factLines_nil : factLines [] = [] := rfl

theorem factLines_append (text rest : List Char) :
    factLines (text ++ '\n' :: rest) = factLines text ++ factLines rest := by
  rw [factLines, List.splitOn_append_cons_self, List.filter_append, List.map_append]
  rfl

theorem factLines_of_notMem {text : List Char} (h : '\n' ∉ text) :
    factLines text = if Line.isRead text then [String.ofList text] else [] := by
  rw [factLines, List.splitOn_eq_singleton h, List.filter_singleton]
  split <;> simp [*]

/-- The lines of a heading after the first that are read as facts. -/
def spilled (heading : String) : List String :=
  ((heading.toList.splitOn '\n').tail.filter Line.isRead).map String.ofList

theorem spilled_of_notMem {heading : String} (h : '\n' ∉ heading.toList) : spilled heading = [] := by
  rw [spilled, List.splitOn_eq_singleton h]
  rfl

theorem tail_splitOn_append {label : List Char} (h : '\n' ∉ label) (text : List Char) :
    ((label ++ text).splitOn '\n').tail = (text.splitOn '\n').tail := by
  induction label with
  | nil => rfl
  | cons c label ih =>
    rw [List.mem_cons, not_or] at h
    obtain ⟨first, rest, hsplit⟩ := List.exists_cons_of_ne_nil
      (List.splitOn_ne_nil '\n' (label ++ text))
    have hc : (c == '\n') = false := beq_eq_false_iff_ne.2 fun he => h.1 he.symm
    rw [← ih h.2, List.cons_append, List.splitOn_cons_eq_if_modifyHead, hsplit, hc,
      if_neg Bool.false_ne_true]
    rfl

theorem spilled_append {label : String} (h : '\n' ∉ label.toList) (text : String) :
    spilled (label ++ text) = spilled text := by
  rw [spilled, String.toList_append, tail_splitOn_append h]
  rfl

theorem factLines_comment (heading : String) :
    factLines (Line.comment heading).text.toList = spilled heading := by
  have htext : (Line.comment heading).text.toList = '%' :: ' ' :: heading.toList := by
    rw [Line.comment, String.toList_append]
    rfl
  obtain ⟨first, rest, hsplit⟩ := List.exists_cons_of_ne_nil
    (List.splitOn_ne_nil '\n' heading.toList)
  rw [factLines, spilled, htext, List.splitOn_cons_eq_if_modifyHead,
    List.splitOn_cons_eq_if_modifyHead, hsplit, if_neg (by decide), if_neg (by decide)]
  rfl

namespace Fact

def Legible (predicate : String) : Prop :=
  '\n' ∉ predicate.toList ∧ Line.isRead predicate.toList = true

instance (predicate : String) : Decidable (Legible predicate) := inferInstanceAs (Decidable (_ ∧ _))

theorem isRead_append {p : List Char} (h : Line.isRead p = true) (r : List Char) :
    Line.isRead (p ++ r) = true := by
  cases p with
  | nil => cases h
  | cons c p => exact h

theorem Legible.append {predicate suffix : String} (h : Legible predicate)
    (hs : '\n' ∉ suffix.toList) : Legible (predicate ++ suffix) := by
  rw [Legible, String.toList_append]
  refine ⟨fun hm => ?_, isRead_append h.2 _⟩
  rcases List.mem_append.1 hm with hm | hm
  · exact h.1 hm
  · exact hs hm

theorem Legible.factLines_render {f : Fact} (h : Legible f.predicate) :
    factLines f.render.toList = [f.render] := by
  have hread : Line.isRead f.render.toList = true := by
    rw [render, String.toList_ofList, chars, List.append_assoc]
    exact isRead_append h.2 _
  rw [factLines_of_notMem (newline_notMem_render h.1), if_pos hread, String.ofList_toList]

end Fact

namespace Sheet

def textOf (lines : List Line) : List Char := lines.flatMap fun l => l.text.toList ++ ['\n']

theorem factLines_textOf (lines : List Line) :
    factLines (textOf lines) = lines.flatMap fun l => factLines l.text.toList := by
  induction lines with
  | nil => rfl
  | cons l lines ih =>
    rw [List.flatMap_cons, ← ih, ← factLines_append, textOf, List.flatMap_cons, List.append_assoc]
    rfl

theorem offer_of_complete {s : Sheet} {octets : ByteArray} (h : (s.offer octets).2 = true) :
    (s.offer octets).1 = octets := by
  unfold offer at h ⊢
  split at h
  · rfl
  · dsimp only at h ⊢
    split at h
    · next hle => rw [if_pos hle]
    · cases h

theorem fault_of_fault_writeLine {s : Sheet} {l : Line} (h : (s.writeLine l).fault = none) :
    s.fault = none := by
  cases hf : s.fault with
  | none => rfl
  | some fault =>
    rw [writeLine_of_fault hf, hf] at h
    cases h

theorem fault_of_fault_writeLines {s : Sheet} {lines : List Line}
    (h : (s.writeLines lines).fault = none) : s.fault = none := by
  induction lines generalizing s with
  | nil => exact h
  | cons l lines ih => exact fault_of_fault_writeLine (ih h)

theorem accepted_writeLine {s : Sheet} {l : Line} (h : (s.writeLine l).fault = none) :
    (s.writeLine l).accepted = s.accepted ++ l.octets := by
  have hnone := fault_of_fault_writeLine h
  simp only [writeLine, hnone] at h ⊢
  split at h
  · next hcomplete => rw [if_pos hcomplete, offer_of_complete hcomplete]
  · cases h

theorem accepted_writeLines {s : Sheet} {lines : List Line} (h : (s.writeLines lines).fault = none) :
    (s.writeLines lines).accepted = s.accepted ++ (String.ofList (textOf lines)).toUTF8 := by
  induction lines generalizing s with
  | nil =>
    rw [writeLines_nil]
    exact ByteArray.append_empty.symm
  | cons l lines ih =>
    have htext : String.ofList (textOf (l :: lines)) =
        l.text ++ "\n" ++ String.ofList (textOf lines) := by
      apply String.toList_inj.1
      simp [textOf]
    rw [writeLines_cons] at h ⊢
    rw [ih h, accepted_writeLine (fault_of_fault_writeLines h), htext, ByteArray.append_assoc,
      Line.octets]
    simp only [String.toUTF8_eq_toByteArray, String.toByteArray_append]

theorem finish_eq_ok {sink : Sink} {i : Item} {content : ByteArray}
    (h : (({ sink } : Sheet).write i).finish = .ok content) :
    content = (String.ofList (textOf i.lines)).toUTF8 := by
  unfold finish at h
  split at h
  · cases h
  · cases h
  · next hfault _ =>
    rw [← Except.ok.inj h, write, accepted_writeLines hfault]
    exact ByteArray.empty_append

theorem writeLines_of_unlimited {s : Sheet} (hroom : s.sink.room = none) (hfault : s.fault = none)
    (lines : List Line) :
    (s.writeLines lines).sink = s.sink ∧ (s.writeLines lines).fault = none := by
  induction lines generalizing s with
  | nil => exact ⟨rfl, hfault⟩
  | cons l lines ih =>
    have hstep : (s.writeLine l).sink = s.sink ∧ (s.writeLine l).fault = none := by
      simp [writeLine, offer, hroom, hfault]
    obtain ⟨hsink, hrest⟩ := ih (by rw [hstep.1, hroom]) hstep.2
    exact ⟨hsink.trans hstep.1, hrest⟩

theorem finish_eq_ok_of_unlimited (i : Item) :
    (({} : Sheet).write i).finish = .ok (String.ofList (textOf i.lines)).toUTF8 := by
  obtain ⟨hsink, hfault⟩ := writeLines_of_unlimited (s := {}) rfl rfl i.lines
  have hok : (({} : Sheet).write i).finish = .ok (({} : Sheet).write i).accepted := by
    rw [finish, write, hsink, hfault]
  rw [hok, finish_eq_ok hok]

end Sheet

namespace Document

variable {d : Document}

/-- The title and the headings of the blocks that have facts. -/
def headings (d : Document) : List String :=
  ("ABI facts for " ++ d.main.display) :: (d.blocks.filter fun b => !b.isEmpty).map (·.title)

def blockLines (b : Block) : List String :=
  if b.isEmpty then [] else spilled b.title ++ b.facts.toList.map Fact.render

theorem factLines_lines (h : ∀ f ∈ d.facts, Fact.Legible f.predicate) :
    factLines (Sheet.textOf d.lines) =
      spilled ("ABI facts for " ++ d.main.display) ++ d.blocks.flatMap blockLines := by
  have hrule : factLines Line.rule.toList = [] := by decide +kernel
  have hblock : ∀ b ∈ d.blocks,
      b.lines.flatMap (fun l => factLines l.text.toList) = blockLines b := by
    intro b hb
    have hfacts : (b.facts.toList.map Line.ofFact).flatMap (fun l => factLines l.text.toList) =
        b.facts.toList.map Fact.render := by
      rw [List.flatMap_map, List.map_eq_flatMap]
      refine List.flatMap_congr fun f hf => ?_
      exact (h f (List.mem_flatMap.2 ⟨b, hb, hf⟩)).factLines_render
    rw [Block.lines, blockLines]
    split
    · rfl
    · rw [List.flatMap_append, hfacts, Line.heading, List.flatMap_cons, List.flatMap_cons,
        factLines_comment]
      simp
  rw [Sheet.factLines_textOf, lines, List.flatMap_append, List.flatMap_assoc,
    List.flatMap_congr hblock]
  congr 1
  simp only [Line.title, List.flatMap_cons, List.flatMap_nil, hrule, factLines_comment,
    List.nil_append, List.append_nil]

theorem facts_of_isEmpty {b : Block} (h : b.isEmpty = true) : b.facts.toList = [] := by
  rw [Array.isEmpty_iff.1 h]

theorem blockLines_of_spilled {b : Block} (h : b.isEmpty = false → spilled b.title = []) :
    blockLines b = b.facts.toList.map Fact.render := by
  rw [blockLines]
  split
  · next he => rw [facts_of_isEmpty he, List.map_nil]
  · next he => rw [h (Bool.eq_false_iff.2 he), List.nil_append]

theorem length_flatMap_blockLines (blocks : List Block) :
    (blocks.flatMap blockLines).length =
      ((blocks.filter fun b => !b.isEmpty).flatMap fun b => spilled b.title).length +
        (blocks.flatMap (·.facts.toList)).length := by
  induction blocks with
  | nil => rfl
  | cons b blocks ih =>
    rw [List.flatMap_cons, List.flatMap_cons, List.length_append, List.length_append, ih]
    cases he : b.isEmpty with
    | true =>
      have hlines : blockLines b = [] := by rw [blockLines, if_pos he]
      rw [hlines, facts_of_isEmpty he, List.filter_cons_of_neg (by simp [he])]
      simp
    | false =>
      have hlines : blockLines b = spilled b.title ++ b.facts.toList.map Fact.render := by
        rw [blockLines, he, if_neg Bool.false_ne_true]
      rw [hlines, List.filter_cons_of_pos (by simp [he]), List.flatMap_cons, List.length_append,
        List.length_append, List.length_map]
      omega

/-- The facts are read back exactly if no heading spills. -/
theorem factLines_lines_eq_iff (h : ∀ f ∈ d.facts, Fact.Legible f.predicate) :
    factLines (Sheet.textOf d.lines) = d.facts.map Fact.render ↔
      ∀ heading ∈ d.headings, spilled heading = [] := by
  rw [factLines_lines h]
  constructor
  · -- What is spilled comes on top of the facts, so nothing is if the numbers agree.
    intro heq
    have hlength := congrArg List.length heq
    rw [List.length_append, length_flatMap_blockLines, List.length_map, facts] at hlength
    have hspilled : ((d.blocks.filter fun b => !b.isEmpty).flatMap fun b => spilled b.title) = [] :=
      List.eq_nil_of_length_eq_zero (by omega)
    intro heading hh
    rcases List.mem_cons.1 hh with rfl | hh
    · exact List.eq_nil_of_length_eq_zero (by omega)
    · obtain ⟨b, hb, rfl⟩ := List.mem_map.1 hh
      exact List.flatMap_eq_nil_iff.1 hspilled b hb
  · intro hnone
    have hblocks : d.blocks.flatMap blockLines =
        d.blocks.flatMap fun b => b.facts.toList.map Fact.render := by
      refine List.flatMap_congr fun b hb => blockLines_of_spilled fun he => ?_
      exact hnone _ (List.mem_cons_of_mem _
        (List.mem_map_of_mem (List.mem_filter.2 ⟨hb, by rw [he]; rfl⟩)))
    rw [hnone _ (List.mem_cons_self ..), List.nil_append, hblocks, facts, List.map_flatMap]

end Document

end ElfFacts
