import ElfFacts.Proofs.Fact.Lines
import Mathlib.Data.List.Basic

/-!
# Sheets with limited room

A sink with limited room takes what a sink without limit takes until it is full, and nothing behind
that. So the facts that count as written are those whose lines end within the room, and the fault is
reported at the end exactly if something did not fit.
-/
namespace ElfFacts

theorem extract_append_of_le {a b : ByteArray} {n : Nat} (h : n ≤ a.size) :
    (a ++ b).extract 0 n = a.extract 0 n := by
  rw [ByteArray.extract_append, Nat.zero_sub, Nat.sub_eq_zero_of_le h, ByteArray.extract_same,
    ByteArray.append_empty]

theorem extract_append_of_size_le {a b : ByteArray} {n : Nat} (h : a.size ≤ n) :
    (a ++ b).extract 0 n = a ++ b.extract 0 (n - a.size) := by
  have hall : a.extract 0 n = a := by
    rw [← Nat.max_eq_left h, ByteArray.extract_zero_max_size]
  rw [ByteArray.extract_append, Nat.zero_sub, hall]

namespace Sink

/-- Whether so many octets are accepted without a fault. -/
def takes (sink : Sink) (n : Nat) : Bool := sink.room.all (n ≤ ·)

/-- How many of so many octets are accepted. -/
def share (sink : Sink) (n : Nat) : Nat := min (sink.room.getD n) n

variable {sink : Sink} {m n room : Nat}

theorem takes_iff : sink.takes n = true ↔ ∀ room, sink.room = some room → n ≤ room := by
  rw [takes, Option.all_eq_true]
  simp only [decide_eq_true_eq]

theorem takes_eq_false_iff : sink.takes n = false ↔ ∃ room, sink.room = some room ∧ room < n := by
  rw [← Bool.not_eq_true, takes_iff]
  simp only [not_forall, Nat.not_le, exists_prop]

theorem takes_of_le (h : sink.takes n = true) (hmn : m ≤ n) : sink.takes m = true := by
  rw [takes_iff] at h ⊢
  intro room hroom
  exact Nat.le_trans hmn (h room hroom)

theorem share_of_takes (h : sink.takes n = true) : sink.share n = n := by
  rw [takes_iff] at h
  rw [share]
  cases hroom : sink.room with
  | none => exact Nat.min_self n
  | some room => exact Nat.min_eq_right (h room hroom)

theorem share_of_room_lt (hroom : sink.room = some room) (hlt : room < n) :
    sink.share n = room := by
  rw [share, hroom, Option.getD_some]
  omega

end Sink

namespace Sheet

def writeItems (s : Sheet) (items : List Item) : Sheet := items.foldl write s

theorem writeItems_eq (s : Sheet) (items : List Item) :
    s.writeItems items = s.writeLines (items.flatMap Item.lines) := by
  induction items generalizing s with
  | nil => rfl
  | cons i items ih =>
    rw [List.flatMap_cons, writeLines_append]
    exact ih (s.write i)

/-- What lines come to when there is room for all of them. -/
def octetsOf (lines : List Line) : ByteArray := (String.ofList (textOf lines)).toUTF8

theorem octetsOf_nil : octetsOf [] = .empty := rfl

theorem octetsOf_append (lines lines' : List Line) :
    octetsOf (lines ++ lines') = octetsOf lines ++ octetsOf lines' := by
  rw [octetsOf, textOf, List.flatMap_append, String.ofList_append, String.toUTF8_eq_toByteArray,
    String.toByteArray_append]
  rfl

theorem octetsOf_singleton (l : Line) : octetsOf [l] = l.octets := by
  have htext : String.ofList (textOf [l]) = l.text ++ "\n" := by
    apply String.toList_inj.1
    simp [textOf]
  rw [octetsOf, htext]
  rfl

theorem octetsOf_snoc (lines : List Line) (l : Line) :
    octetsOf (lines ++ [l]) = octetsOf lines ++ l.octets := by
  rw [octetsOf_append, octetsOf_singleton]

theorem size_octetsOf_snoc (lines : List Line) (l : Line) :
    (octetsOf (lines ++ [l])).size = (octetsOf lines).size + l.octets.size := by
  rw [octetsOf_snoc, ByteArray.size_append]

theorem size_octetsOf_cons (l : Line) (lines : List Line) :
    (octetsOf (l :: lines)).size = l.octets.size + (octetsOf lines).size := by
  rw [← List.singleton_append, octetsOf_append, octetsOf_singleton, ByteArray.size_append]

/-- Where the lines of facts end, behind their line feeds, if the first line begins at `start`. -/
def factEnds (start : Nat) : List Line → List Nat
  | [] => []
  | l :: rest =>
    (if l.isFact then [start + l.octets.size] else []) ++ factEnds (start + l.octets.size) rest

theorem factEnds_append (start : Nat) (lines lines' : List Line) :
    factEnds start (lines ++ lines') =
      factEnds start lines ++ factEnds (start + (octetsOf lines).size) lines' := by
  induction lines generalizing start with
  | nil => rfl
  | cons l lines ih =>
    rw [List.cons_append, factEnds, factEnds, ih, size_octetsOf_cons, List.append_assoc,
      Nat.add_assoc]

variable {sink : Sink} {lines : List Line} {l : Line} {s : Sheet}

theorem countP_factEnds_snoc (sink : Sink) (lines : List Line) (l : Line) :
    (factEnds 0 (lines ++ [l])).countP sink.takes = (factEnds 0 lines).countP sink.takes +
      if l.isFact ∧ sink.takes (octetsOf (lines ++ [l])).size then 1 else 0 := by
  rw [factEnds_append, List.countP_append, size_octetsOf_snoc, Nat.zero_add]
  cases hl : l.isFact <;> simp [factEnds, hl, List.countP_singleton]

theorem countP_factEnds_of_takes {start : Nat}
    (h : sink.takes (start + (octetsOf lines).size) = true) :
    (factEnds start lines).countP sink.takes = lines.countP (·.isFact) := by
  induction lines generalizing start with
  | nil => rfl
  | cons l lines ih =>
    rw [size_octetsOf_cons, ← Nat.add_assoc] at h
    have hl : sink.takes (start + l.octets.size) = true := Sink.takes_of_le h (Nat.le_add_right ..)
    rw [factEnds, List.countP_append, ih h, List.countP_cons]
    cases hfact : l.isFact <;> simp [hl, Nat.add_comm]

theorem offer_of_takes {octets : ByteArray}
    (h : s.sink.takes (s.accepted.size + octets.size) = true) : s.offer octets = (octets, true) := by
  rw [Sink.takes_iff] at h
  rw [offer]
  cases hroom : s.sink.room with
  | none => rfl
  | some room =>
    have := h room hroom
    exact if_pos (by omega)

theorem offer_of_room_lt {octets : ByteArray} {room : Nat} (hroom : s.sink.room = some room)
    (hlt : room < s.accepted.size + octets.size) (hle : s.accepted.size ≤ room) :
    s.offer octets = (octets.extract 0 (room - s.accepted.size), false) := by
  rw [offer, hroom]
  exact if_neg (by omega)

/-- A sheet after some lines: it has what fits into its room of all that they come to. -/
structure Kept (sink : Sink) (lines : List Line) (s : Sheet) : Prop where
  sink_eq : s.sink = sink
  accepted : s.accepted = (octetsOf lines).extract 0 (sink.share (octetsOf lines).size)
  written : s.written = (factEnds 0 lines).countP sink.takes
  fault : s.fault = if sink.takes (octetsOf lines).size then none else some sink.full

namespace Kept

theorem start (sink : Sink) : Kept sink [] { sink } where
  sink_eq := rfl
  accepted := by
    rw [octetsOf_nil, ByteArray.size_empty, Sink.share, Nat.min_zero]
    exact ByteArray.extract_same.symm
  written := rfl
  fault := by
    rw [octetsOf_nil, ByteArray.size_empty, if_pos]
    exact Sink.takes_iff.2 fun room _ => Nat.zero_le room

theorem accepted_of_takes (h : Kept sink lines s)
    (htakes : sink.takes (octetsOf lines).size = true) : s.accepted = octetsOf lines := by
  rw [h.accepted, Sink.share_of_takes htakes, ByteArray.extract_zero_size]

theorem fault_of_takes (h : Kept sink lines s)
    (htakes : sink.takes (octetsOf lines).size = true) : s.fault = none := by
  rw [h.fault, if_pos htakes]

theorem writeLine_of_takes (h : Kept sink lines s)
    (htakes : sink.takes (octetsOf (lines ++ [l])).size = true) :
    Kept sink (lines ++ [l]) (s.writeLine l) := by
  have hsize := size_octetsOf_snoc lines l
  have hbefore : sink.takes (octetsOf lines).size = true := Sink.takes_of_le htakes (by omega)
  have haccepted := h.accepted_of_takes hbefore
  have hoffer : s.offer l.octets = (l.octets, true) := by
    apply offer_of_takes
    rw [h.sink_eq, haccepted, ← hsize, htakes]
  refine ⟨?_, ?_, ?_, ?_⟩
  all_goals simp only [Sheet.writeLine, h.fault_of_takes hbefore, hoffer, if_true]
  · exact h.sink_eq
  · rw [haccepted, Sink.share_of_takes htakes, ByteArray.extract_zero_size, octetsOf_snoc]
  · rw [countP_factEnds_snoc, htakes, h.written]
    simp
  · rw [htakes, if_pos rfl]

theorem writeLine_of_cut (h : Kept sink lines s)
    (hbefore : sink.takes (octetsOf lines).size = true)
    (hfull : sink.takes (octetsOf (lines ++ [l])).size = false) :
    Kept sink (lines ++ [l]) (s.writeLine l) := by
  have haccepted := h.accepted_of_takes hbefore
  obtain ⟨room, hroom, hlt⟩ := Sink.takes_eq_false_iff.1 hfull
  have hle : (octetsOf lines).size ≤ room := Sink.takes_iff.1 hbefore room hroom
  have hoffer : s.offer l.octets = (l.octets.extract 0 (room - s.accepted.size), false) := by
    apply offer_of_room_lt (h.sink_eq ▸ hroom)
    · rwa [haccepted, ← size_octetsOf_snoc]
    · rwa [haccepted]
  refine ⟨?_, ?_, ?_, ?_⟩
  all_goals simp only [Sheet.writeLine, h.fault_of_takes hbefore, hoffer, if_neg Bool.false_ne_true]
  · exact h.sink_eq
  · rw [haccepted, Sink.share_of_room_lt hroom hlt, octetsOf_snoc, extract_append_of_size_le hle]
  · rw [countP_factEnds_snoc, hfull, h.written]
    simp
  · rw [hfull, if_neg Bool.false_ne_true, h.sink_eq]

theorem writeLine_of_full (h : Kept sink lines s)
    (hfull : sink.takes (octetsOf lines).size = false) :
    Kept sink (lines ++ [l]) (s.writeLine l) := by
  obtain ⟨room, hroom, hlt⟩ := Sink.takes_eq_false_iff.1 hfull
  have hlt' : room < (octetsOf (lines ++ [l])).size := by
    rw [size_octetsOf_snoc]
    omega
  have hfull' : sink.takes (octetsOf (lines ++ [l])).size = false :=
    Sink.takes_eq_false_iff.2 ⟨room, hroom, hlt'⟩
  have hfault : s.fault = some sink.full := by rw [h.fault, hfull, if_neg Bool.false_ne_true]
  rw [writeLine_of_fault hfault]
  refine ⟨h.sink_eq, ?_, ?_, ?_⟩
  · rw [h.accepted, Sink.share_of_room_lt hroom hlt, Sink.share_of_room_lt hroom hlt',
      octetsOf_snoc, extract_append_of_le (Nat.le_of_lt hlt)]
  · rw [countP_factEnds_snoc, hfull', h.written]
    simp
  · rw [hfault, hfull', if_neg Bool.false_ne_true]

theorem writeLine (h : Kept sink lines s) (l : Line) : Kept sink (lines ++ [l]) (s.writeLine l) := by
  cases hbefore : sink.takes (octetsOf lines).size with
  | false => exact h.writeLine_of_full hbefore
  | true =>
    cases htakes : sink.takes (octetsOf (lines ++ [l])).size with
    | false => exact h.writeLine_of_cut hbefore htakes
    | true => exact h.writeLine_of_takes htakes

theorem writeLines (h : Kept sink lines s) (lines' : List Line) :
    Kept sink (lines ++ lines') (s.writeLines lines') := by
  induction lines' generalizing lines s with
  | nil =>
    rw [List.append_nil]
    exact h
  | cons l lines' ih =>
    rw [List.append_cons, writeLines_cons]
    exact ih (h.writeLine l)

theorem finish_eq (h : Kept sink lines s) :
    s.finish =
      if sink.takes (octetsOf lines).size then
        match sink.onFlush with
        | some fault => .error fault
        | none => .ok (octetsOf lines)
      else .error sink.full := by
  rw [finish, h.fault, h.sink_eq]
  cases htakes : sink.takes (octetsOf lines).size with
  | false => rfl
  | true =>
    rw [h.accepted_of_takes htakes]
    cases sink.onFlush <;> rfl

theorem of_finish_eq_ok {content : ByteArray} (h : Kept sink lines s)
    (hok : s.finish = .ok content) :
    sink.takes (octetsOf lines).size = true ∧ content = octetsOf lines := by
  rw [h.finish_eq] at hok
  split at hok
  · next htakes =>
    refine ⟨htakes, ?_⟩
    split at hok
    · cases hok
    · exact (Except.ok.inj hok).symm
  · cases hok

end Kept

theorem kept_writeItems (sink : Sink) (items : List Item) :
    Kept sink (items.flatMap Item.lines) (({ sink } : Sheet).writeItems items) := by
  rw [writeItems_eq]
  exact (Kept.start sink).writeLines (items.flatMap Item.lines)

end Sheet

namespace Item

def facts : Item → List Fact
  | .title _ => []
  | .heading _ => []
  | .fact f => [f]
  | .block b => b.facts.toList
  | .document d => d.facts

def headings : Item → List String
  | .title text => [text]
  | .heading text => [text]
  | .fact _ => []
  | .block b => if b.isEmpty then [] else [b.title]
  | .document d => d.headings

end Item

/-- Lines say some facts, each rendered and in this order, and some headings, each as a comment.
There are no other lines but empty ones and rules. -/
structure Says (facts : List Fact) (headings : List String) (lines : List Line) : Prop where
  facts_eq : lines.filter (·.isFact) = facts.map fun f => ⟨f.render, true⟩
  headings_mem : ∀ heading ∈ headings, ⟨"% " ++ heading, false⟩ ∈ lines
  others : ∀ l ∈ lines, l.isFact = false →
    l.text = "" ∨ l.text = Line.rule ∨ ∃ heading ∈ headings, l.text = "% " ++ heading

namespace Says

variable {facts facts' : List Fact} {headings headings' : List String} {lines lines' : List Line}

theorem nil : Says [] [] [] where
  facts_eq := rfl
  headings_mem _ h := absurd h List.not_mem_nil
  others _ h := absurd h List.not_mem_nil

theorem append (h : Says facts headings lines) (h' : Says facts' headings' lines') :
    Says (facts ++ facts') (headings ++ headings') (lines ++ lines') where
  facts_eq := by rw [List.filter_append, h.facts_eq, h'.facts_eq, List.map_append]
  headings_mem heading hh := by
    rcases List.mem_append.1 hh with hh | hh
    · exact List.mem_append_left _ (h.headings_mem heading hh)
    · exact List.mem_append_right _ (h'.headings_mem heading hh)
  others l hl hfact := by
    rcases List.mem_append.1 hl with hl | hl
    · exact (h.others l hl hfact).imp_right (Or.imp_right fun ⟨heading, hh, htext⟩ =>
        ⟨heading, List.mem_append_left _ hh, htext⟩)
    · exact (h'.others l hl hfact).imp_right (Or.imp_right fun ⟨heading, hh, htext⟩ =>
        ⟨heading, List.mem_append_right _ hh, htext⟩)

theorem flatMap {α : Type} {facts : α → List Fact} {headings : α → List String}
    {lines : α → List Line} (h : ∀ a, Says (facts a) (headings a) (lines a)) (as : List α) :
    Says (as.flatMap facts) (as.flatMap headings) (as.flatMap lines) := by
  induction as with
  | nil => exact nil
  | cons a as ih =>
    simp only [List.flatMap_cons]
    exact (h a).append ih

theorem silent {text : String} (h : text = "" ∨ text = Line.rule) : Says [] [] [⟨text, false⟩] where
  facts_eq := rfl
  headings_mem _ hh := absurd hh List.not_mem_nil
  others l hl _ := by
    rw [List.mem_singleton.1 hl]
    exact h.imp_right .inl

theorem comment (text : String) : Says [] [text] [Line.comment text] where
  facts_eq := rfl
  headings_mem heading hh := by
    rw [List.mem_singleton.1 hh]
    exact List.mem_cons_self ..
  others l hl _ := by
    rw [List.mem_singleton.1 hl]
    exact .inr (.inr ⟨text, List.mem_cons_self .., rfl⟩)

theorem title (text : String) : Says [] [text] (Line.title text) :=
  ((silent (.inr rfl)).append (comment text)).append (silent (.inr rfl))

theorem heading (text : String) : Says [] [text] (Line.heading text) :=
  (silent (.inl rfl)).append (comment text)

theorem rendered (facts : List Fact) : Says facts [] (facts.map Line.ofFact) where
  facts_eq := by
    refine List.filter_eq_self.2 fun l hl => ?_
    obtain ⟨f, -, rfl⟩ := List.mem_map.1 hl
    rfl
  headings_mem _ h := absurd h List.not_mem_nil
  others l hl hfact := by
    obtain ⟨f, -, rfl⟩ := List.mem_map.1 hl
    cases hfact

theorem block (b : Block) :
    Says b.facts.toList (if b.isEmpty then [] else [b.title]) b.lines := by
  rw [Block.lines]
  split
  · next he =>
    rw [Document.facts_of_isEmpty he]
    exact nil
  · exact (heading b.title).append (rendered b.facts.toList)

theorem document (d : Document) : Says d.facts d.headings d.lines := by
  have hheadings : d.headings = ("ABI facts for " ++ d.main.display) ::
      d.blocks.flatMap fun b => if b.isEmpty then [] else [b.title] := by
    rw [Document.headings]
    congr 1
    induction d.blocks with
    | nil => rfl
    | cons b blocks ih => cases he : b.isEmpty <;> simp [he, ih]
  rw [hheadings]
  exact (title _).append (flatMap block d.blocks)

theorem item (i : Item) : Says i.facts i.headings i.lines := by
  cases i with
  | title text => exact title text
  | heading text => exact heading text
  | fact f => exact rendered [f]
  | block b => exact block b
  | document d => exact document d

theorem countP_isFact (h : Says facts headings lines) :
    lines.countP (·.isFact) = facts.length := by
  rw [List.countP_eq_length_filter, h.facts_eq, List.length_map]

end Says

namespace Sheet

/-- Items come to the facts and headings in them, line by line. Of that, a sink takes as much as
there is room for. The facts whose lines are among it are counted after every item, and what did not
fit is reported before what goes wrong at the end. -/
theorem writeItems_limited (sink : Sink) (items : List Item) :
    ∃ text : ByteArray,
      text = octetsOf (items.flatMap Item.lines) ∧
      (({} : Sheet).writeItems items).finish = .ok text ∧
      (({ sink } : Sheet).writeItems items).accepted = text.extract 0 (sink.share text.size) ∧
      (∀ before after, items = before ++ after →
        Says (before.flatMap Item.facts) (before.flatMap Item.headings)
          (before.flatMap Item.lines) ∧
        (({ sink } : Sheet).writeItems before).written =
          (factEnds 0 (before.flatMap Item.lines)).countP sink.takes) ∧
      (({ sink } : Sheet).writeItems items).finish =
        (if sink.takes text.size then
          match sink.onFlush with
          | some fault => .error fault
          | none => .ok text
        else .error sink.full) ∧
      ∀ d content, items = [.document d] →
        (({ sink } : Sheet).writeItems items).finish = .ok content →
          (({ sink } : Sheet).writeItems items).written = d.factCount ∧
            content = octetsOf d.lines := by
  have hkept := kept_writeItems sink items
  refine ⟨octetsOf (items.flatMap Item.lines), rfl, (kept_writeItems {} items).finish_eq,
    hkept.accepted, ?_, hkept.finish_eq, ?_⟩
  · intro before after _
    exact ⟨.flatMap .item before, (kept_writeItems sink before).written⟩
  · rintro d content rfl hok
    obtain ⟨htakes, hcontent⟩ := hkept.of_finish_eq_ok hok
    have hlines : [Item.document d].flatMap Item.lines = d.lines := List.flatMap_singleton ..
    rw [hlines] at htakes hcontent hkept
    refine ⟨?_, hcontent⟩
    rw [hkept.written, countP_factEnds_of_takes (by rwa [Nat.zero_add]),
      (Says.document d).countP_isFact, d.length_facts]

end Sheet

end ElfFacts
