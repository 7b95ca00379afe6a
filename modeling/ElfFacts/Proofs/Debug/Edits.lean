import ElfFacts.Debug.Stream
import ElfFacts.Proofs.Debug.Views

/-!
# Units from edits

A unit grows by edits, each of which adds an entry or gives one a size. Edits that add no entry
below a later one go through, the entries are those that were added, and the views of the unit
agree. A reading makes such edits whatever it meets: it adds each entry below an earlier one or
none.
-/
namespace ElfFacts

structure Addition where
  parent : Option Nat
  offset : UInt64
  tag : String
  attributes : List (String × Value)
  deriving DecidableEq, Repr

inductive UnitEdit where
  | add (a : Addition)
  | resize (index : Nat) (size : UInt64)
  deriving DecidableEq, Repr

namespace UnitEdit

def addition? : UnitEdit → Option Addition
  | add a => some a
  | resize _ _ => none

def additions (edits : List UnitEdit) : List Addition := edits.filterMap addition?

end UnitEdit

open UnitEdit (additions)

def DebugEntry.addition (e : DebugEntry) : Addition := ⟨e.parent, e.offset, e.tag, e.attributes⟩

namespace DebugUnit

def edit? (u : DebugUnit) : UnitEdit → Option DebugUnit
  | .add a => u.push? a.parent a.offset a.tag a.attributes
  | .resize index size => some (u.setSize index size)

def edited? (u : DebugUnit) (edits : List UnitEdit) : Option DebugUnit := edits.foldlM edit? u

def added (u : DebugUnit) : List Addition := u.entries.toList.map DebugEntry.addition

variable {u v : DebugUnit} {edits : List UnitEdit}

theorem edit?_add {a : Addition} (h : u.accepts a.parent = true) :
    u.edit? (.add a) = some (u.push a.parent a.offset a.tag a.attributes) := if_pos h

theorem edit?_cases {e : UnitEdit} (h : u.edit? e = some v) :
    (∃ a, e = .add a ∧ u.accepts a.parent = true ∧
      v = u.push a.parent a.offset a.tag a.attributes) ∨
    ∃ index size, e = .resize index size ∧ v = u.setSize index size := by
  cases e with
  | add a =>
    change (if u.accepts a.parent then _ else none) = some v at h
    split at h
    · next hp => exact .inl ⟨a, rfl, hp, (Option.some.inj h).symm⟩
    · cases h
  | resize index size => exact .inr ⟨index, size, rfl, (Option.some.inj h).symm⟩

theorem edited?_cons (e : UnitEdit) (edits : List UnitEdit) :
    u.edited? (e :: edits) = (u.edit? e).bind fun v => v.edited? edits := List.foldlM_cons

theorem edited?_concat (edits : List UnitEdit) (e : UnitEdit) :
    u.edited? (edits ++ [e]) = (u.edited? edits).bind fun v => v.edit? e := by
  have hlast (v : DebugUnit) : v.edited? [e] = v.edit? e := by
    rw [edited?_cons]
    cases v.edit? e <;> rfl
  have happend : u.edited? (edits ++ [e]) = (u.edited? edits).bind fun v => v.edited? [e] :=
    List.foldlM_append
  simp only [happend, hlast]

theorem map_addition_modify {f : DebugEntry → DebugEntry}
    (hf : ∀ e, (f e).addition = e.addition) (entries : List DebugEntry) (i : Nat) :
    (entries.modify i f).map DebugEntry.addition = entries.map DebugEntry.addition := by
  refine List.ext_getElem? fun j => ?_
  rw [List.getElem?_map, List.getElem?_map, List.getElem?_modify]
  cases entries[j]? with
  | none => rfl
  | some e =>
    change some _ = some _
    split
    · rw [hf]
    · rfl

theorem added_push (parent : Option Nat) (offset : UInt64) (tag : String)
    (attributes : List (String × Value)) :
    (u.push parent offset tag attributes).added =
      u.added ++ [⟨parent, offset, tag, attributes⟩] := by
  have hnew : (u.entries.push { offset, tag, attributes, parent }).toList.map DebugEntry.addition =
      u.added ++ [⟨parent, offset, tag, attributes⟩] := by
    rw [Array.toList_push, List.map_append]
    rfl
  cases parent with
  | none => exact hnew
  | some p =>
    rw [← hnew, added]
    change (Array.modify _ p (addChild u.entries.size)).toList.map _ = _
    rw [Array.toList_modify]
    exact map_addition_modify (f := addChild u.entries.size) (fun _ => rfl) _ p

theorem added_setSize (index : Nat) (size : UInt64) : (u.setSize index size).added = u.added := by
  rw [added, setSize, Array.toList_modify]
  exact map_addition_modify (f := fun e => { e with size := some size }) (fun _ => rfl) _ index

theorem Built.edit? (hu : u.Built) {e : UnitEdit} (h : u.edit? e = some v) : v.Built := by
  rcases edit?_cases h with ⟨a, rfl, hp, rfl⟩ | ⟨index, size, rfl, rfl⟩
  · exact .push a.parent a.offset a.tag a.attributes hu hp
  · exact .setSize index size hu

theorem added_edit? {e : UnitEdit} (h : u.edit? e = some v) :
    v.added = u.added ++ e.addition?.toList := by
  rcases edit?_cases h with ⟨a, rfl, -, rfl⟩ | ⟨index, size, rfl, rfl⟩
  · exact added_push a.parent a.offset a.tag a.attributes
  · rw [added_setSize]
    exact (List.append_nil _).symm

theorem additions_cons (e : UnitEdit) (edits : List UnitEdit) :
    additions (e :: edits) = e.addition?.toList ++ additions edits := by
  cases e <;> rfl

theorem Built.edited? (hu : u.Built) (h : u.edited? edits = some v) :
    v.Built ∧ v.added = u.added ++ additions edits := by
  induction edits generalizing u with
  | nil =>
    obtain rfl := Option.some.inj h
    exact ⟨hu, (List.append_nil _).symm⟩
  | cons e edits ih =>
    rw [edited?_cons] at h
    obtain ⟨w, he, hrest⟩ := Option.bind_eq_some_iff.1 h
    obtain ⟨hv, hadded⟩ := ih (hu.edit? he) hrest
    refine ⟨hv, ?_⟩
    rw [hadded, added_edit? he, additions_cons, List.append_assoc]

theorem exists_edited? (h : ∀ n (hn : n < (additions edits).length),
    ∀ p ∈ (additions edits)[n].parent, p ≤ u.entries.size + n) :
    ∃ v, u.edited? edits = some v := by
  induction edits generalizing u with
  | nil => exact ⟨u, rfl⟩
  | cons e edits ih =>
    rw [edited?_cons]
    cases e with
    | resize index size =>
      refine ih (u := u.setSize index size) ?_
      rw [size_setSize]
      exact h
    | add a =>
      have hp : u.accepts a.parent = true := by
        cases hparent : a.parent with
        | none => rfl
        | some p =>
          have hle := h 0 (Nat.zero_lt_succ _) p hparent
          exact decide_eq_true hle
      rw [edit?_add hp]
      refine ih fun n hn p hmem => ?_
      have hle := h (n + 1) (Nat.succ_lt_succ hn) p hmem
      rw [size_push]
      omega

end DebugUnit

structure StreamEntry.Adds (e : StreamEntry) (a : Addition) : Prop where
  offset : a.offset = e.offset
  tag : a.tag = e.tag
  attributes : a.attributes = e.attributes

namespace UnitReading

open DebugUnit (edited?_concat)

/-- The edits that make a unit of what has been met. -/
structure Recorded (u : DebugUnit) (offset : UInt64) (met : List StreamEntry)
    (edits : List UnitEdit) : Prop where
  edited : (DebugUnit.empty offset).edited? edits = some u
  adds : List.Forall₂ StreamEntry.Adds met (additions edits)
  descending : u.Descending

variable {r : UnitReading} {u : DebugUnit} {offset : UInt64} {met : List StreamEntry}
  {edits : List UnitEdit}

theorem recorded_empty (offset : UInt64) : Recorded (.empty offset) offset [] [] where
  edited := rfl
  adds := .nil
  descending := DebugUnit.descending_empty offset

theorem Recorded.setSize (h : Recorded u offset met edits) (index : Nat) (size : UInt64) :
    Recorded (u.setSize index size) offset met (edits ++ [.resize index size]) where
  edited := by
    rw [edited?_concat, h.edited]
    rfl
  adds := by
    rw [additions, List.filterMap_append]
    exact (List.append_nil (additions edits)).symm ▸ h.adds
  descending i p hp := by
    rw [DebugUnit.parent?_setSize] at hp
    exact h.descending i p hp

theorem Recorded.push (h : Recorded u offset met edits) {parent : Option Nat}
    (hp : ∀ p ∈ parent, p < u.entries.size) (e : StreamEntry) :
    Recorded (u.push parent e.offset e.tag e.attributes) offset (met ++ [e])
      (edits ++ [.add ⟨parent, e.offset, e.tag, e.attributes⟩]) where
  edited := by
    have haccepts : u.accepts parent = true := by
      cases parent with
      | none => rfl
      | some p => exact decide_eq_true (Nat.le_of_lt (hp p rfl))
    rw [edited?_concat, h.edited, Option.bind_some]
    exact DebugUnit.edit?_add (a := ⟨parent, e.offset, e.tag, e.attributes⟩) haccepts
  adds := by
    rw [additions, List.filterMap_append]
    exact List.rel_append h.adds (.cons ⟨rfl, rfl, rfl⟩ .nil)
  descending := h.descending.push parent e.offset e.tag e.attributes hp

theorem Recorded.closeLast (h : Recorded r.unit offset met edits) (stop : UInt64)
    (closing : OpenEntry → Nat) :
    ∃ edits', Recorded (r.closeLast stop closing) offset met edits' := by
  unfold UnitReading.closeLast
  split
  · exact ⟨edits, h⟩
  · exact ⟨_, h.setSize _ _⟩

theorem size_closeLast (r : UnitReading) (stop : UInt64) (closing : OpenEntry → Nat) :
    (r.closeLast stop closing).entries.size = r.unit.entries.size := by
  unfold UnitReading.closeLast
  split
  · rfl
  · exact DebugUnit.size_setSize ..

/-- A reading has made edits for what it has met, and the entries above are there. -/
structure Follows (r : UnitReading) (offset : UInt64) (met : List StreamEntry) : Prop where
  recorded : ∃ edits, Recorded r.unit offset met edits
  above : ∀ i ∈ r.above, i < r.unit.entries.size

theorem Follows.step (h : r.Follows offset met) (e : StreamEntry) :
    (r.step e).Follows offset (met ++ [e]) := by
  obtain ⟨edits, hrecorded⟩ := h.recorded
  obtain ⟨edits', hclosed⟩ := hrecorded.closeLast e.offset fun l => closings l.hasChildren e.change
  have habove : ∀ i ∈ r.above.take (r.depth + e.change).toNat,
      i < (r.closeLast e.offset fun l => closings l.hasChildren e.change).entries.size := by
    intro i hi
    rw [size_closeLast]
    exact h.above i (List.mem_of_mem_take hi)
  refine ⟨⟨_, hclosed.push (fun p hp => habove p (List.mem_of_getLast? hp)) e⟩, fun i hi => ?_⟩
  change i < (DebugUnit.push _ _ _ _ _).entries.size
  rw [DebugUnit.size_push]
  rcases List.mem_append.1 hi with hi | hi
  · exact Nat.lt_succ_of_lt (habove i hi)
  · rw [List.mem_singleton.1 hi]
    exact Nat.lt_succ_self _

theorem Follows.foldl_step (h : r.Follows offset met) (stream : List StreamEntry) :
    (stream.foldl UnitReading.step r).Follows offset (met ++ stream) := by
  induction stream generalizing r met with
  | nil => rwa [List.append_nil]
  | cons e stream ih =>
    have hrest := ih (h.step e)
    rwa [List.append_assoc] at hrest

end UnitReading

namespace DebugUnit

theorem exists_recorded_ofStream (offset stop : UInt64) (stream : List StreamEntry) :
    ∃ edits, UnitReading.Recorded (ofStream offset stop stream) offset stream edits := by
  have hstart : (UnitReading.start offset).Follows offset [] :=
    ⟨⟨[], UnitReading.recorded_empty offset⟩, fun i hi => nomatch hi⟩
  obtain ⟨edits, hrecorded⟩ := (hstart.foldl_step stream).recorded
  exact hrecorded.closeLast stop _

theorem parent?_eq_added (u : DebugUnit) (i : Nat) :
    u.parent? i = u.added[i]?.bind Addition.parent := by
  rw [parent?, get?, added, List.getElem?_map, Array.getElem?_toList, Option.bind_map]
  rfl

/-- Edits that add no entry below a later one make a unit with the entries that they add, in which
the views agree; one more edit for a size changes that size alone. What a reading makes of a stream
is made by such edits, too: each entry of the stream is added once, in order, below an earlier one
or none. -/
theorem edits_consistent (offset stop : UInt64) (edits : List UnitEdit)
    (stream : List StreamEntry)
    (h : ∀ n (hn : n < (additions edits).length), ∀ p ∈ (additions edits)[n].parent, p ≤ n) :
    (∃ u, (empty offset).edited? edits = some u ∧ u.added = additions edits ∧ u.Consistent ∧
      ∀ index size, (u.setSize index size).offset = u.offset ∧
        (u.setSize index size).byOffset = u.byOffset ∧
        ∀ i, (u.setSize index size).get? i =
          (u.get? i).map fun e => if index = i then { e with size := some size } else e) ∧
    ∃ made, (empty offset).edited? made = some (ofStream offset stop stream) ∧
      List.Forall₂ StreamEntry.Adds stream (additions made) ∧
      (∀ n (hn : n < (additions made).length), ∀ p ∈ (additions made)[n].parent, p < n) ∧
      (ofStream offset stop stream).Consistent := by
  constructor
  · have hfit : ∀ n (hn : n < (additions edits).length),
        ∀ p ∈ (additions edits)[n].parent, p ≤ (empty offset).entries.size + n := by simpa using h
    obtain ⟨u, hu⟩ := exists_edited? hfit
    obtain ⟨hbuilt, hadded⟩ := (Built.empty offset).edited? hu
    exact ⟨u, hu, hadded, hbuilt.consistent, fun index size => ⟨rfl, rfl, get?_setSize index size⟩⟩
  · obtain ⟨made, hrecorded⟩ := exists_recorded_ofStream offset stop stream
    obtain ⟨hbuilt, hadded⟩ := (Built.empty offset).edited? hrecorded.edited
    refine ⟨made, hrecorded.edited, hrecorded.adds, fun n hn p hp => ?_, hbuilt.consistent⟩
    have hparent : (ofStream offset stop stream).parent? n = some p := by
      rw [parent?_eq_added, hadded]
      change (additions made)[n]?.bind _ = _
      rw [List.getElem?_eq_getElem hn]
      exact hp
    exact hrecorded.descending n p hparent

/-- Two entries share an offset, one is its own parent, and a size is set where no entry is. The
stream goes above its root and jumps. -/
theorem edits_consistent_ownParent :
    let edits : List UnitEdit :=
      [.add ⟨none, 11, "DW_TAG_compile_unit", []⟩, .add ⟨some 1, 11, "DW_TAG_variable", []⟩,
        .resize 0 7, .add ⟨some 0, 5, "DW_TAG_member", []⟩, .resize 9 1]
    let stream : List StreamEntry :=
      [⟨-3, 11, "DW_TAG_compile_unit", [], true⟩, ⟨5, 2, "DW_TAG_variable", [], false⟩,
        ⟨-9, 2, "DW_TAG_member", [], false⟩]
    (∀ n (hn : n < (additions edits).length), ∀ p ∈ (additions edits)[n].parent, p ≤ n) ∧
      (∃ u, (empty 0).edited? edits = some u ∧ u.added = additions edits ∧ u.Consistent) ∧
      ∃ made, (empty 0).edited? made = some (ofStream 0 40 stream) ∧
        List.Forall₂ StreamEntry.Adds stream (additions made) ∧
        ∀ n (hn : n < (additions made).length), ∀ p ∈ (additions made)[n].parent, p < n := by
  intro edits stream
  have hparents : ∀ n (hn : n < (additions edits).length),
      ∀ p ∈ (additions edits)[n].parent, p ≤ n := by decide
  obtain ⟨⟨u, hu, hadded, hconsistent, -⟩, made, hmade, hadds, hearlier, -⟩ :=
    edits_consistent 0 40 edits stream hparents
  exact ⟨hparents, ⟨u, hu, hadded, hconsistent⟩, made, hmade, hadds, hearlier⟩

end DebugUnit

end ElfFacts
