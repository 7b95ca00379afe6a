import ElfFacts.Debug.Stream
import Mathlib.Data.List.Basic

/-!
# Reading gives back the forest

Entries are encoded in depth first order, and a list of children ends with one octet. A reading that
knows of every entry only where it stands, whether a list of children follows and how much deeper it
lies than the entry before comes to the forest that was encoded: the parents, the children in order
and the sizes, though the size of an entry is not known before the next entry is met.
-/
namespace ElfFacts

structure EncodedEntry where
  tag : String
  attributes : List (String × Value)
  octets : Nat

/-- Entries below one parent, each with those below it: the first entry and the ones that follow it.
A branch has a list of children, which may be empty, and a leaf has none. -/
inductive EncodedForest where
  | nil
  | leaf (e : EncodedEntry) (next : EncodedForest)
  | branch (e : EncodedEntry) (below next : EncodedForest)

structure PlacedEntry where
  depth : Nat
  offset : Nat
  entry : EncodedEntry
  hasChildren : Bool

namespace EncodedEntry

def toDebugEntry (e : EncodedEntry) (parent : Option Nat) (offset : Nat) : DebugEntry where
  offset := .ofNat offset
  tag := e.tag
  attributes := e.attributes
  parent := parent
  size := some (.ofNat e.octets)

end EncodedEntry

namespace EncodedForest

def count : EncodedForest → Nat
  | nil => 0
  | leaf _ next => 1 + next.count
  | branch _ below next => 1 + below.count + next.count

/-- How many octets encode the forest. One octet ends a list of children. -/
def octets : EncodedForest → Nat
  | nil => 0
  | leaf e next => e.octets + next.octets
  | branch e below next => e.octets + below.octets + 1 + next.octets

def layout (depth offset : Nat) : EncodedForest → List PlacedEntry
  | nil => []
  | leaf e next => ⟨depth, offset, e, false⟩ :: next.layout depth (offset + e.octets)
  | branch e below next =>
    ⟨depth, offset, e, true⟩ :: (below.layout (depth + 1) (offset + e.octets) ++
      next.layout depth (offset + e.octets + below.octets + 1))

/-- The indices of the entries without a parent in the forest, when the first entry has the index
`first` and the others are counted in depth first order. -/
def tops (first : Nat) : EncodedForest → List Nat
  | nil => []
  | leaf _ next => first :: next.tops (first + 1)
  | branch _ below next => first :: next.tops (first + 1 + below.count)

def entries (parent : Option Nat) (first offset : Nat) : EncodedForest → List DebugEntry
  | nil => []
  | leaf e next =>
    e.toDebugEntry parent offset :: next.entries parent (first + 1) (offset + e.octets)
  | branch e below next =>
    { e.toDebugEntry parent offset with children := (below.tops (first + 1)).toArray } ::
      (below.entries (some first) (first + 1) (offset + e.octets) ++
        next.entries parent (first + 1 + below.count) (offset + e.octets + below.octets + 1))

theorem length_entries (F : EncodedForest) (parent : Option Nat) (first offset : Nat) :
    (F.entries parent first offset).length = F.count := by
  induction F generalizing parent first offset with
  | nil => rfl
  | leaf e next ih => rw [entries, List.length_cons, ih, count, Nat.add_comm]
  | branch e below next ihb ihn =>
    rw [entries, List.length_cons, List.length_append, ihb, ihn, count]
    omega

end EncodedForest

namespace PlacedEntry

/-- What a reading is told of an entry when the entry before lies at depth `previous`. -/
def report (previous : Int) (p : PlacedEntry) : StreamEntry where
  change := p.depth - previous
  offset := .ofNat p.offset
  tag := p.entry.tag
  attributes := p.entry.attributes
  hasChildren := p.hasChildren

def reports (previous : Int) : List PlacedEntry → List StreamEntry
  | [] => []
  | p :: rest => p.report previous :: reports p.depth rest

end PlacedEntry

def EncodedForest.stream (F : EncodedForest) (offset : Nat) : List StreamEntry :=
  PlacedEntry.reports 0 (F.layout 0 offset)

namespace DebugUnit

def adopt (parent : Option Nat) (kids : List Nat) (entries : List DebugEntry) : List DebugEntry :=
  match parent with
  | none => entries
  | some p => entries.modify p fun e => { e with children := e.children ++ kids.toArray }

@[simp] theorem length_adopt (parent : Option Nat) (kids : List Nat) (entries : List DebugEntry) :
    (adopt parent kids entries).length = entries.length := by
  cases parent <;> simp [adopt]

@[simp] theorem adopt_nil (parent : Option Nat) (entries : List DebugEntry) :
    adopt parent [] entries = entries := by
  cases parent with
  | none => rfl
  | some p =>
    simp only [adopt, Array.append_empty]
    exact List.modify_id p entries

theorem adopt_adopt (parent : Option Nat) (kids more : List Nat) (entries : List DebugEntry) :
    adopt parent more (adopt parent kids entries) = adopt parent (kids ++ more) entries := by
  cases parent with
  | none => rfl
  | some p =>
    simp only [adopt, List.modify_modify_eq]
    congr 1
    funext e
    simp

theorem modify_append_of_lt {old : List DebugEntry} {p : Nat} (hp : p < old.length)
    (new : List DebugEntry) (f : DebugEntry → DebugEntry) :
    (old ++ new).modify p f = old.modify p f ++ new := by
  refine List.ext_getElem? fun i => ?_
  by_cases hi : i < old.length
  · simp only [List.getElem?_modify, List.getElem?_append, List.length_modify, hi, if_true]
  · have hne : p ≠ i := by omega
    simp only [List.getElem?_modify, List.getElem?_append, List.length_modify, hi, if_false, hne]
    exact Option.map_id'

theorem modify_append_singleton {old : List DebugEntry} {n : Nat} (hn : old.length = n)
    (e : DebugEntry) (f : DebugEntry → DebugEntry) : (old ++ [e]).modify n f = old ++ [f e] := by
  subst hn
  rw [List.modify_eq_take_cons_drop (by simp)]
  simp

theorem adopt_append {parent : Option Nat} {old : List DebugEntry}
    (hp : ∀ p ∈ parent, p < old.length) (kids : List Nat) (new : List DebugEntry) :
    adopt parent kids (old ++ new) = adopt parent kids old ++ new := by
  cases parent with
  | none => rfl
  | some p => exact modify_append_of_lt (hp p rfl) new _

theorem adopt_last {old : List DebugEntry} {n : Nat} (hn : old.length = n) (kids : List Nat)
    (e : DebugEntry) :
    adopt (some n) kids (old ++ [e]) =
      old ++ [{ e with children := e.children ++ kids.toArray }] :=
  modify_append_singleton hn e _

theorem adopt_adopt_append {parent : Option Nat} {old : List DebugEntry}
    (hp : ∀ p ∈ parent, p < old.length) (kids more : List Nat) (new : List DebugEntry) :
    adopt parent more (adopt parent kids old ++ new) = adopt parent (kids ++ more) old ++ new := by
  rw [adopt_append (by simpa using hp), adopt_adopt]

theorem toList_entries_push (u : DebugUnit) (parent : Option Nat) (offset : UInt64) (tag : String)
    (attributes : List (String × Value)) :
    (u.push parent offset tag attributes).entries.toList =
      adopt parent [u.entries.size]
        (u.entries.toList ++ [({ offset, tag, attributes, parent } : DebugEntry)]) := by
  cases parent with
  | none => exact Array.toList_push
  | some p =>
    simp only [push, Array.toList_modify, Array.toList_push]
    rfl

end DebugUnit

namespace UnitReading

def meet (r : UnitReading) (p : PlacedEntry) : UnitReading := r.step (p.report r.depth)

/-- The unit once it is known where and how deep the next entry stands. -/
def settled (r : UnitReading) (offset : Nat) (depth : Int) : DebugUnit :=
  r.closeLast (.ofNat offset) fun l => closings l.hasChildren (depth - r.depth)

theorem meet_eq (r : UnitReading) (p : PlacedEntry) :
    r.meet p =
      { unit := (r.settled p.offset p.depth).push (r.above.take p.depth).getLast? (.ofNat p.offset)
          p.entry.tag p.entry.attributes
        above := r.above.take p.depth ++ [(r.settled p.offset p.depth).entries.size]
        depth := p.depth
        last? := some ⟨(r.settled p.offset p.depth).entries.size, .ofNat p.offset, p.hasChildren⟩ } := by
  have hdepth : r.depth + (p.report r.depth).change = p.depth := by
    change r.depth + ((p.depth : Int) - r.depth) = p.depth
    omega
  unfold meet step
  rw [hdepth]
  rfl

theorem foldl_step_reports (places : List PlacedEntry) (r : UnitReading) :
    (PlacedEntry.reports r.depth places).foldl step r = places.foldl meet r := by
  induction places generalizing r with
  | nil => rfl
  | cons p rest ih =>
    have hdepth : (r.meet p).depth = p.depth := congrArg depth (meet_eq r p)
    rw [PlacedEntry.reports, List.foldl_cons, List.foldl_cons, ← ih, hdepth]
    rfl

theorem finish_eq_settled (r : UnitReading) (stop : Nat) (hdepth : 0 ≤ r.depth) :
    r.finish (.ofNat stop) = r.settled stop 0 := by
  have hclosings (l : OpenEntry) :
      r.depth.toNat + l.hasChildren.toNat = closings l.hasChildren (0 - r.depth) := by
    rw [closings]
    omega
  simp only [finish, settled, hclosings]

/-- A reading that can meet an entry below the entries of `chain`, whose number is `depth`. -/
structure Ready (r : UnitReading) (chain : List Nat) (depth : Nat) : Prop where
  length : chain.length = depth
  above : r.above.take depth = chain
  depth_nonneg : 0 ≤ r.depth
  /-- The next entry lies deeper than the last one only if that has a list of children. -/
  last : ∀ l ∈ r.last?, (depth : Int) ≤ r.depth + l.hasChildren.toNat

theorem Ready.start (offset : UInt64) : Ready (start offset) [] 0 where
  length := rfl
  above := rfl
  depth_nonneg := Int.le_refl 0
  last _ hl := nomatch hl

/-- The octet that closes a list of children belongs to no entry. -/
theorem Ready.settled_succ {r : UnitReading} {chain : List Nat} {depth : Nat}
    (hr : Ready r chain (depth + 1)) {offset : Nat} (ho : offset + 1 < UInt64.size) :
    r.settled (offset + 1) depth = r.settled offset (depth + 1 : Nat) := by
  unfold settled closeLast
  split
  · rfl
  · next l hl =>
    have hlast := hr.last l hl
    have hclosings : closings l.hasChildren (depth - r.depth) =
        closings l.hasChildren ((depth + 1 : Nat) - r.depth) + 1 := by
      unfold closings
      omega
    have hsize : sizeBetween l.offset (.ofNat (offset + 1))
          (closings l.hasChildren (depth - r.depth)) =
        sizeBetween l.offset (.ofNat offset)
          (closings l.hasChildren ((depth + 1 : Nat) - r.depth)) := by
      rw [hclosings, sizeBetween, sizeBetween, UInt64.toNat_ofNat_of_lt' ho,
        UInt64.toNat_ofNat_of_lt' (Nat.lt_of_succ_lt ho)]
      congr 1
      omega
    simp only [hsize]

theorem Ready.up {r : UnitReading} {chain : List Nat} {index depth : Nat}
    (hr : Ready r (chain ++ [index]) (depth + 1)) : Ready r chain depth := by
  have hlength : chain.length = depth := by simpa using hr.length
  refine ⟨hlength, ?_, hr.depth_nonneg, fun l hl => ?_⟩
  · calc r.above.take depth = (r.above.take (depth + 1)).take depth := by
          rw [List.take_take, Nat.min_eq_left (Nat.le_succ depth)]
      _ = chain := by rw [hr.above, List.take_left' hlength]
  · have := hr.last l hl
    omega

variable {r : UnitReading} {chain : List Nat}

theorem Ready.meet_leaf {p : PlacedEntry} (hr : Ready r chain p.depth) :
    Ready (r.meet p) chain p.depth where
  length := hr.length
  above := by
    rw [meet_eq, hr.above]
    exact List.take_left' hr.length
  depth_nonneg := by
    rw [meet_eq]
    exact Int.natCast_nonneg _
  last l hl := by
    rw [meet_eq] at hl ⊢
    exact Int.le_add_of_nonneg_right (Int.natCast_nonneg _)

theorem Ready.meet_branch {p : PlacedEntry} (hr : Ready r chain p.depth)
    (hc : p.hasChildren = true) :
    Ready (r.meet p) (chain ++ [(r.settled p.offset p.depth).entries.size]) (p.depth + 1) where
  length := by simp [hr.length]
  above := by
    rw [meet_eq, hr.above]
    exact List.take_of_length_le (by simp [hr.length])
  depth_nonneg := by
    rw [meet_eq]
    exact Int.natCast_nonneg _
  last l hl := by
    rw [meet_eq] at hl ⊢
    obtain rfl := Option.some.inj hl
    simp [hc]

/-- The last entry met ends where the next one stands, when no list of children closes between
the two. -/
theorem Ready.entries_settled_meet {p : PlacedEntry} (hr : Ready r chain p.depth)
    {old : List DebugEntry} (hold : (r.settled p.offset p.depth).entries.toList = old)
    (hchain : ∀ q ∈ chain.getLast?, q < old.length)
    (ho : p.offset + p.entry.octets < UInt64.size) :
    ((r.meet p).settled (p.offset + p.entry.octets)
        (p.depth + p.hasChildren.toNat : Nat)).entries.toList =
      DebugUnit.adopt chain.getLast? [old.length] old ++
        [p.entry.toDebugEntry chain.getLast? p.offset] := by
  have hindex : (r.settled p.offset p.depth).entries.size = old.length := by
    rw [← hold, Array.length_toList]
  have hclosings : closings p.hasChildren ((p.depth + p.hasChildren.toNat : Nat) - p.depth) = 0 := by
    unfold closings
    omega
  have hsize : sizeBetween (.ofNat p.offset) (.ofNat (p.offset + p.entry.octets)) 0 =
      .ofNat p.entry.octets := by
    rw [sizeBetween, UInt64.toNat_ofNat_of_lt' ho,
      UInt64.toNat_ofNat_of_lt' (Nat.lt_of_le_of_lt (Nat.le_add_right ..) ho), Nat.sub_zero,
      Nat.add_sub_cancel_left]
  rw [settled, closeLast, meet_eq, hr.above]
  simp only [hclosings, hsize, DebugUnit.setSize, Array.toList_modify]
  rw [DebugUnit.toList_entries_push, hold, hindex, DebugUnit.adopt_append hchain]
  exact DebugUnit.modify_append_singleton (DebugUnit.length_adopt ..) ..

theorem Ready.foldl_meet (F : EncodedForest) {offset depth : Nat} (hr : Ready r chain depth)
    {old : List DebugEntry} (hold : (r.settled offset depth).entries.toList = old)
    (hchain : ∀ q ∈ chain.getLast?, q < old.length) (ho : offset + F.octets < UInt64.size) :
    Ready ((F.layout depth offset).foldl meet r) chain depth ∧
      (((F.layout depth offset).foldl meet r).settled (offset + F.octets) depth).entries.toList =
        DebugUnit.adopt chain.getLast? (F.tops old.length) old ++
          F.entries chain.getLast? old.length offset := by
  induction F generalizing r chain offset depth old with
  | nil =>
    refine ⟨hr, ?_⟩
    rw [EncodedForest.tops, DebugUnit.adopt_nil, EncodedForest.entries, List.append_nil]
    exact hold
  | leaf e next ih =>
    rw [EncodedForest.octets, ← Nat.add_assoc] at ho ⊢
    have hfit : offset + e.octets < UInt64.size := by omega
    have hself := hr.entries_settled_meet (p := ⟨depth, offset, e, false⟩) hold hchain hfit
    have hready : Ready (r.meet ⟨depth, offset, e, false⟩) chain depth := hr.meet_leaf
    obtain ⟨hready, hnext⟩ := ih hready hself
      (fun q hq => by have := hchain q hq; simp; omega) ho
    refine ⟨hready, hnext.trans ?_⟩
    rw [DebugUnit.adopt_adopt_append hchain, EncodedForest.tops, EncodedForest.entries]
    simp
  | branch e below next ihb ihn =>
    have hsum : offset + (EncodedForest.branch e below next).octets =
        offset + e.octets + below.octets + 1 + next.octets := by
      rw [EncodedForest.octets]
      omega
    rw [hsum] at ho ⊢
    have hfitClosed : offset + e.octets + below.octets + 1 < UInt64.size := by omega
    have hfitBelow : offset + e.octets + below.octets < UInt64.size := by omega
    have hfit : offset + e.octets < UInt64.size := by omega
    have hself := hr.entries_settled_meet (p := ⟨depth, offset, e, true⟩) hold hchain hfit
    have hready : Ready (r.meet ⟨depth, offset, e, true⟩)
        (chain ++ [(r.settled offset depth).entries.size]) (depth + 1) := hr.meet_branch rfl
    have hindex : (r.settled offset depth).entries.size = old.length := by
      rw [← hold, Array.length_toList]
    rw [hindex] at hready
    obtain ⟨hready, hbelow⟩ := ihb hready hself (by simp) hfitBelow
    rw [← hready.settled_succ hfitClosed, List.getLast?_concat,
      DebugUnit.adopt_last (DebugUnit.length_adopt ..)] at hbelow
    obtain ⟨hready, hnext⟩ := ihn hready.up hbelow
      (fun q hq => by have := hchain q hq; simp; omega) ho
    rw [EncodedForest.layout, List.foldl_cons, List.foldl_append]
    refine ⟨hready, hnext.trans ?_⟩
    rw [List.append_assoc, DebugUnit.adopt_adopt_append hchain, EncodedForest.tops,
      EncodedForest.entries]
    have hcount : old.length + (below.count + 1) = old.length + 1 + below.count := by omega
    simp [EncodedForest.length_entries, EncodedEntry.toDebugEntry, hcount]

end UnitReading

namespace DebugUnit

/-- A reading of a forest comes to the entries of the forest. -/
theorem entries_ofStream (unitOffset : UInt64) (F : EncodedForest) (start : Nat)
    (hstop : start + F.octets < UInt64.size) :
    (ofStream unitOffset (.ofNat (start + F.octets)) (F.stream start)).entries.toList =
      F.entries none 0 start := by
  have hstart := UnitReading.Ready.start unitOffset
  have hempty : ((UnitReading.start unitOffset).settled start (0 : Nat)).entries.toList = [] := rfl
  obtain ⟨hready, hentries⟩ := hstart.foldl_meet F hempty (by simp) hstop
  have hfold := UnitReading.foldl_step_reports (F.layout 0 start) (.start unitOffset)
  have hfinish := UnitReading.finish_eq_settled _ (start + F.octets) hready.depth_nonneg
  calc (ofStream unitOffset (.ofNat (start + F.octets)) (F.stream start)).entries.toList
      = (((F.layout 0 start).foldl UnitReading.meet (.start unitOffset)).finish
          (.ofNat (start + F.octets))).entries.toList :=
        congrArg (fun r => (r.finish (.ofNat (start + F.octets))).entries.toList) hfold
    _ = F.entries none 0 start := by rw [hfinish]; exact hentries

/-- A function with a parameter and a block whose list of children is empty, and then a root. -/
def emptyBlock : EncodedForest :=
  .branch ⟨"DW_TAG_compile_unit", [], 7⟩
    (.branch ⟨"DW_TAG_subprogram", [], 9⟩
      (.leaf ⟨"DW_TAG_formal_parameter", [], 4⟩
        (.branch ⟨"DW_TAG_lexical_block", [], 2⟩ .nil .nil))
      .nil)
    (.leaf ⟨"DW_TAG_base_type", [], 1⟩ .nil)

theorem entries_ofStream_emptyBlock :
    11 + emptyBlock.octets < UInt64.size ∧
      (ofStream 0 (.ofNat (11 + emptyBlock.octets)) (emptyBlock.stream 11)).entries.toList =
        [⟨11, "DW_TAG_compile_unit", [], none, #[1], some 7⟩,
          ⟨18, "DW_TAG_subprogram", [], some 0, #[2, 3], some 9⟩,
          ⟨27, "DW_TAG_formal_parameter", [], some 1, #[], some 4⟩,
          ⟨31, "DW_TAG_lexical_block", [], some 1, #[], some 2⟩,
          ⟨36, "DW_TAG_base_type", [], none, #[], some 1⟩] := by
  have hstop : 11 + emptyBlock.octets < UInt64.size := by decide
  refine ⟨hstop, (entries_ofStream 0 emptyBlock 11 hstop).trans ?_⟩
  decide +kernel

end DebugUnit

end ElfFacts
