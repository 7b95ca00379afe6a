import ElfFacts.TypeChain
import Mathlib.Logic.Function.Iterate

/-!
# What a type chain comes to

The chain of an entry is the row of entries that type references lead to. `Outcome` says which entry
of the chain, within the budget, decides the result: one that refers into the whole section, or one
behind the first that has no type of its own. Where there is no such entry the type is unresolved,
whatever the reason: the chain stops, goes round in a circle or is too long.
-/
namespace ElfFacts

namespace DebugEntry

def HasSize (e : DebugEntry) (size : Nat) : Prop :=
  (∃ n, e.attribute? atByteSize = some (.unsigned n) ∧ n.toNat = size) ∨
    ∃ n, e.attribute? atByteSize = some (.signed n) ∧ n.toInt = size

/-- The name of a type: the linkage name if that is a text, or else the name if that is one. -/
inductive Named (e : DebugEntry) : Option String → Prop
  | linkage {s : String} (hs : e.attribute? atLinkageName = some (.text s)) : Named e (some s)
  | plain {s : String} (hno : ∀ t, e.attribute? atLinkageName ≠ some (.text t))
      (hs : e.attribute? atName = some (.text s)) : Named e (some s)
  | nameless (hno : ∀ t, e.attribute? atLinkageName ≠ some (.text t))
      (hno' : ∀ t, e.attribute? atName ≠ some (.text t)) : Named e none

/-- What the entry at the end of a chain says about the type. Its size in bits has to be less than
2^64; a pointer is not asked whether it is a declaration. -/
inductive Describes (e : DebugEntry) : TypeResolution → Prop
  | pointer {size : Nat} {bits : UInt64} (htag : e.tag = "DW_TAG_pointer_type")
      (hsize : e.HasSize size) (hbits : bits.toNat = 8 * size) : Describes e (.pointer bits)
  | pointerWithoutSize (htag : e.tag = "DW_TAG_pointer_type")
      (hsize : ∀ size, e.HasSize size → UInt64.size ≤ 8 * size) : Describes e .unresolved
  | incomplete (htag : e.tag ≠ "DW_TAG_pointer_type")
      (hdeclared : e.attribute? atDeclaration ≠ none) : Describes e .incomplete
  | sized {size : Nat} {bits : UInt64} {name : Option String} (htag : e.tag ≠ "DW_TAG_pointer_type")
      (hdeclared : e.attribute? atDeclaration = none) (hsize : e.HasSize size)
      (hbits : bits.toNat = 8 * size) (hname : e.Named name) : Describes e (.sized bits name)
  | withoutSize (htag : e.tag ≠ "DW_TAG_pointer_type") (hdeclared : e.attribute? atDeclaration = none)
      (hsize : ∀ size, e.HasSize size → UInt64.size ≤ 8 * size) : Describes e .unresolved

variable {e : DebugEntry}

theorem toInt_eq_iff {n : Int64} {size : Nat} :
    n.toInt = size ↔ 0 ≤ n ∧ n.toUInt64.toNat = size := by
  constructor
  · intro h
    have hn : 0 ≤ n := by
      rw [Int64.le_iff_toInt_le, h]
      exact Int.natCast_nonneg size
    refine ⟨hn, ?_⟩
    rw [Int64.toNat_toUInt64_of_le hn, ← Int64.toNat_toInt, h, Int.toNat_natCast]
  · rintro ⟨hn, rfl⟩
    rw [Int64.toNat_toUInt64_of_le hn, Int64.toInt_eq_toNatClampNeg hn]

theorem hasSize_iff {size : Nat} : e.HasSize size ↔ ∃ n, e.byteSize? = some n ∧ n.toNat = size := by
  unfold HasSize byteSize?
  rcases e.attribute? atByteSize with _ | v
  · simp
  · cases v with
    | signed n =>
      by_cases hn : 0 ≤ n <;> simp [Value.natural?, toInt_eq_iff, hn]
    | _ => simp [Value.natural?]

theorem bitsOf?_eq_none_iff {n : UInt64} : bitsOf? n = none ↔ UInt64.size ≤ 8 * n.toNat := by
  rw [bitsOf?, Nat.mul_comm]
  split
  · next h => simpa using h
  · next h => simpa using h

theorem sizeInBits?_eq_some_iff {bits : UInt64} :
    e.sizeInBits? = some bits ↔ ∃ size, e.HasSize size ∧ bits.toNat = 8 * size := by
  constructor
  · intro h
    obtain ⟨n, hn, hbits⟩ := Option.bind_eq_some_iff.1 h
    exact ⟨n.toNat, hasSize_iff.2 ⟨n, hn, rfl⟩, by rw [toNat_bitsOf? hbits, Nat.mul_comm]⟩
  · rintro ⟨size, hsize, hbits⟩
    obtain ⟨n, hn, rfl⟩ := hasSize_iff.1 hsize
    rw [sizeInBits?, hn, Option.bind_some]
    cases hb : bitsOf? n with
    | none =>
      have hlarge := bitsOf?_eq_none_iff.1 hb
      have hlt := bits.toNat_lt_size
      omega
    | some bits' =>
      have hbits' := toNat_bitsOf? hb
      exact congrArg some (UInt64.toNat_inj.1 (by omega))

theorem sizeInBits?_eq_none_iff :
    e.sizeInBits? = none ↔ ∀ size, e.HasSize size → UInt64.size ≤ 8 * size := by
  constructor
  · intro h size hsize
    obtain ⟨n, hn, rfl⟩ := hasSize_iff.1 hsize
    rw [sizeInBits?, hn, Option.bind_some] at h
    exact bitsOf?_eq_none_iff.1 h
  · intro h
    rw [sizeInBits?, Option.bind_eq_none_iff]
    exact fun n hn => bitsOf?_eq_none_iff.2 (h n.toNat (hasSize_iff.2 ⟨n, hn, rfl⟩))

theorem text?_eq_some_iff {name s : String} :
    e.text? name = some s ↔ e.attribute? name = some (.text s) := by
  unfold text?
  rcases e.attribute? name with _ | v
  · simp
  · cases v <;> simp [Value.text?]

theorem text?_eq_none_iff {name : String} :
    e.text? name = none ↔ ∀ s, e.attribute? name ≠ some (.text s) := by
  rw [Option.eq_none_iff_forall_ne_some]
  simp only [ne_eq, text?_eq_some_iff]

theorem named_iff {name : Option String} :
    e.Named name ↔ (e.text? atLinkageName <|> e.text? atName) = name := by
  constructor
  · intro h
    cases h with
    | linkage hs => rw [text?_eq_some_iff.2 hs]; rfl
    | plain hno hs => rw [text?_eq_none_iff.2 hno, text?_eq_some_iff.2 hs]; rfl
    | nameless hno hno' => rw [text?_eq_none_iff.2 hno, text?_eq_none_iff.2 hno']; rfl
  · rintro rfl
    cases hl : e.text? atLinkageName with
    | some s => exact .linkage (text?_eq_some_iff.1 hl)
    | none =>
      cases hn : e.text? atName with
      | some s => exact .plain (text?_eq_none_iff.1 hl) (text?_eq_some_iff.1 hn)
      | none => exact .nameless (text?_eq_none_iff.1 hl) (text?_eq_none_iff.1 hn)

theorem has_iff {name : String} : e.has name = true ↔ e.attribute? name ≠ none := by
  rw [has, Option.isSome_iff_ne_none]

theorem describes_terminal (e : DebugEntry) : e.Describes (TypeChain.terminal e) := by
  unfold TypeChain.terminal
  split
  · next htag =>
    cases hbits : e.sizeInBits? with
    | some bits =>
      obtain ⟨size, hsize, hbits⟩ := sizeInBits?_eq_some_iff.1 hbits
      exact .pointer htag hsize hbits
    | none => exact .pointerWithoutSize htag (sizeInBits?_eq_none_iff.1 hbits)
  · next htag =>
    split
    · next hdeclared => exact .incomplete htag (has_iff.1 hdeclared)
    · next hdeclared =>
      have hdeclared : e.attribute? atDeclaration = none := by simpa [has_iff] using hdeclared
      cases hbits : e.sizeInBits? with
      | some bits =>
        obtain ⟨size, hsize, hbits⟩ := sizeInBits?_eq_some_iff.1 hbits
        exact .sized htag hdeclared hsize hbits (named_iff.2 rfl)
      | none => exact .withoutSize htag hdeclared (sizeInBits?_eq_none_iff.1 hbits)

theorem Describes.terminal_eq {r : TypeResolution} (h : e.Describes r) :
    TypeChain.terminal e = r := by
  unfold TypeChain.terminal TypeChain.pointerTag
  cases h with
  | pointer htag hsize hbits =>
    rw [if_pos htag, sizeInBits?_eq_some_iff.2 ⟨_, hsize, hbits⟩]
  | pointerWithoutSize htag hsize =>
    rw [if_pos htag, sizeInBits?_eq_none_iff.2 hsize]
  | incomplete htag hdeclared =>
    rw [if_neg htag, if_pos (has_iff.2 hdeclared)]
  | sized htag hdeclared hsize hbits hname =>
    rw [if_neg htag, if_neg (by simp [has_iff, hdeclared]),
      sizeInBits?_eq_some_iff.2 ⟨_, hsize, hbits⟩, ← named_iff.1 hname]
  | withoutSize htag hdeclared hsize =>
    rw [if_neg htag, if_neg (by simp [has_iff, hdeclared]), sizeInBits?_eq_none_iff.2 hsize]

end DebugEntry

namespace DebugUnit

def typeOf? (u : DebugUnit) (e : DebugEntry) : Option DebugEntry :=
  match e.attribute? atType with
  | some (.unitRef offset) => (u.indexOf? offset).bind u.get?
  | _ => none

/-- The entries of a type chain in order; none where the chain has stopped. -/
def typeChain (u : DebugUnit) (i k : Nat) : Option DebugEntry :=
  (·.bind u.typeOf?)^[k] (u.get? i)

variable {u : DebugUnit} {i k : Nat} {e : DebugEntry}

theorem typeChain_zero (u : DebugUnit) (i : Nat) : u.typeChain i 0 = u.get? i := rfl

theorem typeChain_succ (u : DebugUnit) (i k : Nat) :
    u.typeChain i (k + 1) = (u.typeChain i k).bind u.typeOf? := by
  rw [typeChain, typeChain, Function.iterate_succ_apply']

theorem typeChain_of_none (h : u.typeChain i k = none) (n : Nat) : u.typeChain i (k + n) = none := by
  induction n with
  | zero => exact h
  | succ n ih => rw [← Nat.add_assoc, typeChain_succ, ih, Option.bind_none]

theorem typeChain_one {offset : UInt64}
    (href : (u.get? i).bind (·.attribute? atType) = some (.unitRef offset)) :
    u.typeChain i 1 = (u.indexOf? offset).bind u.get? := by
  obtain ⟨e, he, href⟩ := Option.bind_eq_some_iff.1 href
  rw [typeChain_succ, typeChain_zero, he, Option.bind_some, typeOf?, href]

theorem typeChain_one_of_end
    (href : ∀ offset, (u.get? i).bind (·.attribute? atType) ≠ some (.unitRef offset)) :
    u.typeChain i 1 = none := by
  rw [typeChain_succ, typeChain_zero, Option.bind_eq_none_iff]
  intro e he
  rw [he] at href
  unfold typeOf?
  split
  · next offset hoffset => exact absurd hoffset (href offset)
  · rfl

theorem typeChain_of_unitRef {offset : UInt64} {j : Nat}
    (href : (u.get? i).bind (·.attribute? atType) = some (.unitRef offset))
    (hj : u.indexOf? offset = some j) (k : Nat) : u.typeChain i (k + 1) = u.typeChain j k := by
  have hnext : u.typeChain i 1 = u.get? j := by rw [typeChain_one href, hj, Option.bind_some]
  rw [typeChain, Function.iterate_succ_apply, ← typeChain_zero, ← typeChain_succ, hnext, typeChain]

theorem typeChain_of_end (he : u.typeChain i k = some e)
    (href : ∀ offset, e.attribute? atType ≠ some (.unitRef offset)) (n : Nat) :
    u.typeChain i (k + 1 + n) = none := by
  apply typeChain_of_none
  rw [typeChain_succ, he, Option.bind_some, typeOf?]
  split
  · next offset hoffset => exact absurd hoffset (href offset)
  · rfl

end DebugUnit

namespace TypeChain

open DebugUnit

variable {u : DebugUnit} {i j k k' budget : Nat} {e e' : DebugEntry}

/-- An entry within the budget that decides the result. The entry that the chain starts at has to
have a type. -/
def Decides (e : DebugEntry) (k : Nat) : Prop :=
  (∃ offset, e.attribute? atType = some (.infoRef offset)) ∨ 1 ≤ k ∧ e.attribute? atType = none

/-- The result for an entry and a budget, by the entry of the chain that decides it. -/
inductive Outcome (u : DebugUnit) (budget i : Nat) : Except TypeFault TypeResolution → Prop
  | unsupported {k : Nat} {e : DebugEntry} {offset : UInt64} (hk : k ≤ budget)
      (he : u.typeChain i k = some e) (href : e.attribute? atType = some (.infoRef offset)) :
      Outcome u budget i (.error (.unsupportedReference offset))
  | terminal {k : Nat} {e : DebugEntry} {r : TypeResolution} (hpos : 1 ≤ k) (hk : k ≤ budget)
      (he : u.typeChain i k = some e) (hnone : e.attribute? atType = none) (hr : e.Describes r) :
      Outcome u budget i (.ok r)
  | undecided (hno : ∀ k ≤ budget, ∀ e, u.typeChain i k = some e → ¬ Decides e k) :
      Outcome u budget i (.ok .unresolved)

theorem Decides.no_unitRef (h : Decides e k) (offset : UInt64) :
    e.attribute? atType ≠ some (.unitRef offset) := by
  rcases h with ⟨o, ho⟩ | ⟨-, hnone⟩
  · rw [ho]
    exact fun h => by cases h
  · rw [hnone]
    exact fun h => by cases h

theorem Decides.unique (he : u.typeChain i k = some e) (hd : Decides e k)
    (he' : u.typeChain i k' = some e') (hd' : Decides e' k') : e = e' := by
  have hlast {m m' : Nat} {x x' : DebugEntry} (hx : u.typeChain i m = some x) (hm : Decides x m)
      (hx' : u.typeChain i m' = some x') : m' ≤ m := by
    refine Nat.le_of_not_lt fun hlt => ?_
    have hstop := typeChain_of_end hx hm.no_unitRef (m' - (m + 1))
    rw [Nat.add_sub_cancel' hlt, hx'] at hstop
    cases hstop
  have hk : k = k' := Nat.le_antisymm (hlast he' hd' he) (hlast he hd he')
  rw [hk, he'] at he
  exact (Option.some.inj he).symm

theorem Outcome.unique {r r' : Except TypeFault TypeResolution} (h : Outcome u budget i r)
    (h' : Outcome u budget i r') : r = r' := by
  cases h with
  | @unsupported k e offset hk he href =>
    have hd : Decides e k := .inl ⟨offset, href⟩
    cases h' with
    | unsupported hk' he' href' =>
      rw [Decides.unique he hd he' (.inl ⟨_, href'⟩), href'] at href
      cases href
      rfl
    | terminal hpos' hk' he' hnone' hr' =>
      rw [Decides.unique he hd he' (.inr ⟨hpos', hnone'⟩), hnone'] at href
      cases href
    | undecided hno => exact absurd hd (hno k hk e he)
  | @terminal k e r hpos hk he hnone hr =>
    have hd : Decides e k := .inr ⟨hpos, hnone⟩
    cases h' with
    | unsupported hk' he' href' =>
      rw [Decides.unique he hd he' (.inl ⟨_, href'⟩), href'] at hnone
      cases hnone
    | terminal hpos' hk' he' hnone' hr' =>
      obtain rfl := Decides.unique he hd he' (.inr ⟨hpos', hnone'⟩)
      rw [← hr.terminal_eq, ← hr'.terminal_eq]
    | undecided hno => exact absurd hd (hno k hk e he)
  | undecided hno =>
    cases h' with
    | unsupported hk' he' href' => exact absurd (.inl ⟨_, href'⟩) (hno _ hk' _ he')
    | terminal hpos' hk' he' hnone' hr' => exact absurd (.inr ⟨hpos', hnone'⟩) (hno _ hk' _ he')
    | undecided => rfl

/-- Nothing decides if the chain goes no further than its first entry, or may not, and that entry does
not refer into the whole section. -/
theorem outcome_of_stop (hstop : budget = 0 ∨ u.typeChain i 1 = none)
    (href : ∀ offset, (u.get? i).bind (·.attribute? atType) ≠ some (.infoRef offset)) :
    Outcome u budget i (.ok .unresolved) := by
  refine .undecided fun k hk e he hd => ?_
  cases k with
  | zero =>
    rcases hd with ⟨offset, ho⟩ | ⟨hpos, -⟩
    · exact href offset (Option.bind_eq_some_iff.2 ⟨e, he, ho⟩)
    · cases hpos
  | succ k =>
    rcases hstop with rfl | hstop
    · cases hk
    · rw [Nat.add_comm, typeChain_of_none hstop] at he
      cases he

/-- One step along the chain takes one off the budget. The entry behind the step has a type itself,
so it does not end the chain. -/
theorem Outcome.step {offset : UInt64} {r : Except TypeFault TypeResolution}
    (href : (u.get? i).bind (·.attribute? atType) = some (.unitRef offset))
    (hj : u.indexOf? offset = some j) (he : u.get? j = some e) (htype : e.attribute? atType ≠ none)
    (h : Outcome u budget j r) : Outcome u (budget + 1) i r := by
  have hchain := typeChain_of_unitRef href hj
  cases h with
  | @unsupported k x offset hk hx hinfo =>
    exact .unsupported (Nat.succ_le_succ hk) ((hchain k).trans hx) hinfo
  | @terminal k x r hpos hk hx hnone hr =>
    exact .terminal (Nat.succ_pos k) (Nat.succ_le_succ hk) ((hchain k).trans hx) hnone hr
  | undecided hno =>
    refine .undecided fun k hk x hx hd => ?_
    cases k with
    | zero =>
      rw [← typeChain_zero, hx] at href
      exact hd.no_unitRef offset href
    | succ k =>
      rw [hchain] at hx
      refine hno k (Nat.le_of_succ_le_succ hk) x hx (hd.imp_right fun hend => ⟨?_, hend.2⟩)
      refine Nat.pos_of_ne_zero fun hzero => htype ?_
      rw [hzero, typeChain_zero, he] at hx
      rw [Option.some.inj hx]
      exact hend.2

theorem outcome_resolve (u : DebugUnit) (budget i : Nat) :
    Outcome u budget i (resolve u budget i) := by
  fun_induction resolve u budget i with
  | case1 budget i offset href =>
    obtain ⟨e, he, href⟩ := Option.bind_eq_some_iff.1 href
    exact .unsupported (Nat.zero_le _) he href
  | case2 budget i offset href hj =>
    have hstop : u.typeChain i 1 = none := by rw [typeChain_one href, hj, Option.bind_none]
    exact outcome_of_stop (.inr hstop) (by simp [href])
  | case3 i offset href j hj => exact outcome_of_stop (.inl rfl) (by simp [href])
  | case4 i offset href budget j hj he =>
    have hstop : u.typeChain i 1 = none := by rw [typeChain_one href, hj, Option.bind_some, he]
    exact outcome_of_stop (.inr hstop) (by simp [href])
  | case5 i offset href budget j hj e he htype ih =>
    exact ih.step href hj he (DebugEntry.has_iff.1 htype)
  | case6 i offset href budget j hj e he htype =>
    have hend : u.typeChain i 1 = some e := by rw [typeChain_one href, hj, Option.bind_some, he]
    have hnone : e.attribute? atType = none := by simpa [DebugEntry.has_iff] using htype
    exact .terminal (Nat.le_refl 1) (Nat.succ_pos budget) hend hnone e.describes_terminal
  | case7 budget i hinfo hunit => exact outcome_of_stop (.inr (typeChain_one_of_end hunit)) hinfo

/-- Resolving a type comes to exactly what the chain says. -/
theorem resolve_eq_iff (u : DebugUnit) (budget i : Nat) (r : Except TypeFault TypeResolution) :
    resolve u budget i = r ↔ Outcome u budget i r :=
  ⟨fun h => h ▸ outcome_resolve u budget i, fun h => (outcome_resolve u budget i).unique h⟩

def twoSteps : DebugUnit :=
  (((DebugUnit.empty 0).push none 16 "DW_TAG_variable" [(atType, .unitRef 32)]).push none 32
    "DW_TAG_typedef" [(atType, .unitRef 48)]).push none 48 "DW_TAG_base_type"
    [(atByteSize, .signed 4)]

example : resolve twoSteps 2 0 = .ok (.sized 32 none) := by cbv

example : resolve twoSteps 1 0 = .ok .unresolved := by cbv

end TypeChain

end ElfFacts
