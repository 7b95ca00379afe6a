import ElfFacts.Proofs.Debug.TypeChain
import Mathlib.Data.Fintype.Pigeonhole

/-!
# The budget of a type chain

A larger budget never changes a definite answer, and a budget of as many steps as the unit has
entries is as good as none. The reason is a count: an entry that decides the result has none behind
it, and a chain with as many steps as there are entries has come back to one of them and goes on for
ever.
-/
namespace ElfFacts

namespace DebugUnit

variable {u : DebugUnit} {i j k n : Nat} {e : DebugEntry}

theorem typeChain_add (u : DebugUnit) (i k n : Nat) :
    u.typeChain i (k + n) = (·.bind u.typeOf?)^[n] (u.typeChain i k) := by
  rw [typeChain, typeChain, Nat.add_comm, Function.iterate_add_apply]

theorem typeChain_ne_none_of_le (h : u.typeChain i n ≠ none) (hk : k ≤ n) :
    u.typeChain i k ≠ none := by
  intro hnone
  have hstop := typeChain_of_none hnone (n - k)
  rw [Nat.add_sub_cancel' hk] at hstop
  exact h hstop

theorem exists_get?_of_typeChain (he : u.typeChain i k = some e) :
    ∃ m < u.entries.size, u.get? m = some e := by
  have hget (m : Nat) (h : u.get? m = some e) : m < u.entries.size :=
    (Array.getElem?_eq_some_iff.1 h).1
  cases k with
  | zero => exact ⟨i, hget i he, he⟩
  | succ k =>
    rw [typeChain_succ, Option.bind_eq_some_iff] at he
    obtain ⟨e', -, he⟩ := he
    unfold typeOf? at he
    split at he
    · obtain ⟨m, -, he⟩ := Option.bind_eq_some_iff.1 he
      exact ⟨m, hget m he, he⟩
    · cases he

/-- The chain comes back to an entry that it has met before. -/
def Circular (u : DebugUnit) (i : Nat) : Prop :=
  ∃ j k, j < k ∧ u.typeChain i j = u.typeChain i k ∧ u.typeChain i k ≠ none

/-- A chain with as many steps as there are entries has met one of them twice. -/
theorem circular_of_long (h : u.typeChain i u.entries.size ≠ none) : u.Circular i := by
  have hplace (k : Fin (u.entries.size + 1)) :
      ∃ m : Fin u.entries.size, u.get? m = u.typeChain i k := by
    obtain ⟨e, he⟩ := Option.ne_none_iff_exists'.1
      (typeChain_ne_none_of_le h (Nat.le_of_lt_succ k.isLt))
    obtain ⟨m, hm, hget⟩ := exists_get?_of_typeChain he
    exact ⟨⟨m, hm⟩, hget.trans he.symm⟩
  choose place hplace using hplace
  obtain ⟨j, k, hne, heq⟩ := Fintype.exists_ne_map_eq_of_card_lt place (by simp)
  have hsame : u.typeChain i j = u.typeChain i k := by rw [← hplace, ← hplace, heq]
  have hsome (m : Fin (u.entries.size + 1)) : u.typeChain i m ≠ none :=
    typeChain_ne_none_of_le h (Nat.le_of_lt_succ m.isLt)
  rcases Nat.lt_or_gt_of_ne (Fin.val_ne_of_ne hne) with hlt | hgt
  · exact ⟨j, k, hlt, hsame, hsome k⟩
  · exact ⟨k, j, hgt, hsame.symm, hsome j⟩

theorem Circular.typeChain_ne_none (h : u.Circular i) (n : Nat) : u.typeChain i n ≠ none := by
  obtain ⟨j, k, hlt, hsame, hsome⟩ := h
  have hround (t : Nat) : u.typeChain i (j + t * (k - j)) = u.typeChain i k := by
    induction t with
    | zero => rw [Nat.zero_mul, Nat.add_zero, hsame]
    | succ t ih =>
      have hsplit : j + (t + 1) * (k - j) = j + t * (k - j) + (k - j) := by
        rw [Nat.succ_mul, Nat.add_assoc]
      rw [hsplit, typeChain_add, ih, ← hsame, ← typeChain_add,
        Nat.add_sub_cancel' (Nat.le_of_lt hlt), hsame]
  -- After `n` rounds the chain has gone at least `n` steps.
  have hfar : n ≤ j + n * (k - j) :=
    Nat.le_trans (Nat.le_mul_of_pos_right n (Nat.sub_pos_of_lt hlt)) (Nat.le_add_left ..)
  refine typeChain_ne_none_of_le ?_ hfar
  rwa [hround]

end DebugUnit

namespace TypeChain

open DebugUnit

variable {u : DebugUnit} {i k budget budget' : Nat} {e : DebugEntry}
  {r : Except TypeFault TypeResolution}

/-- The result of following the chain of an entry as far as it goes. -/
inductive Unlimited (u : DebugUnit) (i : Nat) : Except TypeFault TypeResolution → Prop
  | unsupported {k : Nat} {e : DebugEntry} {offset : UInt64} (he : u.typeChain i k = some e)
      (href : e.attribute? atType = some (.infoRef offset)) :
      Unlimited u i (.error (.unsupportedReference offset))
  | terminal {k : Nat} {e : DebugEntry} {r : TypeResolution} (hpos : 1 ≤ k)
      (he : u.typeChain i k = some e) (hnone : e.attribute? atType = none) (hr : e.Describes r) :
      Unlimited u i (.ok r)
  | undecided (hno : ∀ k e, u.typeChain i k = some e → ¬ Decides e k) :
      Unlimited u i (.ok .unresolved)

/-- The chain ends at an entry that decides, so it has not come back to any entry before. -/
theorem Decides.not_circular (he : u.typeChain i k = some e) (hd : Decides e k) : ¬ u.Circular i :=
  fun h => h.typeChain_ne_none (k + 1) (typeChain_of_end he hd.no_unitRef 0)

theorem Decides.lt_size (he : u.typeChain i k = some e) (hd : Decides e k) :
    k < u.entries.size := by
  refine Nat.lt_of_not_le fun hle => hd.not_circular he (circular_of_long ?_)
  have hsome : u.typeChain i k ≠ none := by simp [he]
  exact typeChain_ne_none_of_le hsome hle

theorem outcome_iff_unlimited (h : u.entries.size ≤ budget) :
    Outcome u budget i r ↔ Unlimited u i r := by
  have hwithin {k : Nat} {e : DebugEntry} (he : u.typeChain i k = some e) (hd : Decides e k) :
      k ≤ budget := Nat.le_trans (Nat.le_of_lt (hd.lt_size he)) h
  constructor
  · intro hr
    cases hr with
    | unsupported hk he href => exact .unsupported he href
    | terminal hpos hk he hnone hr => exact .terminal hpos he hnone hr
    | undecided hno => exact .undecided fun k e he hd => hno k (hwithin he hd) e he hd
  · intro hr
    cases hr with
    | unsupported he href => exact .unsupported (hwithin he (.inl ⟨_, href⟩)) he href
    | terminal hpos he hnone hr =>
      exact .terminal hpos (hwithin he (.inr ⟨hpos, hnone⟩)) he hnone hr
    | undecided hno => exact .undecided fun k _ e he => hno k e he

theorem Outcome.mono (hr : Outcome u budget i r) (h : budget ≤ budget')
    (hdefinite : r ≠ .ok .unresolved) : Outcome u budget' i r := by
  cases hr with
  | unsupported hk he href => exact .unsupported (Nat.le_trans hk h) he href
  | terminal hpos hk he hnone hr => exact .terminal hpos (Nat.le_trans hk h) he hnone hr
  | undecided hno => exact absurd rfl hdefinite

theorem outcome_of_circular (h : u.Circular i) (budget : Nat) :
    Outcome u budget i (.ok .unresolved) :=
  .undecided fun _ _ _ he hd => hd.not_circular he h

/-- With a smaller budget the result is the same or the type is unresolved. From as many steps on as
the unit has entries the budget makes no difference: the result is that of following the chain
without a limit. Where the chain comes back to an entry, no budget resolves it. -/
theorem resolve_saturates (u : DebugUnit) (i : Nat) :
    (∀ m m', m ≤ m' → resolve u m i = resolve u m' i ∨ resolve u m i = .ok .unresolved) ∧
      (∀ m, u.entries.size ≤ m → ∀ r, resolve u m i = r ↔ Unlimited u i r) ∧
      (∀ m m', u.entries.size ≤ m → u.entries.size ≤ m' → resolve u m i = resolve u m' i) ∧
      (u.Circular i → ∀ m, resolve u m i = .ok .unresolved) := by
  have hlimit (m : Nat) (hm : u.entries.size ≤ m) (r : Except TypeFault TypeResolution) :
      resolve u m i = r ↔ Unlimited u i r := by
    rw [← outcome_iff_unlimited hm]
    exact ⟨fun h => h ▸ outcome_resolve u m i, (outcome_resolve u m i).unique⟩
  refine ⟨fun m m' h => ?_, hlimit, fun m m' hm hm' => ?_, fun h m => ?_⟩
  · by_cases hdefinite : resolve u m i = .ok .unresolved
    · exact .inr hdefinite
    · exact .inl (((outcome_resolve u m i).mono h hdefinite).unique (outcome_resolve u m' i))
  · rw [hlimit m hm, ← hlimit m' hm']
  · exact (outcome_resolve u m i).unique (outcome_of_circular h m)

/-- A variable whose type is one of two that refer to each other. -/
def circle : DebugUnit :=
  (((DebugUnit.empty 0).push none 16 "DW_TAG_variable" [(atType, .unitRef 32)]).push none 32
    "DW_TAG_typedef" [(atType, .unitRef 48)]).push none 48 "DW_TAG_const_type"
    [(atType, .unitRef 32)]

theorem circular_circle : circle.Circular 0 := by
  have hfirst : circle.indexOf? 32 = some 1 := by
    simp [circle, DebugUnit.indexOf?, DebugUnit.push, Std.HashMap.getElem_insert]
  have hsecond : circle.indexOf? 48 = some 2 := by
    simp [circle, DebugUnit.indexOf?, DebugUnit.push]
  have hone (k : Nat) : circle.typeChain 0 (k + 1) = circle.typeChain 1 k :=
    typeChain_of_unitRef (by decide +kernel) hfirst k
  have htwo (k : Nat) : circle.typeChain 1 (k + 1) = circle.typeChain 2 k :=
    typeChain_of_unitRef (by decide +kernel) hsecond k
  have hback (k : Nat) : circle.typeChain 2 (k + 1) = circle.typeChain 1 k :=
    typeChain_of_unitRef (by decide +kernel) hfirst k
  refine ⟨1, 3, by decide, ?_, ?_⟩
  · rw [hone, hone, htwo, hback]
  · rw [hone, htwo, hback, typeChain_zero]
    decide +kernel

/-- The type of the first unit is two references away, that of the second is never found. -/
theorem resolve_saturates_circle :
    (resolve twoSteps 1 0 = resolve twoSteps 1000 0 ∨ resolve twoSteps 1 0 = .ok .unresolved) ∧
      resolve twoSteps 3 0 = resolve twoSteps 1000 0 ∧
      circle.Circular 0 ∧ resolve circle 1000 0 = .ok .unresolved := by
  obtain ⟨hmono, -, hequal, -⟩ := resolve_saturates twoSteps 0
  exact ⟨hmono 1 1000 (by decide), hequal 3 1000 (by decide) (by decide), circular_circle,
    (resolve_saturates circle 0).2.2.2 circular_circle 1000⟩

end TypeChain

end ElfFacts
