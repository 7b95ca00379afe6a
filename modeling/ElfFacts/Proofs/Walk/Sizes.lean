import ElfFacts.Proofs.Debug.TypeChain
import ElfFacts.Proofs.Walk.Calls

/-!
# Sizes in facts

A size passes three ranges on its way into a fact: a byte size is a constant that is not negative,
eight times as much has to be less than 2^64, and a fact carries numbers up to 2^63 - 1. `Carried`
says what becomes of a byte size. The sizes that a visit reports are those of the type of the entry
and of the entry itself.
-/
namespace ElfFacts

/-- The sizes in bits that are reported for a byte size: eight times as much where a fact can carry
that, the largest number beyond, and none from 2^64 on. -/
inductive Carried (HasSize : Nat → Prop) : List Nat → Prop
  | exact {size : Nat} (hsize : HasSize size) (hle : 8 * size ≤ maxNumber) :
      Carried HasSize [8 * size]
  | saturated {size : Nat} (hsize : HasSize size) (hlt : maxNumber < 8 * size)
      (hbits : 8 * size < UInt64.size) : Carried HasSize [maxNumber]
  | absent (hno : ∀ size, HasSize size → UInt64.size ≤ 8 * size) : Carried HasSize []

def numberOf (bits : UInt64) : Nat := min bits.toNat maxNumber

theorem Carried.of_bits {HasSize : Nat → Prop} {bits? : Option UInt64}
    (h : ∀ bits, bits? = some bits ↔ ∃ size, HasSize size ∧ bits.toNat = 8 * size) :
    Carried HasSize (bits?.toList.map numberOf) := by
  cases bits? with
  | none =>
    refine .absent fun size hsize => Nat.le_of_not_lt fun hlt => ?_
    have hbits : (UInt64.ofNat (8 * size)).toNat = 8 * size := UInt64.toNat_ofNat_of_lt hlt
    cases (h (UInt64.ofNat (8 * size))).2 ⟨size, hsize, hbits⟩
  | some bits =>
    obtain ⟨size, hsize, hbits⟩ := (h bits).1 rfl
    rw [Option.toList_some, List.map_singleton, numberOf, hbits]
    by_cases hle : 8 * size ≤ maxNumber
    · rw [Nat.min_eq_left hle]
      exact .exact hsize hle
    · rw [Nat.min_eq_right (Nat.le_of_not_le hle)]
      exact .saturated hsize (Nat.lt_of_not_le hle) (hbits ▸ bits.toNat_lt_size)

namespace DebugUnit

/-- The byte size of the type of an entry is that of the entry at the end of the type chain. If that
is a declaration it has none, unless it is a pointer. -/
def TypeSize (u : DebugUnit) (budget i size : Nat) : Prop :=
  ∃ k e, 1 ≤ k ∧ k ≤ budget ∧ u.typeChain i k = some e ∧ e.attribute? atType = none ∧
    (e.tag = "DW_TAG_pointer_type" ∨ e.attribute? atDeclaration = none) ∧ e.HasSize size

end DebugUnit

namespace TypeChain

open DebugUnit

variable {u : DebugUnit} {budget i : Nat}

def bits? : Except TypeFault TypeResolution → Option UInt64
  | .ok (.sized bits _) => some bits
  | .ok (.pointer bits) => some bits
  | _ => none

theorem Outcome.typeSize {r : Except TypeFault TypeResolution} {bits : UInt64}
    (h : Outcome u budget i r) (hbits : bits? r = some bits) :
    ∃ size, u.TypeSize budget i size ∧ bits.toNat = 8 * size := by
  cases h with
  | unsupported hk he href => cases hbits
  | terminal hpos hk he hnone hr =>
    cases hr with
    | pointer htag hsize heq =>
      cases hbits
      exact ⟨_, ⟨_, _, hpos, hk, he, hnone, .inl htag, hsize⟩, heq⟩
    | sized htag hdeclared hsize heq hname =>
      cases hbits
      exact ⟨_, ⟨_, _, hpos, hk, he, hnone, .inr hdeclared, hsize⟩, heq⟩
    | pointerWithoutSize | incomplete | withoutSize => cases hbits
  | undecided hno => cases hbits

theorem bits?_of_typeSize {size : Nat} {bits : UInt64} (hsize : u.TypeSize budget i size)
    (hbits : bits.toNat = 8 * size) : bits? (resolve u budget i) = some bits := by
  obtain ⟨k, e, hpos, hk, he, hnone, hdeclared, hsize⟩ := hsize
  by_cases htag : e.tag = "DW_TAG_pointer_type"
  · have hr : e.Describes (.pointer bits) := .pointer htag hsize hbits
    rw [(resolve_eq_iff u budget i _).2 (.terminal hpos hk he hnone hr), bits?]
  · have hr : e.Describes (.sized bits _) :=
      .sized htag (hdeclared.resolve_left htag) hsize hbits (DebugEntry.named_iff.2 rfl)
    rw [(resolve_eq_iff u budget i _).2 (.terminal hpos hk he hnone hr), bits?]

theorem bits?_resolve_eq_some_iff {bits : UInt64} :
    bits? (resolve u budget i) = some bits ↔
      ∃ size, u.TypeSize budget i size ∧ bits.toNat = 8 * size :=
  ⟨(outcome_resolve u budget i).typeSize, fun ⟨_, hsize, hbits⟩ => bits?_of_typeSize hsize hbits⟩

theorem resolve_of_no_type {e : DebugEntry} (he : u.get? i = some e)
    (hnone : e.attribute? atType = none) : resolve u budget i = .ok .unresolved := by
  have htype : (u.get? i).bind (·.attribute? atType) = none := by
    rw [he, Option.bind_some, hnone]
  refine (resolve_eq_iff u budget i _).2 (outcome_of_stop (.inr (typeChain_one_of_end ?_)) ?_)
  all_goals simp [htype]

end TypeChain

namespace Fact

def isSize (x : Fact) : Bool :=
  "_size_in_bits".toList.isSuffixOf x.predicate.toList && x.arguments.length == 3

def size (path tag : String) (id : Identity) (n : Nat) : Fact :=
  ⟨tag ++ "_size_in_bits", [.text path, id.argument, .number n]⟩

theorem isSize_of_length {x : Fact} (h : x.arguments.length ≠ 3) : x.isSize = false := by
  rw [isSize, beq_eq_false_iff_ne.2 h, Bool.and_false]

theorem isSize_size (path tag : String) (id : Identity) (n : Nat) :
    (size path tag id n).isSize = true := by
  simp [isSize, size, String.toList_append]

theorem isSize_of_getLast? {tag suffix : String} {arguments : List Argument}
    (h : suffix.toList.getLast? = some 'e') : isSize ⟨tag ++ suffix, arguments⟩ = false := by
  rw [isSize, Bool.and_eq_false_iff]
  left
  rw [Bool.eq_false_iff]
  intro hsuffix
  rw [List.isSuffixOf_iff_suffix] at hsuffix
  obtain ⟨rest, hrest⟩ := hsuffix
  have hlast := congrArg List.getLast? hrest
  have hs : "_size_in_bits".toList.getLast? = some 's' := by decide
  rw [String.toList_append, List.getLast?_append, List.getLast?_append, h, hs, Option.some_or,
    Option.some_or] at hlast
  exact absurd hlast (by decide)

theorem filter_isSize_map {α : Type} {tag suffix : String} {f : α → List Argument}
    (h : suffix.toList.getLast? = some 'e') (xs : List α) :
    (xs.map fun x => (⟨tag ++ suffix, f x⟩ : Fact)).filter isSize = [] := by
  rw [List.filter_eq_nil_iff]
  intro x hx
  obtain ⟨a, -, rfl⟩ := List.mem_map.1 hx
  rw [isSize_of_getLast? h]
  exact Bool.false_ne_true

theorem filter_isSize_sizes (path tag : String) (id : Identity) (ns : List Nat) :
    (ns.map (size path tag id)).filter isSize = ns.map (size path tag id) := by
  rw [List.filter_eq_self]
  intro x hx
  obtain ⟨n, -, rfl⟩ := List.mem_map.1 hx
  exact isSize_size path tag id n

end Fact

namespace WalkContext

variable (c : WalkContext) (f : WalkFrame) (e : DebugEntry)

theorem filter_isSize_relationFacts (tag : String) (n : Nat) (frames : List WalkFrame) :
    (c.relationFacts f tag n frames).filter Fact.isSize = [] := by
  rw [List.filter_eq_nil_iff]
  intro x hx
  have hother : x.isSize = false := by
    rcases c.mem_relationFacts hx with ⟨p, q, rfl⟩ | ⟨p, q, m, rfl⟩ <;>
      exact Fact.isSize_of_length (Nat.ne_of_beq_eq_false rfl)
  rw [hother]
  exact Bool.false_ne_true

theorem filter_isSize_typePart (he : c.unit.get? f.index = some e) (tag : String) :
    (c.typePart f e tag).1.filter Fact.isSize =
      ((TypeChain.bits? (TypeChain.resolve c.unit c.options.maxTypeChain f.index)).toList.map
        numberOf).map (Fact.size c.path tag f.id) := by
  have hsize (bits : UInt64) : (⟨tag ++ "_size_in_bits",
      [.text c.path, f.id.argument, .ofNat bits.toNat]⟩ : Fact) =
      Fact.size c.path tag f.id (numberOf bits) := rfl
  unfold typePart
  by_cases htype : e.has atType = true
  · rw [if_pos htype, typeFacts]
    split <;> next hr =>
      simp [hr, hsize, TypeChain.bits?, Fact.isSize_size, Fact.isSize_of_getLast?,
        Fact.filter_isSize_map]
  · have hnone : e.attribute? atType = none := by simpa [DebugEntry.has_iff] using htype
    rw [if_neg htype, TypeChain.resolve_of_no_type he hnone]
    rfl

theorem filter_isSize_attributeFacts (tag : String) (type : List Fact) :
    (c.attributeFacts f e tag type).filter Fact.isSize =
      type.filter Fact.isSize ++
        (e.sizeInBits?.toList.map numberOf).map (Fact.size c.path tag f.id) := by
  have hown : (e.sizeInBits?.toList.map fun bits => (⟨tag ++ "_size_in_bits",
      [.text c.path, f.id.argument, .ofNat bits.toNat]⟩ : Fact)) =
      (e.sizeInBits?.toList.map numberOf).map (Fact.size c.path tag f.id) := by
    rw [List.map_map]
    rfl
  rw [attributeFacts]
  dsimp only
  rw [hown]
  simp only [List.filter_append, Fact.filter_isSize_sizes]
  rw [Fact.filter_isSize_map (by decide), Fact.filter_isSize_map (by decide),
    Fact.filter_isSize_map (by decide), List.nil_append, List.append_nil, List.append_nil]

theorem filter_isSize_visitFacts (he : c.unit.get? f.index = some e) (l : Ledger) :
    (c.visitFacts f e l).filter Fact.isSize =
      if c.options.allows (Tag.normalize e.tag) then
        ((TypeChain.bits? (TypeChain.resolve c.unit c.options.maxTypeChain f.index)).toList.map
          numberOf ++ e.sizeInBits?.toList.map numberOf).map
            (Fact.size c.path (Tag.normalize e.tag) f.id)
      else [] := by
  have hself : (existenceFact c.path (Tag.normalize e.tag) f.id).isSize = false :=
    Fact.isSize_of_length (Nat.ne_of_beq_eq_false rfl)
  have hunit : (c.unitFacts e l).filter Fact.isSize = [] := by
    apply c.filter_unitFacts e l
    rintro x (hx | hx) <;> rw [Fact.isSize, hx] <;> rfl
  simp only [visitFacts, List.filter_append, filter_isSize_relationFacts, List.append_nil]
  split <;> split <;>
    simp [hself, hunit, c.filter_isSize_attributeFacts, c.filter_isSize_typePart f e he]

/-- The sizes that are reported when an entry is visited: none if the entry is not listed, or else
those for the byte size of its type and for its own. -/
inductive Sizes (c : WalkContext) (f : WalkFrame) : List Nat → Prop
  | listed {e : DebugEntry} {type own : List Nat} (he : c.unit.get? f.index = some e)
      (hallowed : c.options.allows (Tag.normalize e.tag) = true)
      (htype : Carried (c.unit.TypeSize c.options.maxTypeChain f.index) type)
      (hown : Carried e.HasSize own) : Sizes c f (type ++ own)
  | unlisted (hno : ∀ e, c.unit.get? f.index = some e →
      c.options.allows (Tag.normalize e.tag) = false) : Sizes c f []

theorem exists_sizes : ∃ ns, c.Sizes f ns ∧ ∀ s,
    ((c.reportsAt f s).map Prod.snd).filter Fact.isSize =
      ns.map (Fact.size c.path (c.tagAt f.index) f.id) := by
  unfold reportsAt tagAt
  cases he : c.unit.get? f.index with
  | none => exact ⟨[], .unlisted (by simp [he]), fun _ => rfl⟩
  | some e =>
    simp only [map_snd_visitReports, c.filter_isSize_visitFacts f e he, Option.map_some,
      Option.getD_some]
    cases hallowed : c.options.allows (Tag.normalize e.tag) with
    | true =>
      exact ⟨_, .listed he hallowed (.of_bits fun _ => TypeChain.bits?_resolve_eq_some_iff)
        (.of_bits fun _ => DebugEntry.sizeInBits?_eq_some_iff), fun _ => rfl⟩
    | false => exact ⟨[], .unlisted (by simp [he, hallowed]), fun _ => rfl⟩

end WalkContext

namespace Corpus

variable {b : Corpus} {o : WalkOptions}

def tagOf (b : Corpus) (o : WalkOptions) (x : Encounter) : String :=
  (b.context o x.1).tagAt x.2.index

theorem filter_isSize_reports {numbers : Encounter → List Nat}
    (h : ∀ x s, (((b.context o x.1).reportsAt x.2 s).map Prod.snd).filter Fact.isSize =
      (numbers x).map (Fact.size b.pathText (b.tagOf o x) x.2.id))
    (xs : List Encounter) (s : WalkState) :
    ((b.reports o xs s).map Prod.snd).filter Fact.isSize =
      xs.flatMap fun x => (numbers x).map (Fact.size b.pathText (b.tagOf o x) x.2.id) := by
  induction xs generalizing s with
  | nil => rfl
  | cons x xs ih =>
    rw [reports, List.map_append, List.filter_append, h, ih, List.flatMap_cons]

/-- The facts about sizes that a call reports, from whatever state, are for each visit of a listed
entry those for the byte size of the type that its chain ends at, and for its own byte size: exactly
eight times as much where a fact can carry that, the largest number of a fact where it cannot, and
none where eight times as much is not below 2^64. -/
theorem sizes_call (b : Corpus) (s : WalkState) (w : WalkCall) :
    ∃ numbers : Encounter → List Nat,
      (∀ x ∈ b.callVisits s w, (b.context w.options x.1).Sizes x.2 (numbers x)) ∧
        (b.call s w).facts.toList.filter Fact.isSize = s.facts.toList.filter Fact.isSize ++
          (b.callVisits s w).flatMap fun x =>
            (numbers x).map (Fact.size b.pathText (b.tagOf w.options x) x.2.id) := by
  -- The sizes of an entry do not depend on the ledger, so each visit has its own once and for all.
  choose numbers hsizes hreports using fun x : Encounter =>
    (b.context w.options x.1).exists_sizes x.2
  refine ⟨numbers, fun x _ => hsizes x, ?_⟩
  rw [facts_call, List.filter_append, filter_isSize_reports hreports]

def vastUnit : DebugUnit :=
  (DebugUnit.empty 0).push none 11 "DW_TAG_subprogram" [(atByteSize, .unsigned 0x1000000000000000)]

def vast : Corpus where
  path := Path.ofString "/a"
  units := #[vastUnit]

/-- Eight times the byte size of the function, 2^60, is more than a fact can carry, but a size is
reported for it. -/
theorem exists_size_vast :
    ∃ x ∈ vast.callVisits {} (.whole functionsOnly), ∃ e,
      x.1.1.get? x.2.index = some e ∧ functionsOnly.allows (Tag.normalize e.tag) = true ∧
        e.HasSize 0x1000000000000000 ∧ maxNumber < 8 * 0x1000000000000000 ∧
        Fact.size vast.pathText (Tag.normalize e.tag) x.2.id maxNumber ∈
          (vast.call {} (.whole functionsOnly)).facts.toList := by
  let c := vast.context functionsOnly (vastUnit, 0)
  let x : Encounter := ((vastUnit, 0), c.frameAt 0)
  have hlisted : c.options.allows (Tag.normalize (vastUnit.entryAt 0).tag) = true := by
    decide +kernel
  obtain ⟨rest, hvisits⟩ : ∃ rest, vast.callVisits {} (.whole functionsOnly) = x :: rest := by
    have hunits : vast.units.toList.zipIdx = [(vastUnit, 0)] := rfl
    have hroots : vastUnit.roots = [0] := by decide +kernel
    rw [callVisits, visits, hunits, unitVisits, hroots]
    simp only [List.map_cons, List.map_nil, WalkContext.visits_cons, List.cons_append]
    exact ⟨_, rfl⟩
  have hsize : Fact.size vast.pathText (Tag.normalize (vastUnit.entryAt 0).tag) x.2.id maxNumber ∈
      c.visitFacts (c.frameAt 0) (vastUnit.entryAt 0) {} := by
    apply List.mem_of_mem_filter (p := Fact.isSize)
    rw [c.filter_isSize_visitFacts _ _ rfl, if_pos hlisted, List.map_append, List.mem_append]
    exact .inr (List.mem_map.2 ⟨maxNumber, by decide +kernel, rfl⟩)
  have hvisited : x ∈ vast.callVisits {} (.whole functionsOnly) := by
    rw [hvisits]
    exact List.mem_cons_self ..
  exact ⟨x, hvisited, vastUnit.entryAt 0, rfl, hlisted, .inl ⟨_, rfl, by decide⟩, by decide,
    mem_facts_call_of_first hvisits rfl hsize⟩

end Corpus

end ElfFacts
