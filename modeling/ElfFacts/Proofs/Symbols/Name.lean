import ElfFacts.Symbols.Name
import ElfFacts.Proofs.Text.Split
import Mathlib.Data.List.TakeWhile

/-!
# The parts of a symbol name

A name is a bare name without separators, a run of separators, and a text that no separator begins,
which is the version if there is any of it. A name has these parts in one way.
-/
namespace ElfFacts.SymbolName

variable {name n n' v v' : String}

/-- The name is `n`, a run of separators, and `v`. Without separators there is no `v`. -/
def Spells (name n v : String) : Prop :=
  ∃ k, name.toList = n.toList ++ (List.replicate k separator ++ v.toList) ∧
    separator ∉ n.toList ∧ v.toList.head? ≠ some separator ∧ (k = 0 → v = "")

theorem head?_dropWhile {p : Char → Bool} {l : List Char} {c : Char}
    (h : (l.dropWhile p).head? = some c) : p c = false := by
  have hnot := List.head?_dropWhile_not p l
  rw [h] at hnot
  simpa using hnot

theorem spells_bare (name : String) :
    Spells name (bare name) (String.ofList (versionChars name.toList)) := by
  let rest := name.toList.dropWhile (· ≠ separator)
  have hrun : rest.takeWhile (· = separator) =
      List.replicate (rest.takeWhile (· = separator)).length separator := by
    refine List.eq_replicate_of_mem fun c hc => ?_
    simpa using List.mem_takeWhile_imp hc
  refine ⟨(rest.takeWhile (· = separator)).length, ?_, ?_, ?_, fun hk => ?_⟩
  · rw [← hrun, bare, String.toList_ofList, String.toList_ofList, bareChars, versionChars,
      List.takeWhile_append_dropWhile, List.takeWhile_append_dropWhile]
  · intro hmem
    rw [bare, String.toList_ofList] at hmem
    simpa using List.mem_takeWhile_imp hmem
  · intro hhead
    rw [String.toList_ofList, versionChars] at hhead
    simpa using head?_dropWhile hhead
  · have hnone : rest = [] := by
      cases hrest : rest with
      | nil => rfl
      | cons c r =>
        have hc : c = separator := by
          have hhead : rest.head? = some c := by rw [hrest, List.head?_cons]
          simpa using head?_dropWhile hhead
        rw [hrest, hc] at hk
        simp at hk
    rw [versionChars, show name.toList.dropWhile (· ≠ separator) = [] from hnone]
    rfl

theorem Spells.inj (h : Spells name n v) (h' : Spells name n' v') : n = n' ∧ v = v' := by
  obtain ⟨k, hname, hn, hv, hk⟩ := h
  obtain ⟨k', hname', hn', hv', hk'⟩ := h'
  have hstops {k : Nat} {v : String} (hk : k = 0 → v = "") :
      Text.Stops separator (List.replicate k separator ++ v.toList) := by
    cases k with
    | zero =>
      rw [hk rfl]
      exact Text.stops_nil separator
    | succ k => exact Text.stops_cons separator _
  obtain ⟨hbare, hrest⟩ :=
    Text.append_inj_of_stops hn hn' (hstops hk) (hstops hk') (hname.symm.trans hname')
  have hversion := (Text.append_inj_of_head (P := (· ≠ separator))
    (fun c hc => not_not.2 (List.eq_of_mem_replicate hc))
    (fun c hc => not_not.2 (List.eq_of_mem_replicate hc))
    (fun c hc he => hv (by rw [hc, he])) (fun c hc he => hv' (by rw [hc, he])) hrest).2
  exact ⟨String.toList_injective hbare, String.toList_injective hversion⟩

theorem bare_eq_iff : bare name = n ↔ ∃ v, Spells name n v := by
  constructor
  · rintro rfl
    exact ⟨_, spells_bare name⟩
  · rintro ⟨v, h⟩
    exact ((spells_bare name).inj h).1

theorem version?_eq_some_iff : version? name = some v ↔ v ≠ "" ∧ Spells name (bare name) v := by
  have hspells : Spells name (bare name) v ↔ String.ofList (versionChars name.toList) = v := by
    constructor
    · intro h
      exact ((spells_bare name).inj h).2
    · rintro rfl
      exact spells_bare name
  rw [hspells, version?]
  constructor
  · intro h
    split at h
    · cases h
    · next hne =>
      cases h
      exact ⟨fun he => hne (by simpa using congrArg String.toList he), rfl⟩
  · rintro ⟨hne, rfl⟩
    rw [if_neg]
    intro he
    exact hne (by rw [he])

end ElfFacts.SymbolName
