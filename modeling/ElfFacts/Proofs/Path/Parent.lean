import ElfFacts.Proofs.Path.Join
import Mathlib.Data.List.DropRight

/-!
# Names in a directory

A path is a name in a directory if taking the name off leaves a path of the directory. This can be
told from the parts alone, and a single name that is joined to a directory is such a path.
-/
namespace ElfFacts.Path

variable {p dir : Path} {name : List UInt8} {pieces : List (List UInt8)}

theorem trimmed_eq (pieces : List (List UInt8)) : trimmed pieces = pieces.rdropWhile isFiller := rfl

theorem prefix_of_trimmed (pieces : List (List UInt8)) : trimmed pieces <+: pieces :=
  List.rdropWhile_prefix isFiller pieces

theorem isFiller_getLast_trimmed {last : List UInt8} (h : (trimmed pieces).getLast? = some last) :
    isFiller last = false := by
  rw [trimmed, List.getLast?_reverse] at h
  simpa [h] using List.head?_dropWhile_not isFiller pieces.reverse

theorem names_trimmed (pieces : List (List UInt8)) : names (trimmed pieces) = names pieces := by
  induction pieces using List.reverseRecOn with
  | nil => rfl
  | append_singleton pieces piece ih =>
    rw [trimmed_eq, List.rdropWhile_concat, names_append, names_singleton]
    by_cases hfiller : isFiller piece = true
    · rw [if_pos hfiller, if_pos hfiller, ← trimmed_eq, ih, List.append_nil]
    · rw [if_neg hfiller, if_neg hfiller, names_append, names_singleton, if_neg hfiller]

theorem splitSlashes_joinSlashes (hne : pieces ≠ []) (h : ∀ piece ∈ pieces, slash ∉ piece) :
    splitSlashes (joinSlashes pieces) = pieces := by
  induction pieces with
  | nil => exact absurd rfl hne
  | cons piece rest ih =>
    have hpiece := h piece (List.mem_cons_self ..)
    cases rest with
    | nil => exact splitSlashes_of_notMem hpiece
    | cons next rest =>
      have hrest := ih (List.cons_ne_nil next rest) fun q hq => h q (List.mem_cons_of_mem piece hq)
      have hjoin : joinSlashes (piece :: next :: rest) =
          piece ++ slash :: joinSlashes (next :: rest) := rfl
      rw [hjoin, splitSlashes_append_cons, hrest, splitSlashes_of_notMem hpiece]
      rfl

def startPart (lead : List UInt8) : List Part :=
  match lead with
  | [] => []
  | b :: _ => if b = slash then [.root] else [.current]

theorem parts_eq_lead (p : Path) : p.parts = startPart p.lead.1 ++ names (splitSlashes p.lead.2) := by
  cases h : p.lead.1 <;> simp only [parts, startPart, names, h]

theorem lead_cases (p : Path) :
    (p.lead = ([], p.octets) ∧ startOf (splitSlashes p.octets) = []) ∨
      (∃ r, p.lead = ([slash], r)) ∨
      ∃ r, p.lead = ([dot], r) ∧ (r = [] ∨ r.head? = some slash) := by
  have hnone (h : p.lead = ([], p.octets)) : startOf (splitSlashes p.octets) = [] := by
    have hparts := parts_eq_lead p
    rw [h, parts_eq p] at hparts
    exact List.append_cancel_right hparts
  cases hp : p.octets with
  | nil =>
    have hlead : p.lead = ([], p.octets) := by rw [lead, hp]
    exact .inl ⟨hp ▸ hlead, hp ▸ hnone hlead⟩
  | cons b r =>
    by_cases hb : b = slash
    · have hlead : p.lead = ([b], r) := by rw [lead, hp]; exact if_pos hb
      exact .inr (.inl ⟨r, hb ▸ hlead⟩)
    · by_cases hd : b = dot ∧ (r = [] ∨ r.head? = some slash)
      · have hlead : p.lead = ([b], r) := by
          rw [lead, hp]
          exact (if_neg hb).trans (if_pos hd)
        exact .inr (.inr ⟨r, hd.1 ▸ hlead, hd.2⟩)
      · have hlead : p.lead = ([], p.octets) := by
          rw [lead, hp]
          exact (if_neg hb).trans (if_neg hd)
        exact .inl ⟨hp ▸ hlead, hp ▸ hnone hlead⟩

theorem startOf_of_prefix {all : List (List UInt8)} (h : pieces <+: all) (hall : startOf all = [])
    (htrim : trimmed pieces = pieces) : startOf pieces = [] := by
  obtain ⟨more, rfl⟩ := h
  cases pieces with
  | nil => rfl
  | cons first rest =>
    cases first with
    | cons b first => exact hall
    | nil =>
      cases rest with
      | nil => exact absurd htrim (by decide)
      | cons next rest => exact absurd hall (List.cons_ne_nil _ _)

/-- The first pieces of a path behind its lead, with the lead, are a path that begins alike. -/
theorem parts_of_prefix (h : pieces <+: splitSlashes p.lead.2) (htrim : trimmed pieces = pieces) :
    (⟨p.lead.1 ++ joinSlashes pieces⟩ : Path).parts = startPart p.lead.1 ++ names pieces := by
  have hslash : ∀ piece ∈ pieces, slash ∉ piece :=
    fun piece hm => notMem_of_mem_splitSlashes (h.subset hm)
  rcases lead_cases p with ⟨hlead, hstart⟩ | ⟨r, hlead⟩ | ⟨r, hlead, hr⟩
  · rw [hlead] at h ⊢
    by_cases hne : pieces = []
    · rw [hne]
      rfl
    · have hpieces : splitSlashes (joinSlashes pieces) = pieces :=
        splitSlashes_joinSlashes hne hslash
      rw [List.nil_append, parts_eq, hpieces, startOf_of_prefix h hstart htrim]
      rfl
  · rw [hlead]
    cases pieces with
    | nil => rfl
    | cons first rest =>
      have hpieces := splitSlashes_joinSlashes (List.cons_ne_nil first rest) hslash
      rw [parts_eq, List.singleton_append, splitSlashes, if_pos rfl, hpieces]
      rfl
  · rw [hlead] at h ⊢
    cases pieces with
    | nil => rfl
    | cons first rest =>
      have hpieces := splitSlashes_joinSlashes (List.cons_ne_nil first rest) hslash
      obtain ⟨more, hmore⟩ := h
      have hfirst : first = [] := (first_splitSlashes_eq_nil hmore.symm).2 hr
      rw [parts_eq, List.singleton_append, splitSlashes, if_neg (by decide), hpieces, hfirst]
      rfl

theorem names_of_getLast_trimmed {last : List UInt8} (h : (trimmed pieces).getLast? = some last) :
    names pieces = names (trimmed (trimmed pieces).dropLast) ++ [partOf last] := by
  obtain ⟨front, hfront⟩ := List.getLast?_eq_some_iff.1 h
  rw [names_trimmed, ← names_trimmed pieces, hfront, List.dropLast_concat, names_append,
    names_singleton, isFiller_getLast_trimmed h, if_neg Bool.false_ne_true]

theorem partOf_eq_name_iff {last : List UInt8} :
    partOf last = .name name ↔ last ≠ [dot, dot] ∧ last = name := by
  unfold partOf
  split <;> simp [*]

/-- A path ends in a name if that is its file name, and its parent has the parts before it. -/
theorem parts_eq_concat_iff {ps : List Part} :
    p.parts = ps ++ [.name name] ↔
      p.fileName? = some name ∧ ∃ parent, p.parent? = some parent ∧ parent.parts = ps := by
  cases hlast : (trimmed (splitSlashes p.lead.2)).getLast? with
  | none =>
    have hparts : p.parts = startPart p.lead.1 := by
      rw [parts_eq_lead, ← names_trimmed, List.getLast?_eq_none_iff.1 hlast]
      exact List.append_nil _
    have hname : p.fileName? = none := by rw [fileName?, hlast]
    rw [hname, hparts]
    simp only [reduceCtorEq, false_and, iff_false]
    intro he
    have hmem : Part.name name ∈ startPart p.lead.1 := he ▸ List.mem_concat_self
    unfold startPart at hmem
    split at hmem
    · cases hmem
    · split at hmem <;> cases List.mem_singleton.1 hmem
  | some last =>
    have hne : trimmed (splitSlashes p.lead.2) ≠ [] := by
      intro hnil
      rw [hnil] at hlast
      cases hlast
    have hprefix : trimmed (trimmed (splitSlashes p.lead.2)).dropLast <+: splitSlashes p.lead.2 :=
      ((prefix_of_trimmed _).trans <| List.dropLast_prefix _).trans (prefix_of_trimmed _)
    have hparent := parts_of_prefix hprefix (List.rdropWhile_idempotent isFiller _)
    have hname : p.fileName? = if last = [dot, dot] then none else some last := by
      rw [fileName?, hlast]
    rw [parts_eq_lead, names_of_getLast_trimmed hlast, ← List.append_assoc, ← hparent, hname,
      parent?, if_neg hne, List.append_singleton_inj, partOf_eq_name_iff]
    simp [and_comm]

/-- A path that is a name in a directory: without the name it leads to the directory. -/
def IsEntryOf (p dir : Path) : Prop :=
  ∃ name parent, p.fileName? = some name ∧ p.parent? = some parent ∧ parent.same dir = true

theorem isEntryOf_iff : p.IsEntryOf dir ↔ ∃ name, p.parts = dir.parts ++ [.name name] := by
  simp only [IsEntryOf, parts_eq_concat_iff, same_iff, exists_and_left]

theorem startOf_snoc_nil (h : pieces ≠ [[]]) : startOf (pieces ++ [[]]) = startOf pieces := by
  cases pieces with
  | nil => rfl
  | cons first rest =>
    cases first with
    | cons b first => rfl
    | nil =>
      cases rest with
      | nil => exact absurd rfl h
      | cons next rest => rfl

theorem splitSlashes_ne_singleton_nil {octets : List UInt8} (h : octets ≠ []) :
    splitSlashes octets ≠ [[]] := by
  intro he
  rcases (first_splitSlashes_eq_nil he).1 rfl with hnil | hhead
  · exact h hnil
  · obtain ⟨r, rfl⟩ := List.head?_eq_some_iff.1 hhead
    rw [splitSlashes, if_pos rfl, List.cons_eq_cons] at he
    exact splitSlashes_ne_nil r he.2

theorem partsTo_nil (p : Path) : p.partsTo [] = p.parts := by
  rw [partsTo, front, parts_eq]
  by_cases hnil : p.octets = []
  · rw [if_pos hnil, hnil]
    rfl
  · rw [if_neg hnil]
    by_cases hlast : p.octets.getLast? = some slash
    · obtain ⟨init, hinit⟩ := List.getLast?_eq_some_iff.1 hlast
      have hpieces : splitSlashes p.octets = splitSlashes init ++ [[]] := by
        rw [hinit, splitSlashes_append_cons]
        rfl
      rw [if_pos hlast, hpieces, List.dropLast_concat]
    · rw [if_neg hlast, startOf_snoc_nil (splitSlashes_ne_singleton_nil hnil), names_append]
      exact congrArg _ (List.append_nil _)

/-- One name that is joined to a directory is a name in it. -/
theorem isEntryOf_join (dir : Path) (hslash : slash ∉ name) (hfiller : isFiller name = false)
    (hup : name ≠ [dot, dot]) : (dir.join ⟨name⟩).IsEntryOf dir := by
  have hne : name ≠ [] ∧ name ≠ [dot] := by simpa [isFiller] using hfiller
  have hrelative : (⟨name⟩ : Path).isAbsolute = false := by
    obtain ⟨b, r, rfl⟩ := List.exists_cons_of_ne_nil hne.1
    simp only [isAbsolute, List.head?_cons, Option.some.injEq, decide_eq_false_iff_not]
    rintro rfl
    exact hslash (List.mem_cons_self ..)
  refine isEntryOf_iff.2 ⟨name, ?_⟩
  rw [parts_join hrelative (splitSlashes_of_notMem hslash) hne.1, partsTo_of_ne hne.1 hne.2,
    partsTo_nil, partOf, if_neg hup]
  exact List.append_nil _

theorem startOf_append_names_ne_nil (h : pieces ≠ []) (name : List UInt8) :
    startOf (pieces ++ [name]) ++ names pieces ≠ [] := by
  obtain ⟨first, rest, rfl⟩ := List.exists_cons_of_ne_nil h
  intro hnil
  obtain ⟨hstart, hnames⟩ := List.append_eq_nil_iff.1 hnil
  by_cases hempty : first = []
  · rw [hempty] at hstart
    cases rest <;> exact List.cons_ne_nil _ _ hstart
  · have hdot : first ≠ [dot] := by
      rintro rfl
      exact List.cons_ne_nil _ _ hstart
    have hfiller : isFiller first = false := by simp [isFiller, hempty, hdot]
    rw [← List.singleton_append, names_append, names_singleton, hfiller] at hnames
    exact List.cons_ne_nil _ _ hnames

/-- A name behind a separator is not in the directory that the empty path stands for. -/
theorem not_isEntryOf_nil {above : List UInt8} (hslash : slash ∉ name)
    (hfiller : isFiller name = false) : ¬ (⟨above ++ slash :: name⟩ : Path).IsEntryOf ⟨[]⟩ := by
  intro h
  obtain ⟨n, hparts⟩ := isEntryOf_iff.1 h
  rw [parts_eq, splitSlashes_append_cons, splitSlashes_of_notMem hslash, names_append,
    names_singleton, hfiller, if_neg Bool.false_ne_true, ← List.append_assoc] at hparts
  exact startOf_append_names_ne_nil (splitSlashes_ne_nil above) name
    (List.append_singleton_inj.1 hparts).1

end ElfFacts.Path
