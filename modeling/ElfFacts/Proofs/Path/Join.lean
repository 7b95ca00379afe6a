import ElfFacts.Proofs.Path.Distinct

/-!
# Joined paths

A relative path that is joined to a directory goes on with its own pieces behind those of the
directory. Two such paths with the same last pieces are the same place only if their first pieces
are spelled alike.
-/
namespace ElfFacts.Path

theorem splitSlashes_eq_splitOn (octets : List UInt8) :
    splitSlashes octets = octets.splitOn slash := by
  induction octets with
  | nil => rfl
  | cons b r ih =>
    obtain ⟨piece, rest, hr⟩ := List.exists_cons_of_ne_nil (List.splitOn_ne_nil slash r)
    rw [splitSlashes, List.splitOn_cons_eq_if_modifyHead, ih, hr]
    by_cases hb : b = slash
    · rw [if_pos hb, if_pos (beq_iff_eq.2 hb)]
    · rw [if_neg hb, if_neg (mt beq_iff_eq.1 hb)]
      rfl

theorem splitSlashes_ne_nil (octets : List UInt8) : splitSlashes octets ≠ [] := by
  rw [splitSlashes_eq_splitOn]
  exact List.splitOn_ne_nil slash octets

theorem splitSlashes_append_cons (a b : List UInt8) :
    splitSlashes (a ++ slash :: b) = splitSlashes a ++ splitSlashes b := by
  simp only [splitSlashes_eq_splitOn, List.splitOn_append_cons_self]

theorem splitSlashes_of_notMem {a : List UInt8} (h : slash ∉ a) : splitSlashes a = [a] := by
  rw [splitSlashes_eq_splitOn, List.splitOn_eq_singleton h]

theorem splitSlashes_append {a : List UInt8} (h : slash ∉ a) (r : List UInt8) :
    splitSlashes (a ++ r) = (splitSlashes r).modifyHead (a ++ ·) := by
  obtain ⟨piece, rest, hr⟩ := List.exists_cons_of_ne_nil (splitSlashes_ne_nil r)
  induction a with
  | nil => rw [List.nil_append, hr]; rfl
  | cons b a ih =>
    rw [List.mem_cons, not_or] at h
    rw [List.cons_append, splitSlashes, if_neg (Ne.symm h.1), ih h.2, hr]
    rfl

theorem notMem_of_mem_splitSlashes {octets piece : List UInt8} (h : piece ∈ splitSlashes octets) :
    slash ∉ piece := by
  induction octets generalizing piece with
  | nil =>
    rw [List.mem_singleton.1 h]
    exact List.not_mem_nil
  | cons b r ih =>
    rw [splitSlashes] at h
    split at h
    · rcases List.mem_cons.1 h with rfl | h
      · exact List.not_mem_nil
      · exact ih h
    · next hb =>
      obtain ⟨first, rest, hr⟩ := List.exists_cons_of_ne_nil (splitSlashes_ne_nil r)
      rw [hr] at h ih
      rcases List.mem_cons.1 h with rfl | h
      · rw [List.mem_cons, not_or]
        exact ⟨Ne.symm hb, ih (List.mem_cons_self ..)⟩
      · exact ih (List.mem_cons_of_mem first h)

theorem first_splitSlashes_eq_nil {r piece : List UInt8} {rest : List (List UInt8)}
    (h : splitSlashes r = piece :: rest) : piece = [] ↔ r = [] ∨ r.head? = some slash := by
  cases r with
  | nil =>
    cases h
    simp
  | cons b r =>
    obtain ⟨first, rest', hr⟩ := List.exists_cons_of_ne_nil (splitSlashes_ne_nil r)
    rw [splitSlashes, hr] at h
    split at h <;> cases h <;> simp [*]

def front (p : Path) : List (List UInt8) :=
  if p.octets = [] then []
  else if p.octets.getLast? = some slash then (splitSlashes p.octets).dropLast
  else splitSlashes p.octets

variable {p q : Path}

theorem splitSlashes_join (hq : q.isAbsolute = false) :
    splitSlashes (p.join q).octets = p.front ++ splitSlashes q.octets := by
  rw [join, hq, front, if_neg Bool.false_ne_true]
  by_cases hnil : p.octets = []
  · rw [if_pos (.inl hnil), if_pos hnil, hnil]
    rfl
  · by_cases hlast : p.octets.getLast? = some slash
    · obtain ⟨init, hinit⟩ := List.getLast?_eq_some_iff.1 hlast
      rw [if_pos (.inr hlast), if_neg hnil, if_pos hlast, hinit, List.append_assoc,
        List.singleton_append, splitSlashes_append_cons, splitSlashes_append_cons, splitSlashes,
        List.dropLast_concat]
    · rw [if_neg (not_or.2 ⟨hnil, hlast⟩), if_neg hnil, if_neg hlast, splitSlashes_append_cons]

theorem isAbsolute_join (hq : q.isAbsolute = false) : (p.join q).isAbsolute = p.isAbsolute := by
  rw [join, hq, if_neg Bool.false_ne_true]
  cases hp : p.octets with
  | nil =>
    rw [if_pos (.inl rfl)]
    simpa [isAbsolute, hp] using hq
  | cons b r => split <;> simp [isAbsolute, hp]

def startOf : List (List UInt8) → List Part
  | [] :: _ :: _ => [.root]
  | piece :: _ => if piece = [dot] then [.current] else []
  | [] => []

def names (pieces : List (List UInt8)) : List Part :=
  (pieces.filter fun piece => !isFiller piece).map partOf

theorem names_append (l r : List (List UInt8)) : names (l ++ r) = names l ++ names r := by
  rw [names, List.filter_append, List.map_append]
  rfl

theorem names_singleton (a : List UInt8) : names [a] = if isFiller a then [] else [partOf a] := by
  rw [names, List.filter_singleton]
  cases isFiller a <;> rfl

theorem parts_eq (p : Path) :
    p.parts = startOf (splitSlashes p.octets) ++ names (splitSlashes p.octets) := by
  cases hp : p.octets with
  | nil =>
    simp only [parts, lead, hp]
    rfl
  | cons b r =>
    obtain ⟨piece, rest, hr⟩ := List.exists_cons_of_ne_nil (splitSlashes_ne_nil r)
    have hpiece := first_splitSlashes_eq_nil hr
    by_cases hb : b = slash
    · have hlead : p.lead = ([b], r) := by rw [lead, hp]; exact if_pos hb
      rw [parts, hlead, splitSlashes, if_pos hb, hr]
      simp [hb, startOf, names, isFiller]
    · rw [splitSlashes, if_neg hb, hr]
      by_cases hd : b = dot ∧ (r = [] ∨ r.head? = some slash)
      · have hlead : p.lead = ([b], r) := by
          rw [lead, hp]
          exact (if_neg hb).trans (if_pos hd)
        rw [parts, hlead, hr, hpiece.2 hd.2, hd.1]
        rfl
      · have hlead : p.lead = ([], b :: r) := by
          rw [lead, hp]
          exact (if_neg hb).trans (if_neg hd)
        have hdot : b :: piece ≠ [dot] := by
          intro he
          obtain ⟨hbd, hnil⟩ := List.cons_eq_cons.1 he
          exact hd ⟨hbd, hpiece.1 hnil⟩
        rw [parts, hlead, splitSlashes, if_neg hb, hr]
        simp only [startOf, if_neg hdot]
        rfl

theorem partOf_inj {a b : List UInt8} (h : partOf a = partOf b) : a = b := by
  unfold partOf at h
  split at h <;> split at h <;> simp_all

theorem partOf_ne_current (a : List UInt8) : partOf a ≠ .current := by
  unfold partOf
  split <;> exact Part.noConfusion

theorem startOf_append {front : List (List UInt8)} (h : front ≠ []) {a b : List UInt8}
    (r r' : List (List UInt8)) : startOf (front ++ a :: r) = startOf (front ++ b :: r') := by
  obtain ⟨first, rest, rfl⟩ := List.exists_cons_of_ne_nil h
  cases first with
  | cons c cs => rfl
  | nil => cases rest <;> rfl

/-- The parts down to the first piece of what is joined to a path. -/
def partsTo (p : Path) (a : List UInt8) : List Part :=
  startOf (p.front ++ [a]) ++ names (p.front ++ [a])

theorem parts_join (hq : q.isAbsolute = false) {a : List UInt8} {rest : List (List UInt8)}
    (h : splitSlashes q.octets = a :: rest) (ha : a ≠ []) :
    (p.join q).parts = p.partsTo a ++ names rest := by
  have hstart : startOf (p.front ++ a :: rest) = startOf (p.front ++ [a]) := by
    by_cases hfront : p.front = []
    · obtain ⟨b, r, rfl⟩ := List.exists_cons_of_ne_nil ha
      rw [hfront]
      rfl
    · exact startOf_append hfront rest []
  rw [parts_eq, splitSlashes_join hq, h, partsTo, hstart, List.append_assoc, ← names_append,
    List.append_assoc]
  rfl

theorem partsTo_of_ne {a : List UInt8} (ha : a ≠ []) (hdot : a ≠ [dot]) :
    p.partsTo a = p.partsTo [] ++ [partOf a] := by
  have hfiller : isFiller a = false := by simp [isFiller, ha, hdot]
  have hstart : startOf (p.front ++ [a]) = startOf (p.front ++ [[]]) := by
    by_cases hfront : p.front = []
    · obtain ⟨b, r, rfl⟩ := List.exists_cons_of_ne_nil ha
      rw [hfront]
      exact if_neg hdot
    · exact startOf_append hfront [] []
  rw [partsTo, partsTo, hstart, names_append, names_append, names_singleton, names_singleton,
    hfiller, List.append_assoc, List.append_assoc]
  rfl

theorem partsTo_dot : p.partsTo [dot] = if p.front = [] then [.current] else p.partsTo [] := by
  split
  · next hfront =>
    rw [partsTo, hfront]
    rfl
  · next hfront =>
    rw [partsTo, partsTo, startOf_append hfront [] [], names_append, names_append]
    rfl

theorem partsTo_inj {a b : List UInt8} (ha : a ≠ []) (hb : b ≠ []) (h : p.partsTo a = p.partsTo b) :
    a = b := by
  have hne {b : List UInt8} (hb : b ≠ []) (hdot : b ≠ [dot]) : p.partsTo [dot] ≠ p.partsTo b := by
    rw [partsTo_dot, partsTo_of_ne hb hdot]
    split
    · next hfront =>
      rw [partsTo, hfront]
      intro he
      exact partOf_ne_current b (List.singleton_inj.1 he).symm
    · intro he
      simpa using congrArg List.length he
  by_cases hda : a = [dot]
  · by_cases hdb : b = [dot]
    · rw [hda, hdb]
    · exact absurd (hda ▸ h) (hne hb hdb)
  · by_cases hdb : b = [dot]
    · exact absurd (hdb ▸ h).symm (hne ha hda)
    · rw [partsTo_of_ne ha hda, partsTo_of_ne hb hdb] at h
      exact partOf_inj (List.singleton_inj.1 (List.append_cancel_left h))

/-- Joined paths that only differ in their first pieces are the same place if those agree. -/
theorem same_join_iff {q' : Path} (hq : q.isAbsolute = false) (hq' : q'.isAbsolute = false)
    {a b : List UInt8} {rest : List (List UInt8)} (h : splitSlashes q.octets = a :: rest)
    (h' : splitSlashes q'.octets = b :: rest) (ha : a ≠ []) (hb : b ≠ []) :
    (p.join q).same (p.join q') = true ↔ a = b := by
  rw [same_iff, parts_join hq h ha, parts_join hq' h' hb]
  constructor
  · intro he
    exact partsTo_inj ha hb (List.append_cancel_right he)
  · intro he
    rw [he]

end ElfFacts.Path
