import ElfFacts.Generator.Layout
import ElfFacts.Proofs.Path.Join
import ElfFacts.Proofs.Text.Digits
import ElfFacts.Proofs.Text.Split
import ElfFacts.Proofs.Text.Utf8
import Mathlib.Data.List.Pairwise

/-!
# The names of fact files

A fact file is named after its main binary, or after the binary and a digest of its path. Two names
agree if two binaries cannot be told apart by label and displayed path, or if a name with a digest is
the label of a binary that has it for itself.
-/
namespace ElfFacts

namespace Path

/-- A text that can be the name of something in a directory. -/
def IsName (s : String) : Prop := s ≠ "" ∧ '/' ∉ s.toList

instance (s : String) : Decidable (IsName s) := inferInstanceAs (Decidable (_ ∧ _))

theorem slash_notMem_encode {s : String} (h : '/' ∉ s.toList) : slash ∉ Utf8.encode s :=
  fun hm => h (Utf8.mem_of_mem_encode (b := slash) (by decide) hm)

theorem mem_of_fileName {p : Path} {piece : List UInt8} (h : p.fileName? = some piece) :
    isFiller piece = false ∧ slash ∉ piece := by
  unfold fileName? at h
  split at h
  · cases h
  · next last hlast =>
    split at h
    · cases h
    · obtain rfl := Option.some.inj h
      rw [trimmed, List.getLast?_reverse] at hlast
      refine ⟨?_, ?_⟩
      · simpa [hlast] using List.head?_dropWhile_not isFiller (splitSlashes p.lead.2).reverse
      · have hm := (List.dropWhile_sublist _).subset (List.mem_of_head? hlast)
        exact notMem_of_mem_splitSlashes (List.mem_reverse.1 hm)

theorem isName_label {p : Path} {name : String} (h : p.fileName?.bind Utf8.strictString = some name) :
    IsName p.label := by
  have hlabel : p.label = name := by rw [label, h]
  obtain ⟨piece, hpiece, hname⟩ := Option.bind_eq_some_iff.1 h
  obtain ⟨hfiller, hslash⟩ := mem_of_fileName hpiece
  rw [hlabel]
  refine ⟨Utf8.strictString_ne_empty hname ?_, fun hm => hslash ?_⟩
  · rintro rfl
    cases hfiller
  · exact Utf8.mem_of_strictString hname ⟨by decide, by decide⟩ hm

end Path

namespace Layout

variable {l : Layout} {mains : List Path} {m m' : Path} {s t : String}

def place (l : Layout) (stem : String) : Path :=
  l.outDir.join (.ofString (stem ++ "." ++ l.extension))

theorem splitSlashes_name {e : String} {first : List UInt8} {rest : List (List UInt8)}
    (he : Path.splitSlashes (Utf8.encode e) = first :: rest) (hs : '/' ∉ s.toList) :
    (Path.ofString (s ++ "." ++ e)).isAbsolute = false ∧
      Path.splitSlashes (Path.ofString (s ++ "." ++ e)).octets =
        (Utf8.encode s ++ Path.dot :: first) :: rest := by
  have hslash := Path.slash_notMem_encode hs
  have hdot : Utf8.encode "." = [Path.dot] := by decide
  have hoctets : (Path.ofString (s ++ "." ++ e)).octets =
      Utf8.encode s ++ ([Path.dot] ++ Utf8.encode e) := by
    rw [Path.ofString, Utf8.encode_append, Utf8.encode_append, hdot, List.append_assoc]
  constructor
  · rw [Path.isAbsolute, hoctets]
    cases hb : Utf8.encode s with
    | nil => rfl
    | cons b r =>
      rw [hb, List.mem_cons, not_or] at hslash
      simpa using Ne.symm hslash.1
  · rw [hoctets, Path.splitSlashes_append hslash, Path.splitSlashes_append (by decide), he]
    rfl

theorem place_same_iff (l : Layout) (hs : '/' ∉ s.toList) (ht : '/' ∉ t.toList) :
    (l.place s).same (l.place t) = true ↔ s = t := by
  obtain ⟨first, rest, he⟩ :=
    List.exists_cons_of_ne_nil (Path.splitSlashes_ne_nil (Utf8.encode l.extension))
  obtain ⟨habs, hpieces⟩ := splitSlashes_name he hs
  obtain ⟨habs', hpieces'⟩ := splitSlashes_name he ht
  rw [place, place, Path.same_join_iff habs habs' hpieces hpieces' (by simp) (by simp)]
  constructor
  · intro heq
    exact Utf8.encode_inj (List.append_cancel_right heq)
  · intro heq
    rw [heq]

theorem append_eq_summary_iff {first : List UInt8} :
    Utf8.encode s ++ Path.dot :: first = Utf8.encode "run-summary.json" ↔
      s = "run-summary" ∧ first = Utf8.encode "json" := by
  have hsummary : Utf8.encode "run-summary.json" =
      Utf8.encode "run-summary" ++ Path.dot :: Utf8.encode "json" := by decide
  constructor
  · intro h
    have hcount := congrArg (List.count Path.dot) h
    have hone : List.count Path.dot (Utf8.encode "run-summary.json") = 1 := by decide
    rw [hone, List.count_append, List.count_cons_self] at hcount
    have hs : Path.dot ∉ Utf8.encode s := List.count_eq_zero.1 (by omega)
    rw [hsummary] at h
    obtain ⟨hstem, hfirst⟩ := Text.append_cons_inj hs (by decide) h
    exact ⟨Utf8.encode_inj hstem, hfirst⟩
  · rintro ⟨rfl, rfl⟩
    exact hsummary.symm

theorem same_json_iff {e : String} {first : List UInt8} {rest : List (List UInt8)}
    (he : Path.splitSlashes (Utf8.encode e) = first :: rest) :
    (Path.ofString e).same (Path.ofString "json") = true ↔
      first = Utf8.encode "json" ∧ Path.names rest = [] := by
  have hjson : (Path.ofString "json").parts = [.name (Utf8.encode "json")] := by decide
  have hname : Path.Part.name (Utf8.encode "json") = Path.partOf (Utf8.encode "json") := by decide
  rw [Path.same_iff, Path.parts_eq, Path.ofString, he, hjson, ← List.singleton_append,
    Path.names_append, Path.names_singleton]
  by_cases hnil : first = []
  · have hne : first ≠ Utf8.encode "json" := by rw [hnil]; decide
    simp only [hne, false_and, iff_false]
    cases rest <;> simp [hnil, Path.startOf, Path.isFiller, Path.names]
  · by_cases hdot : first = [Path.dot]
    · have hne : first ≠ Utf8.encode "json" := by rw [hdot]; decide
      simp only [hne, false_and, iff_false]
      simp [hdot, Path.startOf]
    · have hstart : Path.startOf ([first] ++ rest) = [] := by
        obtain ⟨b, r, rfl⟩ := List.exists_cons_of_ne_nil hnil
        exact if_neg hdot
      have hfiller : Path.isFiller first = false := by simp [Path.isFiller, hnil, hdot]
      rw [hstart, hfiller, List.nil_append, if_neg Bool.false_ne_true, List.singleton_append,
        List.cons_eq_cons, hname]
      exact and_congr_left fun _ => ⟨Path.partOf_inj, fun h => by rw [h]⟩

theorem place_same_summary_iff (l : Layout) (hs : Path.IsName s) :
    (l.place s).same l.summary = true ↔
      s = "run-summary" ∧ (Path.ofString l.extension).same (Path.ofString "json") = true := by
  obtain ⟨first, rest, he⟩ :=
    List.exists_cons_of_ne_nil (Path.splitSlashes_ne_nil (Utf8.encode l.extension))
  obtain ⟨habs, hpieces⟩ := splitSlashes_name he hs.2
  have hne : Utf8.encode s ≠ [] := fun h => hs.1 (Utf8.encode_inj h)
  have hdot : Utf8.encode s ++ Path.dot :: first ≠ [Path.dot] := by
    intro h
    obtain ⟨b, r, hb⟩ := List.exists_cons_of_ne_nil hne
    rw [hb] at h
    simp at h
  have hsummary : Path.splitSlashes (Path.ofString "run-summary.json").octets =
      [Utf8.encode "run-summary.json"] := by decide
  rw [place, summary, Path.same_iff, Path.parts_join habs hpieces (by simp),
    Path.parts_join (by decide) hsummary (by decide), Path.partsTo_of_ne (by simp) hdot,
    Path.partsTo_of_ne (a := Utf8.encode "run-summary.json") (by decide) (by decide),
    same_json_iff he, List.append_assoc, List.append_assoc, List.append_right_inj,
    List.singleton_append, List.singleton_append, List.cons_eq_cons, ← and_assoc,
    ← append_eq_summary_iff]
  exact and_congr_left fun _ => ⟨Path.partOf_inj, fun h => by rw [h]⟩

theorem length_pathDigest (p : Path) : (pathDigest p).toList.length = 8 := by
  rw [pathDigest, Text.length_hexOctets, List.length_take, Sha256.length_digest]
  rfl

theorem notMem_pathDigest {c : Char} (hc : c ∉ Text.alphabet) (p : Path) :
    c ∉ (pathDigest p).toList :=
  (Text.isDigits_hexOctets _).notMem hc

/-- Another binary of the list has the same label. -/
def Shared (mains : List Path) (m : Path) : Prop := 1 < mains.countP (·.label = m.label)

instance (mains : List Path) (m : Path) : Decidable (Shared mains m) :=
  inferInstanceAs (Decidable (_ < _))

/-- A label that is not shared looks like one that is shared and has a digest behind it. -/
def Lookalike (mains : List Path) : Prop :=
  ∃ m ∈ mains, ∃ m' ∈ mains, Shared mains m ∧ ¬ Shared mains m' ∧
    m'.label = m.label ++ "-" ++ pathDigest m

instance (mains : List Path) : Decidable (Lookalike mains) :=
  inferInstanceAs (Decidable (∃ m ∈ mains, ∃ m' ∈ mains, _))

theorem stem_of_shared (h : Shared mains m) : stem mains m = m.label ++ "-" ++ pathDigest m :=
  if_pos h

theorem stem_of_not_shared (h : ¬ Shared mains m) : stem mains m = m.label := if_neg h

theorem isName_stem (h : Path.IsName m.label) : Path.IsName (stem mains m) := by
  by_cases hs : Shared mains m
  · rw [stem_of_shared hs]
    constructor
    · intro he
      have hchars := congrArg String.toList he
      rw [String.toList_append, String.toList_append] at hchars
      exact absurd (List.append_eq_nil_iff.1 (List.append_eq_nil_iff.1 hchars).1).2 (by decide)
    · simp only [String.toList_append, List.mem_append, not_or]
      exact ⟨⟨h.2, by decide⟩, notMem_pathDigest (by decide) m⟩
  · rwa [stem_of_not_shared hs]

/-- A digest has no dash, so the last dash is the one in front of it. -/
theorem append_digest_inj (h : s ++ "-" ++ pathDigest m = t ++ "-" ++ pathDigest m') :
    s = t ∧ pathDigest m = pathDigest m' := by
  have hdash (p : Path) : '-' ∉ (pathDigest p).toList := notMem_pathDigest (by decide) p
  have hchars := congrArg String.toList h
  simp only [String.toList_append, List.append_assoc] at hchars
  obtain ⟨hfront, hback⟩ := Text.append_cons_inj_last (hdash m) (hdash m') hchars
  exact ⟨String.toList_inj.1 hfront, String.toList_inj.1 hback⟩

theorem shared_congr (h : m.label = m'.label) : Shared mains m ↔ Shared mains m' := by
  rw [Shared, Shared, h]

theorem shared_of_sublist (h : [m, m'].Sublist mains) (he : m.label = m'.label) : Shared mains m := by
  have hcount := h.countP_le (p := fun x : Path => decide (x.label = m.label))
  have htwo : [m, m'].countP (fun x : Path => decide (x.label = m.label)) = 2 := by simp [he]
  rw [Shared]
  omega

/-- Two binaries of a list have one stem if nothing tells them apart, or if one of them looks like
the other. -/
theorem stem_eq_iff (h : [m, m'].Sublist mains) :
    stem mains m = stem mains m' ↔
      (m.label = m'.label ∧ pathDigest m = pathDigest m') ∨
      (Shared mains m ∧ ¬ Shared mains m' ∧ m'.label = m.label ++ "-" ++ pathDigest m) ∨
      (Shared mains m' ∧ ¬ Shared mains m ∧ m.label = m'.label ++ "-" ++ pathDigest m') := by
  have hlabel (he : m.label = m'.label) : Shared mains m ∧ Shared mains m' :=
    ⟨shared_of_sublist h he, (shared_congr he).1 (shared_of_sublist h he)⟩
  by_cases hs : Shared mains m
  · by_cases hs' : Shared mains m'
    · rw [stem_of_shared hs, stem_of_shared hs']
      simp only [hs, hs', not_true, false_and, and_false, or_false]
      exact ⟨append_digest_inj, fun he => by rw [he.1, he.2]⟩
    · rw [stem_of_shared hs, stem_of_not_shared hs']
      have hne : m.label ≠ m'.label := fun he => hs' (hlabel he).2
      simp only [hs, hs', hne, false_and, not_false_eq_true, true_and, false_or, or_false]
      exact eq_comm
  · by_cases hs' : Shared mains m'
    · rw [stem_of_not_shared hs, stem_of_shared hs']
      have hne : m.label ≠ m'.label := fun he => hs (hlabel he).1
      simp only [hs, hs', hne, false_and, not_false_eq_true, true_and, false_or]
    · rw [stem_of_not_shared hs, stem_of_not_shared hs']
      have hne : m.label ≠ m'.label := fun he => hs (hlabel he).1
      simp only [hs, hs', hne, false_and, or_false]

theorem pairwise_stem_iff
    (hdigest : ∀ m ∈ mains, ∀ m' ∈ mains, pathDigest m = pathDigest m' → m.display = m'.display) :
    mains.Pairwise (fun m m' => stem mains m ≠ stem mains m') ↔
      mains.Pairwise (fun m m' => ¬ (m.label = m'.label ∧ m.display = m'.display)) ∧
        ¬ Lookalike mains := by
  constructor
  · intro hpair
    constructor
    · rw [List.pairwise_iff_forall_sublist] at hpair ⊢
      intro m m' h he
      refine hpair h ((stem_eq_iff h).2 (.inl ⟨he.1, ?_⟩))
      rw [pathDigest, pathDigest, he.2]
    · rintro ⟨m, hm, m', hm', hs, hs', hlabel⟩
      have hne : m ≠ m' := by
        rintro rfl
        exact hs' hs
      have : Std.Symm fun m m' => stem mains m ≠ stem mains m' := ⟨fun _ _ h => h.symm⟩
      have hstem := hpair.forall hm hm' hne
      rw [stem_of_shared hs, stem_of_not_shared hs'] at hstem
      exact hstem hlabel.symm
  · rintro ⟨hpair, hnone⟩
    rw [List.pairwise_iff_forall_sublist] at hpair ⊢
    intro m m' h he
    have hm : m ∈ mains := h.subset (by simp)
    have hm' : m' ∈ mains := h.subset (by simp)
    rcases (stem_eq_iff h).1 he with he | ⟨hs, hs', hlabel⟩ | ⟨hs, hs', hlabel⟩
    · exact hpair h ⟨he.1, hdigest m hm m' hm' he.2⟩
    · exact hnone ⟨m, hm, m', hm', hs, hs', hlabel⟩
    · exact hnone ⟨m', hm', m, hm, hs, hs', hlabel⟩

theorem pairwise_factFiles_iff (l : Layout) (hname : ∀ m ∈ mains, Path.IsName m.label) :
    (l.factFiles mains).Pairwise (fun f g => f.same g = false) ↔
      mains.Pairwise fun m m' => stem mains m ≠ stem mains m' := by
  rw [factFiles, List.pairwise_map]
  refine List.Pairwise.iff_of_mem fun {m m'} hm hm' => ?_
  rw [← Bool.not_eq_true]
  exact not_congr (l.place_same_iff (isName_stem (hname m hm)).2 (isName_stem (hname m' hm')).2)

theorem stem_eq_summary_iff :
    stem mains m = "run-summary" ↔ m.label = "run-summary" ∧ ¬ Shared mains m := by
  by_cases hs : Shared mains m
  · rw [stem_of_shared hs]
    simp only [hs, not_true, and_false, iff_false]
    intro he
    have hchars := congrArg String.toList he
    simp only [String.toList_append, List.append_assoc] at hchars
    have hsplit : "run-summary".toList = "run".toList ++ '-' :: "summary".toList := by decide
    have hdash : '-' ∉ (pathDigest m).toList := notMem_pathDigest (by decide) m
    rw [hsplit] at hchars
    have hdigest := (Text.append_cons_inj_last hdash (by decide) hchars).2
    have hlength := congrArg List.length hdigest
    rw [length_pathDigest] at hlength
    exact absurd hlength (by decide)
  · rw [stem_of_not_shared hs]
    simp only [hs, not_false_eq_true, and_true]

theorem exists_stem_eq_summary_iff :
    (∃ m ∈ mains, stem mains m = "run-summary") ↔ mains.countP (·.label = "run-summary") = 1 := by
  simp only [stem_eq_summary_iff, Shared]
  constructor
  · rintro ⟨m, hm, hlabel, hcount⟩
    rw [hlabel] at hcount
    have hpos : 0 < mains.countP (·.label = "run-summary") :=
      List.countP_pos_iff.2 ⟨m, hm, decide_eq_true hlabel⟩
    omega
  · intro hcount
    obtain ⟨m, hm, hlabel⟩ := List.countP_pos_iff.1 (hcount ▸ Nat.one_pos)
    have hlabel := of_decide_eq_true hlabel
    refine ⟨m, hm, hlabel, ?_⟩
    rw [hlabel, hcount]
    exact Nat.lt_irrefl 1

theorem exists_factFile_same_summary_iff (l : Layout) (hname : ∀ m ∈ mains, Path.IsName m.label) :
    (∃ f ∈ l.factFiles mains, f.same l.summary = true) ↔
      mains.countP (·.label = "run-summary") = 1 ∧
        (Path.ofString l.extension).same (Path.ofString "json") = true := by
  have hplace {m : Path} (hm : m ∈ mains) : (l.factFile mains m).same l.summary = true ↔
      stem mains m = "run-summary" ∧ (Path.ofString l.extension).same (Path.ofString "json") = true :=
    l.place_same_summary_iff (isName_stem (hname m hm))
  rw [← exists_stem_eq_summary_iff]
  constructor
  · rintro ⟨f, hf, hsame⟩
    obtain ⟨m, hm, rfl⟩ := List.mem_map.1 hf
    obtain ⟨hstem, hjson⟩ := (hplace hm).1 hsame
    exact ⟨⟨m, hm, hstem⟩, hjson⟩
  · rintro ⟨⟨m, hm, hstem⟩, hjson⟩
    exact ⟨_, List.mem_map_of_mem hm, (hplace hm).2 ⟨hstem, hjson⟩⟩

end Layout

end ElfFacts
