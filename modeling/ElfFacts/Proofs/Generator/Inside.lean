import ElfFacts.Proofs.Generator.FileNames
import ElfFacts.Proofs.Path.Parent
import ElfFacts.Proofs.Text.Decoded

/-!
# Fact files and the output directory

A fact file is in the output directory if the label of its main binary is a name. A binary whose own
name is unreadable is labelled by its whole path, and the separators of that path lead elsewhere.
-/
namespace ElfFacts

namespace Path

variable {p : Path} {piece : List UInt8}

theorem toList_display (p : Path) :
    p.display.toList = (Utf8.decode p.octets).map (·.getD Utf8.replacement) := by
  rw [display, Utf8.lossy, String.toList_ofList]

theorem slash_mem_octets_iff (p : Path) : '/' ∈ p.display.toList ↔ slash ∈ p.octets := by
  rw [toList_display]
  constructor
  · intro h
    obtain ⟨o, ho, hslash⟩ := List.mem_map.1 h
    rw [Utf8.getD_replacement_eq (by decide)] at hslash
    exact Utf8.mem_of_mem_decodeFrom (s := .start) (c := '/') trivial ⟨by decide, by decide⟩
      (hslash ▸ ho)
  · intro h
    exact List.mem_map.2 ⟨some '/', Utf8.mem_decodeFrom (s := .start) trivial (by decide) h, rfl⟩

theorem octets_ne_nil (h : p.fileName? = some piece) : p.octets ≠ [] := by
  intro hnil
  rw [fileName?, lead, hnil] at h
  cases h

theorem label_of_unreadable (h : p.fileName?.bind Utf8.strictString = none) :
    p.label = p.display := by
  rw [label, h]

theorem display_ne_empty (h : p.octets ≠ []) : p.display ≠ "" := by
  intro hempty
  have hchars := congrArg String.toList hempty
  rw [toList_display] at hchars
  exact h (Utf8.decodeFrom_eq_nil (List.map_eq_nil_iff.1 hchars)).2

theorem display_ne_dot (h : p.fileName? = some piece) : p.display ≠ "." := by
  intro hdot
  have hchars := congrArg String.toList hdot
  rw [toList_display] at hchars
  obtain ⟨o, ho, hc⟩ := List.map_eq_singleton_iff.1 hchars
  rw [Utf8.getD_replacement_eq (by decide)] at hc
  have hoctets : p.octets = [dot] :=
    Utf8.eq_singleton_of_decode (c := '.') ⟨by decide, by decide⟩ (hc ▸ ho)
  rw [fileName?, lead, hoctets] at h
  cases h

theorem label_ne_empty (h : p.fileName? = some piece) : p.label ≠ "" := by
  cases hread : p.fileName?.bind Utf8.strictString with
  | none =>
    rw [label_of_unreadable hread]
    exact display_ne_empty (octets_ne_nil h)
  | some name => exact (isName_label hread).1

theorem label_ne_dot (h : p.fileName? = some piece) : p.label ≠ "." := by
  cases hread : p.fileName?.bind Utf8.strictString with
  | none =>
    rw [label_of_unreadable hread]
    exact display_ne_dot h
  | some name =>
    have hlabel : p.label = name := by rw [label, hread]
    rw [h, Option.bind_some] at hread
    have hfiller := (mem_of_fileName h).1
    rw [hlabel]
    rintro rfl
    have hdot : piece = [dot] :=
      Utf8.eq_singleton_of_strictString (c := '.') ⟨by decide, by decide⟩ hread rfl
    rw [hdot] at hfiller
    cases hfiller

theorem isName_label_iff (h : p.fileName? = some piece) :
    IsName p.label ↔ (p.fileName?.bind Utf8.strictString).isSome ∨ slash ∉ p.octets := by
  cases hread : p.fileName?.bind Utf8.strictString with
  | none =>
    rw [label_of_unreadable hread, IsName, slash_mem_octets_iff]
    simp [display_ne_empty (octets_ne_nil h)]
  | some name => simp [isName_label hread]

theorem nil_join (q : Path) : (⟨[]⟩ : Path).join q = q := by
  unfold join
  split
  · rfl
  · rw [if_pos (.inl rfl), List.nil_append]

end Path

namespace Layout

variable {mains : List Path} {m : Path}

theorem mem_stem {c : Char} (h : c ∈ m.label.toList) : c ∈ (stem mains m).toList := by
  unfold stem
  split
  · simp [h]
  · exact h

theorem stem_ne_dot (h : m.label ≠ ".") : stem mains m ≠ "." := by
  by_cases hs : Shared mains m
  · rw [stem_of_shared hs]
    intro he
    have hlength := congrArg (·.toList.length) he
    simp only [String.toList_append, List.length_append, length_pathDigest] at hlength
    have hone : ".".toList.length = 1 := by decide
    omega
  · rwa [stem_of_not_shared hs]

theorem place_isEntryOf (l : Layout) {s : String} (hname : Path.IsName s) (hdot : s ≠ ".")
    (hext : '/' ∉ l.extension.toList) : (l.place s).IsEntryOf l.outDir := by
  have hslash : '/' ∉ (s ++ "." ++ l.extension).toList := by
    simp only [String.toList_append, List.mem_append, not_or]
    exact ⟨⟨hname.2, by decide⟩, hext⟩
  have hoctets : Utf8.encode (s ++ "." ++ l.extension) =
      Utf8.encode s ++ Path.dot :: Utf8.encode l.extension := by
    have hone : Utf8.encode "." = [Path.dot] := by decide
    rw [Utf8.encode_append, Utf8.encode_append, hone, List.append_assoc, List.singleton_append]
  have hne : Utf8.encode s ≠ [] := fun h => hname.1 (Utf8.encode_inj h)
  have hne' : Utf8.encode s ≠ [Path.dot] := fun h => hdot (Utf8.encode_inj h)
  obtain ⟨b, r, hb⟩ := List.exists_cons_of_ne_nil hne
  refine Path.isEntryOf_join l.outDir (Path.slash_notMem_encode hslash) ?_ ?_
  · rw [hoctets, hb]
    simp [Path.isFiller]
  · rw [hoctets]
    intro he
    rw [hb, List.cons_append, List.cons_eq_cons] at he
    cases r with
    | nil => exact hne' (by rw [hb, he.1])
    | cons b' r => exact absurd he.2 (by simp)

theorem place_not_isEntryOf {s : String} (hslash : '/' ∈ s.toList) :
    ¬ (place ⟨⟨[]⟩, "lp"⟩ s).IsEntryOf ⟨[]⟩ := by
  have hmem : Path.slash ∈ Utf8.encode (s ++ "." ++ "lp") := by
    refine Utf8.mem_encode (c := '/') ?_ (by decide)
    simp [hslash]
  have hlast : (Utf8.encode (s ++ "." ++ "lp")).getLast? = some 0x70 := by
    have hend : Utf8.encode "lp" = [0x6C, 0x70] := by decide
    rw [Utf8.encode_append, hend, List.getLast?_append]
    rfl
  obtain ⟨above, name, hsplit, hname⟩ := Text.exists_last_split hmem
  have hfiller : Path.isFiller name = false := by
    by_contra hfiller
    have hends : name = [] ∨ name = [Path.dot] := by
      rwa [Bool.not_eq_false, Path.isFiller, Bool.or_eq_true, decide_eq_true_iff,
        decide_eq_true_iff] at hfiller
    rw [hsplit, List.getLast?_append] at hlast
    rcases hends with rfl | rfl <;> cases hlast
  rw [place, Path.nil_join, Path.ofString, hsplit]
  exact Path.not_isEntryOf_nil hname hfiller

/-- Every fact file is in the output directory, whatever that is, if and only if every main binary
has a readable name or a path without separators. -/
theorem factFiles_inside_iff (hnames : ∀ m ∈ mains, ∃ name, m.fileName? = some name) :
    (∀ l : Layout, '/' ∉ l.extension.toList →
        ∀ f ∈ l.factFiles mains, f.IsEntryOf l.outDir) ↔
      ∀ m ∈ mains, (m.fileName?.bind Utf8.strictString).isSome ∨ Path.slash ∉ m.octets := by
  constructor
  · intro hinside m hm
    obtain ⟨name, hname⟩ := hnames m hm
    have hentry := hinside ⟨⟨[]⟩, "lp"⟩ (by decide) _ (List.mem_map_of_mem hm)
    refine (Path.isName_label_iff hname).1 ⟨Path.label_ne_empty hname, fun hslash => ?_⟩
    exact place_not_isEntryOf (mem_stem hslash) hentry
  · intro hread l hext f hf
    obtain ⟨m, hm, rfl⟩ := List.mem_map.1 hf
    obtain ⟨name, hname⟩ := hnames m hm
    have hlabel := (Path.isName_label_iff hname).2 (hread m hm)
    exact l.place_isEntryOf (isName_stem hlabel) (stem_ne_dot (Path.label_ne_dot hname)) hext

/-- A binary whose name is no text. -/
def unreadable : Path := ⟨[0x2F, 0x62, 0x69, 0x6E, 0x2F, 0xFF]⟩

theorem factFiles_inside_iff_unreadable :
    (∀ m ∈ [unreadable], ∃ name, m.fileName? = some name) ∧
      ¬ ∀ l : Layout, '/' ∉ l.extension.toList →
        ∀ f ∈ l.factFiles [unreadable], f.IsEntryOf l.outDir := by
  have hnames : ∀ m ∈ [unreadable], ∃ name, m.fileName? = some name := by
    intro m hm
    rw [List.mem_singleton.1 hm]
    exact ⟨[0xFF], by decide⟩
  refine ⟨hnames, fun hinside => ?_⟩
  have hread := (factFiles_inside_iff hnames).1 hinside unreadable (List.mem_singleton_self _)
  exact absurd hread (by decide)

/-- The file of such a binary is put next to the binary. -/
theorem factFiles_outside :
    '/' ∉ "lp".toList ∧ unreadable.fileName? = some [0xFF] ∧
      factFiles ⟨.ofString "out", "lp"⟩ [unreadable] = [.ofString "/bin/\uFFFD.lp"] ∧
      ¬ (Path.ofString "/bin/\uFFFD.lp").IsEntryOf (.ofString "out") := by
  refine ⟨by decide, by decide, by decide, fun hentry => ?_⟩
  obtain ⟨name, hparts⟩ := Path.isEntryOf_iff.1 hentry
  have hroot : some Path.Part.root = some (.name (Utf8.encode "out")) := congrArg List.head? hparts
  exact absurd hroot (by decide)

end Layout

end ElfFacts
