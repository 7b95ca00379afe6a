import ElfFacts.Proofs.Debug.Delimited
import ElfFacts.Proofs.Identity.Preimage

/-!
# Digested texts of different binaries

The path in a digested text begins with a slash, which ends the canonical text before it. Nothing
marks its end: the offset of the unit and the parent follow at once. So two binaries can share a
digested text, but only if one path is the other with some of these digits appended.
-/
namespace ElfFacts.Identity

open Text

variable {path path' : String} {d e : DebugEntry} {m n : UInt64} {p q : Option Identity}

def placeChars (m : UInt64) (p : Option Identity) : List Char :=
  (toString m.toNat).toList ++ parentChars p

theorem isDigits_placeChars (hp : ∀ i ∈ p, Named i) : IsDigits (placeChars m p) :=
  (isDigits_toString _).append (isDigits_parentChars hp)

theorem toUTF8_preimage_eq_iff :
    (preimage path m d p).toUTF8 = (preimage path' n e q).toUTF8 ↔
      preimageChars path m d p = preimageChars path' n e q := by
  constructor
  · intro h
    have htext := congrArg String.toList (String.toByteArray_inj.1 h)
    rwa [preimage, preimage, String.toList_ofList, String.toList_ofList] at htext
  · intro h
    rw [preimage, preimage, h]

theorem preimageChars_eq : preimageChars path m d p =
    d.canonicalChars ++ (path.toList ++ placeChars m p) := by
  simp only [preimageChars, placeChars, parentChars, List.append_assoc]

/-- The longer path ends in digits that are digested after the shorter one. -/
def Overlaps (path : String) (m : UInt64) (p : Option Identity) (path' : String) (n : UInt64)
    (q : Option Identity) : Prop :=
  ∃ ds, ds ≠ [] ∧ IsDigits ds ∧ path'.toList = path.toList ++ ds ∧
    placeChars m p = ds ++ placeChars n q

theorem Overlaps.append_eq (h : Overlaps path m p path' n q) :
    path.toList ++ placeChars m p = path'.toList ++ placeChars n q := by
  obtain ⟨ds, -, -, hpath, hplace⟩ := h
  rw [hpath, hplace, List.append_assoc]

theorem overlaps_of_append_eq {ds : List Char} (hne : path ≠ path') (hp : ∀ i ∈ p, Named i)
    (hpath : path'.toList = path.toList ++ ds) (hplace : placeChars m p = ds ++ placeChars n q) :
    Overlaps path m p path' n q := by
  refine ⟨ds, ?_, ?_, hpath, hplace⟩
  · rintro rfl
    exact hne (String.toList_inj.1 (by rw [hpath, List.append_nil]))
  · intro c hc
    exact isDigits_placeChars hp c (hplace ▸ List.mem_append_left _ hc)

/-- The digested texts of entries of two binaries agree only if the entries have one content and one
path is the other with digits at its end, which the other binary has in its offset and its parent. -/
theorem preimage_eq_iff (hpath : path.toList.head? = some '/')
    (hpath' : path'.toList.head? = some '/') (hne : path ≠ path') (hd : d.Delimited)
    (he : e.Delimited) (hp : ∀ i ∈ p, Named i) (hq : ∀ i ∈ q, Named i) :
    (preimage path m d p).toUTF8 = (preimage path' n e q).toUTF8 ↔
      d.canonical = e.canonical ∧
        (Overlaps path m p path' n q ∨ Overlaps path' n q path m p) := by
  rw [toUTF8_preimage_eq_iff, preimageChars_eq, preimageChars_eq]
  constructor
  · intro h
    obtain ⟨back, hback⟩ := List.head?_eq_some_iff.1 hpath
    obtain ⟨back', hback'⟩ := List.head?_eq_some_iff.1 hpath'
    rw [hback, hback', List.cons_append, List.cons_append] at h
    obtain ⟨hcanonical, hrest⟩ := DebugEntry.canonicalChars_append_inj hd he h
    refine ⟨congrArg String.ofList hcanonical, ?_⟩
    have hwhole : path.toList ++ placeChars m p = path'.toList ++ placeChars n q := by
      rw [hback, hback', List.cons_append, List.cons_append, hrest]
    rcases List.append_eq_append_iff.1 hwhole with ⟨ds, hlonger, hplace⟩ | ⟨ds, hlonger, hplace⟩
    · exact .inl (overlaps_of_append_eq hne hp hlonger hplace)
    · exact .inr (overlaps_of_append_eq hne.symm hq hlonger hplace)
  · rintro ⟨hcanonical, hoverlaps⟩
    have hwhole : path.toList ++ placeChars m p = path'.toList ++ placeChars n q :=
      hoverlaps.elim Overlaps.append_eq fun h => h.append_eq.symm
    rw [hwhole, String.ofList_inj.1 hcanonical]

def source : DebugEntry where
  offset := 11
  tag := "DW_TAG_compile_unit"
  attributes := [(atName, .text "zlib.c")]

theorem delimited_source : source.Delimited where
  tag := by decide
  names := by decide
  values := by
    intro a ha
    rw [List.mem_singleton.1 ha]
    exact True.intro

theorem preimage_libraries : (preimage "/lib/libz.so.1" 20 source none).toUTF8 ≠
    (preimage "/lib/libc.so.6" 0 source none).toUTF8 := by
  intro h
  have hnone : ∀ i ∈ (none : Option Identity), Named i := fun i hi => nomatch hi
  obtain ⟨-, ⟨ds, -, -, hlonger, -⟩ | ⟨ds, -, -, hlonger, -⟩⟩ :=
    (preimage_eq_iff (by decide) (by decide) (by decide) delimited_source delimited_source hnone
      hnone).1 h
  · exact absurd (hlonger ▸ List.prefix_append _ ds) (by decide : ¬ _ <+: _)
  · exact absurd (hlonger ▸ List.prefix_append _ ds) (by decide : ¬ _ <+: _)

def located (text : String) : DebugEntry where
  offset := 11
  tag := "DW_TAG_subprogram"
  attributes := [("DW_AT_low_pc", .other text)]
  children := #[1]

/-- Two libraries share the text of a unit whose offset goes on with the digit that one path has more,
and a slash at the end of a raw text can be taken for the first of a path. -/
theorem preimage_shared :
    ("/lib/libz.so.1" ≠ "/lib/libz.so.12" ∧ (preimage "/lib/libz.so.1" 20 source none).toUTF8 =
      (preimage "/lib/libz.so.12" 0 source none).toUTF8) ∧
    ("/a" ≠ "//a" ∧ (preimage "/a" 0 (located "/") none).toUTF8 =
      (preimage "//a" 0 (located "") none).toUTF8) :=
  ⟨⟨by decide, toUTF8_preimage_eq_iff.2 (by decide)⟩,
    ⟨by decide, toUTF8_preimage_eq_iff.2 (by decide)⟩⟩

end ElfFacts.Identity
