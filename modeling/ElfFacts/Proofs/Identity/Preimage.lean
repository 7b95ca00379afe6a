import ElfFacts.Identity
import ElfFacts.Proofs.Debug.Canonical

/-!
# Digested texts can be read back

The text that is digested for an entry has no separators between its parts. Yet a path with a slash
in it shows where the canonical text ends, and the parent is told from the offset of the unit by its
length: an offset has at most twenty digits, an identity thirty-two.
-/
namespace ElfFacts.Identity

open Text

variable {path : String} {d e : DebugEntry} {m n : UInt64} {p q : Option Identity}

def Named (i : Identity) : Prop := ∃ path n e p, i = ofEntry path n e p

theorem Named.length_digits {i : Identity} (h : Named i) : i.digits.toList.length = 32 := by
  obtain ⟨path, n, e, p, rfl⟩ := h
  rw [ofEntry, ofText, length_hexOctets, List.length_take, Sha256.length_digest]
  rfl

theorem Named.isDigits {i : Identity} (h : Named i) : IsDigits i.digits.toList := by
  obtain ⟨path, n, e, p, rfl⟩ := h
  exact isDigits_hexOctets _

def parentChars (p : Option Identity) : List Char := (p.map (·.digits.toList)).getD []

theorem isDigits_parentChars (hp : ∀ i ∈ p, Named i) : IsDigits (parentChars p) := by
  cases p with
  | none => exact isDigits_nil
  | some i => exact (hp i rfl).isDigits

theorem parentChars_inj (h : parentChars p = parentChars q) (hp : ∀ i ∈ p, Named i)
    (hq : ∀ i ∈ q, Named i) : p = q := by
  cases p with
  | none =>
    cases q with
    | none => rfl
    | some j =>
      have hlength := congrArg List.length h
      have hj : (parentChars (some j)).length = 32 := (hq j rfl).length_digits
      rw [hj] at hlength
      cases hlength
  | some i =>
    cases q with
    | none =>
      have hlength := congrArg List.length h
      have hi : (parentChars (some i)).length = 32 := (hp i rfl).length_digits
      rw [hi] at hlength
      cases hlength
    | some j =>
      have hdigits : i.digits = j.digits := String.toList_inj.1 h
      cases i
      cases j
      exact congrArg (some ∘ Identity.mk) hdigits

/-- The offset of a unit is too short to hide an identity. -/
theorem length_parentChars (hp : ∀ i ∈ p, Named i) :
    (parentChars p).length = 0 ∨ (parentChars p).length = 32 := by
  cases p with
  | none => exact .inl rfl
  | some i => exact .inr (hp i rfl).length_digits

theorem offset_parent_inj (hp : ∀ i ∈ p, Named i) (hq : ∀ i ∈ q, Named i)
    (h : (toString m.toNat).toList ++ parentChars p = (toString n.toNat).toList ++ parentChars q) :
    m = n ∧ p = q := by
  have hlength : (parentChars p).length = (parentChars q).length := by
    have hsum := congrArg List.length h
    rw [List.length_append, List.length_append] at hsum
    have hm := length_toString_le m
    have hn := length_toString_le n
    rcases length_parentChars hp with hp | hp <;>
      rcases length_parentChars hq with hq | hq <;> omega
  obtain ⟨hoffset, hparent⟩ := List.append_inj' h hlength
  exact ⟨UInt64.toNat_inj.1 (toList_toString_inj hoffset), parentChars_inj hparent hp hq⟩

/-- Entries of one binary whose digested texts agree have the same unit offset, the same parent and
the same content. -/
theorem preimage_unambiguous (hpath : '/' ∈ path.toList) (hd : d.Plain) (he : e.Plain)
    (hp : ∀ i ∈ p, Named i) (hq : ∀ i ∈ q, Named i)
    (h : (preimage path m d p).toUTF8 = (preimage path n e q).toUTF8) :
    m = n ∧ p = q ∧ d.tag = e.tag ∧ d.offset = e.offset ∧ d.size = e.size ∧
      d.children.isEmpty = e.children.isEmpty ∧ d.attributes = e.attributes := by
  have hchars : preimageChars path m d p = preimageChars path n e q := by
    have htext := congrArg String.toList (String.toByteArray_inj.1 h)
    rwa [preimage, preimage, String.toList_ofList, String.toList_ofList] at htext
  obtain ⟨front, back, hsplit, hback⟩ := exists_last_split hpath
  have htail (k : UInt64) {r : Option Identity} (hr : ∀ i ∈ r, Named i) :
      '/' ∉ back ++ ((toString k.toNat).toList ++ parentChars r) := by
    have hoffset : '/' ∉ (toString k.toNat).toList := (isDigits_toString _).notMem (by decide)
    have hparent : '/' ∉ parentChars r := (isDigits_parentChars hr).notMem (by decide)
    simp only [List.mem_append, not_or]
    exact ⟨hback, hoffset, hparent⟩
  have hform (k : UInt64) (x : DebugEntry) (r : Option Identity) : preimageChars path k x r =
      (x.canonicalChars ++ front) ++
        '/' :: (back ++ ((toString k.toNat).toList ++ parentChars r)) := by
    rw [preimageChars, hsplit, parentChars]
    simp only [List.append_assoc, List.cons_append]
  rw [hform, hform] at hchars
  obtain ⟨hhead, hrest⟩ := append_cons_inj_last (htail m hp) (htail n hq) hchars
  obtain ⟨hoffset, hparent⟩ := offset_parent_inj hp hq (List.append_cancel_left hrest)
  exact ⟨hoffset, hparent, DebugEntry.canonicalChars_inj hd he (List.append_cancel_right hhead)⟩

/-- Two functions that have one child each, though not the same. -/
def function (child : Nat) : DebugEntry where
  offset := 42
  tag := "DW_TAG_subprogram"
  attributes := [(atName, .text "a\nb\"/c"), ("DW_AT_decl_line", .unsigned 7)]
  parent := some 0
  children := #[child]

theorem plain_function (child : Nat) : (function child).Plain where
  tag := by
    change ' ' ∉ (function 0).tag.toList
    decide
  names := by
    change ∀ a ∈ (function 0).attributes, '=' ∉ a.1.toList ∧ '\n' ∉ a.1.toList
    decide
  values := by
    intro a ha
    simp only [function, List.mem_cons, List.not_mem_nil, or_false] at ha
    rcases ha with rfl | rfl <;> exact True.intro

theorem canonicalChars_function (child : Nat) :
    (function child).canonicalChars = (function 0).canonicalChars := rfl

def unit : DebugEntry where
  offset := 11
  tag := "DW_TAG_compile_unit"
  attributes := []
  children := #[1]

theorem preimage_function :
    (preimage "/a" 0 (function 2) (some (ofEntry "/a" 0 unit none))).toUTF8 =
        (preimage "/a" 0 (function 3) (some (ofEntry "/a" 0 unit none))).toUTF8 ∧
      (function 2).children.isEmpty = (function 3).children.isEmpty ∧
      (function 2).attributes = (function 3).attributes := by
  have hparent : ∀ i ∈ some (ofEntry "/a" 0 unit none), Named i := by
    intro i hi
    exact ⟨"/a", 0, unit, none, (Option.some.inj hi).symm⟩
  have htext : (preimage "/a" 0 (function 2) (some (ofEntry "/a" 0 unit none))).toUTF8 =
      (preimage "/a" 0 (function 3) (some (ofEntry "/a" 0 unit none))).toUTF8 := by
    unfold preimage preimageChars
    rw [canonicalChars_function 2, canonicalChars_function 3]
  obtain ⟨-, -, -, -, -, hchildren, hattributes⟩ :=
    preimage_unambiguous (by decide) (plain_function 2) (plain_function 3) hparent hparent htext
  exact ⟨htext, hchildren, hattributes⟩

end ElfFacts.Identity
