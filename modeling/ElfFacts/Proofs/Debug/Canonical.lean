import ElfFacts.Debug.Entry
import ElfFacts.Proofs.Text.Quoted

/-!
# Canonical texts can be read back

The canonical text of an entry is a head line with fields between spaces, and a line for every
attribute. Where tags, names and raw texts leave out the separators, the text says what the tag, the
offset, the size and the attributes are, and whether there are children.
-/
namespace ElfFacts

open Text

namespace Value

inductive Kind where
  | text
  | unsigned
  | signed
  | flag
  | unitRef
  | infoRef
  | other
  deriving DecidableEq

def Kind.chars : Kind → List Char
  | .text => "str".toList
  | .unsigned => "udata".toList
  | .signed => "sdata".toList
  | .flag => "flag".toList
  | .unitRef => "ref".toList
  | .infoRef => "ref_addr".toList
  | .other => "other".toList

theorem Kind.chars_inj {j k : Kind} (h : j.chars = k.chars) : j = k := by
  cases j <;> cases k <;> first | rfl | exact absurd h (by decide)

theorem Kind.colon_notMem_chars (k : Kind) : ':' ∉ k.chars := by
  cases k <;> decide

theorem Kind.newline_notMem_chars (k : Kind) : '\n' ∉ k.chars := by
  cases k <;> decide

def kind : Value → Kind
  | .text _ => .text
  | .unsigned _ => .unsigned
  | .signed _ => .signed
  | .flag _ => .flag
  | .unitRef _ => .unitRef
  | .infoRef _ => .infoRef
  | .other _ => .other

def payloadChars : Value → List Char
  | .text s => quotedChars s.toList
  | .unsigned n => (toString n.toNat).toList
  | .signed n => (toString n.toInt).toList
  | .flag b => (if b then "true" else "false").toList
  | .unitRef n => (hex n.toNat).toList
  | .infoRef n => (hex n.toNat).toList
  | .other s => s.toList

theorem chars_eq (v : Value) : v.chars = v.kind.chars ++ ':' :: v.payloadChars := by
  cases v <;> rfl

/-- Texts that are shown as they are stay on one line. -/
def OneLine : Value → Prop
  | .other s => '\n' ∉ s.toList
  | _ => True

theorem newline_notMem_chars {v : Value} (hv : v.OneLine) : '\n' ∉ v.chars := by
  have hkind : '\n' ∉ v.kind.chars := v.kind.newline_notMem_chars
  have hpayload : '\n' ∉ v.payloadChars := by
    cases v with
    | text s => exact newline_notMem_quotedChars _
    | unsigned n => exact (isDigits_toString _).notMem (by decide)
    | signed n => exact notMem_toString (by decide) _
    | flag b => cases b <;> decide
    | unitRef n => exact notMem_hex (by decide) _
    | infoRef n => exact notMem_hex (by decide) _
    | other s => exact hv
  rw [chars_eq]
  simp [hkind, hpayload]

theorem eq_of_payload {v w : Value} (hkind : v.kind = w.kind)
    (hpayload : v.payloadChars = w.payloadChars) : v = w := by
  cases v <;> cases w <;> cases hkind
  case text.text.refl s t => rw [String.toList_inj.1 (quotedChars_inj hpayload)]
  case unsigned.unsigned.refl m n => rw [UInt64.toNat_inj.1 (toList_toString_inj hpayload)]
  case signed.signed.refl m n =>
    rw [Int64.toInt_inj.1 (Int.repr_injective (String.toList_inj.1 hpayload))]
  case flag.flag.refl a b =>
    cases a <;> cases b <;> first | rfl | exact absurd hpayload (by decide)
  case unitRef.unitRef.refl m n => rw [UInt64.toNat_inj.1 (toList_hex_inj hpayload)]
  case infoRef.infoRef.refl m n => rw [UInt64.toNat_inj.1 (toList_hex_inj hpayload)]
  case other.other.refl s t => rw [String.toList_inj.1 hpayload]

theorem chars_inj {v w : Value} (h : v.chars = w.chars) : v = w := by
  rw [chars_eq, chars_eq] at h
  obtain ⟨hkind, hpayload⟩ :=
    append_cons_inj v.kind.colon_notMem_chars w.kind.colon_notMem_chars h
  exact eq_of_payload (Kind.chars_inj hkind) hpayload

end Value

namespace DebugEntry

/-- No tag, name or raw text contains the character that ends it in the canonical text. -/
structure Plain (e : DebugEntry) : Prop where
  tag : ' ' ∉ e.tag.toList
  names : ∀ a ∈ e.attributes, '=' ∉ a.1.toList ∧ '\n' ∉ a.1.toList
  values : ∀ a ∈ e.attributes, a.2.OneLine

def attributeLine (a : String × Value) : List Char := a.1.toList ++ '=' :: a.2.chars

theorem newline_notMem_attributeLine {a : String × Value} (hname : '\n' ∉ a.1.toList)
    (hvalue : a.2.OneLine) : '\n' ∉ attributeLine a := by
  simp [attributeLine, hname, Value.newline_notMem_chars hvalue]

theorem attributeLine_inj {a b : String × Value} (ha : '=' ∉ a.1.toList) (hb : '=' ∉ b.1.toList)
    (h : attributeLine a = attributeLine b) : a = b := by
  obtain ⟨hname, hvalue⟩ := append_cons_inj ha hb h
  exact Prod.ext (String.toList_inj.1 hname) (Value.chars_inj hvalue)

theorem map_attributeLine_inj {as bs : List (String × Value)} (ha : ∀ a ∈ as, '=' ∉ a.1.toList)
    (hb : ∀ b ∈ bs, '=' ∉ b.1.toList) (h : as.map attributeLine = bs.map attributeLine) :
    as = bs := by
  induction as generalizing bs with
  | nil => exact (List.map_eq_nil_iff.1 h.symm).symm
  | cons a as ih =>
    cases bs with
    | nil => cases h
    | cons b bs =>
      obtain ⟨hline, hrest⟩ := List.cons_eq_cons.1 h
      rw [attributeLine_inj (ha a (List.mem_cons_self ..)) (hb b (List.mem_cons_self ..)) hline,
        ih (fun x hx => ha x (List.mem_cons_of_mem a hx))
          (fun x hx => hb x (List.mem_cons_of_mem b hx)) hrest]

theorem sizeChars_inj {m n : Option UInt64} (h : sizeChars m = sizeChars n) : m = n := by
  cases m with
  | none =>
    cases n with
    | none => rfl
    | some n => cases h
  | some m =>
    cases n with
    | none => cases h
    | some n =>
      have hdigits := List.append_cancel_left (List.append_cancel_right h)
      rw [UInt64.toNat_inj.1 (toList_toString_inj hdigits)]

theorem space_notMem_sizeChars (n : Option UInt64) : ' ' ∉ sizeChars n := by
  cases n with
  | none => decide
  | some n =>
    intro h
    rcases List.mem_append.1 h with h | h
    · rcases List.mem_append.1 h with h | h
      · exact absurd h (by decide)
      · exact (isDigits_toString _).notMem (by decide) h
    · exact absurd h (by decide)

def childrenChars (e : DebugEntry) : List Char :=
  (if e.children.isEmpty then "false" else "true").toList

theorem newline_notMem_childrenChars (e : DebugEntry) : '\n' ∉ e.childrenChars := by
  unfold childrenChars
  split <;> decide

theorem childrenChars_inj {d e : DebugEntry} (h : d.childrenChars = e.childrenChars) :
    d.children.isEmpty = e.children.isEmpty := by
  unfold childrenChars at h
  cases hd : d.children.isEmpty <;> cases he : e.children.isEmpty <;> rw [hd, he] at h <;>
    first | rfl | exact absurd h (by decide)

def fieldChars (e : DebugEntry) (rest : List Char) : List Char :=
  "DIE ".toList ++ (e.tag.toList ++ ' ' :: ("offset=".toList ++
    ((hex e.offset.toNat).toList ++ ' ' :: ("size=".toList ++
      (sizeChars e.size ++ ' ' :: ("has_children=".toList ++ rest))))))

theorem canonicalChars_eq (e : DebugEntry) :
    e.canonicalChars = e.fieldChars
      (e.childrenChars ++ (e.attributes.map attributeLine).flatMap ('\n' :: ·)) := by
  have hlines : e.attributes.flatMap attributeChars =
      (e.attributes.map attributeLine).flatMap ('\n' :: ·) := by
    rw [List.flatMap_map]
    rfl
  have hoffset : " offset=".toList = ' ' :: "offset=".toList := rfl
  have hsize : " size=".toList = ' ' :: "size=".toList := rfl
  have hchildren : " has_children=".toList = ' ' :: "has_children=".toList := rfl
  unfold canonicalChars childrenChars fieldChars
  rw [hlines, hoffset, hsize, hchildren]
  simp only [List.append_assoc, List.cons_append]

theorem fieldChars_inj {d e : DebugEntry} {r r' : List Char} (hd : ' ' ∉ d.tag.toList)
    (he : ' ' ∉ e.tag.toList) (h : d.fieldChars r = e.fieldChars r') :
    d.tag = e.tag ∧ d.offset = e.offset ∧ d.size = e.size ∧ r = r' := by
  have hspace (n : Nat) : ' ' ∉ (hex n).toList := notMem_hex (by decide) n
  obtain ⟨htag, h⟩ := append_cons_inj hd he (List.append_cancel_left h)
  obtain ⟨hoffset, h⟩ := append_cons_inj (hspace _) (hspace _) (List.append_cancel_left h)
  obtain ⟨hsize, h⟩ := append_cons_inj (space_notMem_sizeChars _) (space_notMem_sizeChars _)
    (List.append_cancel_left h)
  exact ⟨String.toList_inj.1 htag, UInt64.toNat_inj.1 (toList_hex_inj hoffset),
    sizeChars_inj hsize, List.append_cancel_left h⟩

theorem canonicalChars_inj {d e : DebugEntry} (hd : d.Plain) (he : e.Plain)
    (h : d.canonicalChars = e.canonicalChars) :
    d.tag = e.tag ∧ d.offset = e.offset ∧ d.size = e.size ∧
      d.children.isEmpty = e.children.isEmpty ∧ d.attributes = e.attributes := by
  rw [canonicalChars_eq, canonicalChars_eq] at h
  obtain ⟨htag, hoffset, hsize, h⟩ := fieldChars_inj hd.tag he.tag h
  obtain ⟨hchildren, h⟩ := append_inj_of_stops d.newline_notMem_childrenChars
    e.newline_notMem_childrenChars (stops_flatMap _) (stops_flatMap _) h
  have hline {x : DebugEntry} (hx : x.Plain) : ∀ l ∈ x.attributes.map attributeLine, '\n' ∉ l := by
    intro l hl
    obtain ⟨a, ha, rfl⟩ := List.mem_map.1 hl
    exact newline_notMem_attributeLine (hx.names a ha).2 (hx.values a ha)
  have hlines := flatMap_cons_inj (hline hd) (hline he) h
  exact ⟨htag, hoffset, hsize, childrenChars_inj hchildren,
    map_attributeLine_inj (fun a ha => (hd.names a ha).1) (fun a ha => (he.names a ha).1) hlines⟩

end DebugEntry

end ElfFacts
