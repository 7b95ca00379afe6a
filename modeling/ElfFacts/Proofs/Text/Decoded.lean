import ElfFacts.Proofs.Text.Order

/-!
# Texts and their octets

Text that is written as octets is read back from them without ill-formed pieces. Octets that are not
the ones of a text are read as well, and whatever they are, an octet below 0x80 is a character of its
own: a reader inside a longer character waits for a higher octet.
-/
namespace ElfFacts.Utf8

/-! ## What is written is read -/

theorem begin_one {q : Nat} (hq : q ≤ 0x7F) :
    begin (UInt8.ofNat q) = ([some (Char.ofNat q)], .start) := by
  have hlt : UInt8.ofNat q < 0x80 := ofNat_lt (n := 0x80) (by omega) (by decide)
  rw [begin, if_pos hlt, UInt8.toNat_ofNat', Nat.mod_eq_of_lt (by omega)]

theorem begin_two {q : Nat} (hq : q < 32) (hlow : 2 ≤ q) :
    begin (UInt8.ofNat (q + 0xC0)) = ([], .pending 0 0x80 0xBF q) := by
  revert hlow
  revert q
  decide

/-- No overlong forms and no surrogates. -/
theorem begin_three {q : Nat} (hq : q < 16) :
    begin (UInt8.ofNat (q + 0xE0)) =
      ([], .pending 1 (if q = 0 then 0xA0 else 0x80) (if q = 13 then 0x9F else 0xBF) q) := by
  revert q
  decide

/-- No overlong forms and nothing above the last code point. -/
theorem begin_four {q : Nat} (hq : q < 5) :
    begin (UInt8.ofNat (q + 0xF0)) =
      ([], .pending 2 (if q = 0 then 0x90 else 0x80) (if q = 4 then 0x8F else 0xBF) q) := by
  revert q
  decide

/-- A trailing octet holds six bits more, and is the last one or leaves others to come. -/
theorem feed_trailing {n : Nat} {lo hi : UInt8} {value d : Nat} (hd : d < 64)
    (hlo : lo.toNat ≤ d + 0x80) (hhi : d + 0x80 ≤ hi.toNat) :
    feed (.pending n lo hi value) (UInt8.ofNat (d + 0x80)) =
      match n with
      | 0 => ([some (Char.ofNat (value * 64 + d))], .start)
      | n + 1 => ([], .pending n 0x80 0xBF (value * 64 + d)) := by
  have hnat : (UInt8.ofNat (d + 0x80)).toNat = d + 0x80 := by
    rw [UInt8.toNat_ofNat', Nat.mod_eq_of_lt (by omega)]
  have hrange : lo ≤ UInt8.ofNat (d + 0x80) ∧ UInt8.ofNat (d + 0x80) ≤ hi := by
    rw [UInt8.le_iff_toNat_le, UInt8.le_iff_toNat_le, hnat]
    exact ⟨hlo, hhi⟩
  have hmod : (d + 0x80) % 64 = d := by omega
  cases n <;> simp only [feed, if_pos hrange, hnat, hmod]

theorem decode_octets {v : Nat} (hvalid : v.isValidChar) (r : List UInt8) :
    decode (octets (mark (following v)) (following v) v ++ r) = some (Char.ofNat v) :: decode r := by
  have hvalid : v < 0xD800 ∨ 0xDFFF < v ∧ v < 0x110000 := hvalid
  by_cases h1 : v ≤ 0x7F
  · have hone : octets (mark (following v)) (following v) v = [UInt8.ofNat v] := by
      simp only [following, if_pos h1, octets, mark, Nat.add_zero]
    rw [hone, List.singleton_append, decode, decodeFrom_cons, feed, begin_one h1]
    rfl
  by_cases h2 : v ≤ 0x7FF
  · have htwo : octets (mark (following v)) (following v) v =
        [UInt8.ofNat (v / 64 + 0xC0), UInt8.ofNat (v % 64 + 0x80)] := by
      simp only [following, if_neg h1, if_pos h2, octets, mark]
      rfl
    have hlead := begin_two (q := v / 64) (by omega) (by omega)
    have hvalue : v / 64 * 64 + v % 64 = v := by omega
    rw [htwo, List.cons_append, List.singleton_append, decode, decodeFrom_cons, decodeFrom_cons,
      feed, hlead, feed_trailing (by omega) (by simp) (by simp; omega), hvalue]
    rfl
  by_cases h3 : v ≤ 0xFFFF
  · have hthree : octets (mark (following v)) (following v) v =
        [UInt8.ofNat (v / 64 / 64 + 0xE0), UInt8.ofNat (v / 64 % 64 + 0x80),
          UInt8.ofNat (v % 64 + 0x80)] := by
      simp only [following, if_neg h1, if_neg h2, if_pos h3, octets, mark]
      rfl
    have hlead := begin_three (q := v / 64 / 64) (by omega)
    have hlo : (if v / 64 / 64 = 0 then 0xA0 else 0x80 : UInt8).toNat ≤ v / 64 % 64 + 0x80 := by
      split
      · simp
        omega
      · simp
    have hhi : v / 64 % 64 + 0x80 ≤ (if v / 64 / 64 = 13 then 0x9F else 0xBF : UInt8).toNat := by
      split <;> (simp; omega)
    have hvalue : (v / 64 / 64 * 64 + v / 64 % 64) * 64 + v % 64 = v := by omega
    rw [hthree, List.cons_append, List.cons_append, List.singleton_append, decode, decodeFrom_cons,
      decodeFrom_cons, decodeFrom_cons, feed, hlead, feed_trailing (by omega) hlo hhi,
      feed_trailing (by omega) (by simp) (by simp; omega), hvalue]
    rfl
  · have hfour : octets (mark (following v)) (following v) v =
        [UInt8.ofNat (v / 64 / 64 / 64 + 0xF0), UInt8.ofNat (v / 64 / 64 % 64 + 0x80),
          UInt8.ofNat (v / 64 % 64 + 0x80), UInt8.ofNat (v % 64 + 0x80)] := by
      simp only [following, if_neg h1, if_neg h2, if_neg h3, octets, mark]
      rfl
    have hlead := begin_four (q := v / 64 / 64 / 64) (by omega)
    have hlo : (if v / 64 / 64 / 64 = 0 then 0x90 else 0x80 : UInt8).toNat ≤
        v / 64 / 64 % 64 + 0x80 := by
      split
      · simp
        omega
      · simp
    have hhi : v / 64 / 64 % 64 + 0x80 ≤
        (if v / 64 / 64 / 64 = 4 then 0x8F else 0xBF : UInt8).toNat := by
      split <;> (simp; omega)
    have hvalue : ((v / 64 / 64 / 64 * 64 + v / 64 / 64 % 64) * 64 + v / 64 % 64) * 64 + v % 64 =
        v := by omega
    rw [hfour, List.cons_append, List.cons_append, List.cons_append, List.singleton_append, decode,
      decodeFrom_cons, decodeFrom_cons, decodeFrom_cons, decodeFrom_cons, feed, hlead,
      feed_trailing (by omega) hlo hhi, feed_trailing (by omega) (by simp) (by simp; omega),
      feed_trailing (by omega) (by simp) (by simp; omega), hvalue]
    rfl

theorem decode_utf8EncodeChar (c : Char) (r : List UInt8) :
    decode (String.utf8EncodeChar c ++ r) = some c :: decode r := by
  have h := decode_octets (v := c.toNat) c.valid r
  rwa [← utf8EncodeChar_eq, c.ofNat_toNat] at h

theorem decode_flatMap (cs : List Char) :
    decode (cs.flatMap String.utf8EncodeChar) = cs.map some := by
  induction cs with
  | nil => rfl
  | cons c cs ih => rw [List.flatMap_cons, decode_utf8EncodeChar, ih, List.map_cons]

theorem mapM_map_some {α : Type} (l : List α) : (l.map some).mapM id = some l := by
  induction l with
  | nil => rfl
  | cons a l ih =>
    rw [List.map_cons, List.mapM_cons, ih]
    rfl

theorem strict_encode (s : String) : strict (encode s) = some s.toList := by
  rw [strict, encode_eq_flatMap, decode_flatMap, mapM_map_some]

/-! ## Low octets are read -/

/-- The octet that is waited for is none below 0x80. -/
def State.Trailing : State → Prop
  | .start => True
  | .pending _ lo _ _ => 0x80 ≤ lo.toNat

theorem begin_trailing (b : UInt8) : (begin b).2.Trailing := by
  unfold begin
  repeat' split
  all_goals simp [State.Trailing]

theorem feed_trailing_state (s : State) (b : UInt8) : (feed s b).2.Trailing := by
  unfold feed
  split
  · exact begin_trailing b
  · split
    · split <;> simp [State.Trailing]
    · exact begin_trailing b

theorem feed_low {s : State} (hs : s.Trailing) {b : UInt8} (hb : b < 0x80) :
    some (Char.ofNat b.toNat) ∈ (feed s b).1 := by
  have hbegin : (begin b).1 = [some (Char.ofNat b.toNat)] := by rw [begin, if_pos hb]
  cases s with
  | start => rw [feed, hbegin]; exact List.mem_singleton_self _
  | pending n lo hi value =>
    have hlow : b.toNat < 0x80 := hb
    have hlo : 0x80 ≤ lo.toNat := hs
    have hout : ¬ (lo ≤ b ∧ b ≤ hi) := fun h => by
      have hle : lo.toNat ≤ b.toNat := h.1
      omega
    simp only [feed, if_neg hout, hbegin]
    simp

theorem mem_decodeFrom {s : State} (hs : s.Trailing) {b : UInt8} (hb : b < 0x80)
    {octets : List UInt8} (h : b ∈ octets) : some (Char.ofNat b.toNat) ∈ decodeFrom s octets := by
  induction octets generalizing s with
  | nil => cases h
  | cons b' octets ih =>
    rw [decodeFrom_cons, List.mem_append]
    rcases List.mem_cons.1 h with rfl | h
    · exact .inl (feed_low hs hb)
    · exact .inr (ih (feed_trailing_state s b') h)

theorem not_isAscii_of_pending {n value : Nat} {lo hi : UInt8}
    (hs : (State.pending n lo hi value).High) {octets : List UInt8} {c : Char}
    {r : List (Option Char)} (h : decodeFrom (.pending n lo hi value) octets = some c :: r) :
    ¬ IsAscii c := by
  induction octets generalizing n lo hi value with
  | nil => cases h
  | cons b octets ih =>
    have hnext := (feed_spec hs b).1
    by_cases hrange : lo ≤ b ∧ b ≤ hi
    · cases n with
      | zero =>
        have hvalue : 2 ≤ value := hs
        rw [decodeFrom_cons, feed, if_pos hrange] at h
        rw [← Option.some.inj (List.cons_eq_cons.1 h).1]
        exact not_isAscii_ofNat (by omega)
      | succ n =>
        rw [feed, if_pos hrange] at hnext
        rw [decodeFrom_cons, feed, if_pos hrange] at h
        exact ih hnext h
    · simp only [decodeFrom_cons, feed, if_neg hrange, List.cons_append] at h
      cases (List.cons_eq_cons.1 h).1

theorem eq_singleton_of_decode {octets : List UInt8} {c : Char} (hc : IsAscii c)
    (h : decode octets = [some c]) : octets = [UInt8.ofNat c.toNat] := by
  cases octets with
  | nil => cases h
  | cons b octets =>
    obtain ⟨hhigh, hout⟩ := feed_spec (s := .start) trivial b
    rw [decode, decodeFrom_cons] at h
    cases hstate : (feed .start b).2 with
    | start =>
      have hne : (feed .start b).1 ≠ [] := (feed_ne .start b).resolve_right (not_not_intro hstate)
      obtain ⟨o, rest, hcons⟩ := List.exists_cons_of_ne_nil hne
      rw [hcons, List.cons_append, List.cons_eq_cons, hstate] at h
      obtain ⟨ho, hnil⟩ := h
      rw [(decodeFrom_eq_nil (List.append_eq_nil_iff.1 hnil).2).2,
        hout c hc (by rw [hcons, ho]; exact List.mem_cons_self ..), UInt8.ofNat_toNat]
    | pending n lo hi value =>
      rw [hstate] at h hhigh
      cases hfront : (feed .start b).1 with
      | nil =>
        rw [hfront] at h
        exact absurd hc (not_isAscii_of_pending hhigh h)
      | cons o rest =>
        rw [hfront, List.cons_append, List.cons_eq_cons] at h
        cases (decodeFrom_eq_nil (List.append_eq_nil_iff.1 h.2).2).1

theorem mem_encode {c : Char} {s : String} (h : c ∈ s.toList) {b : UInt8}
    (hb : b ∈ String.utf8EncodeChar c) : b ∈ encode s := by
  rw [encode_eq_flatMap]
  exact List.mem_flatMap.2 ⟨c, h, hb⟩

theorem eq_singleton_of_strictString {octets : List UInt8} {s : String} {c : Char} (hc : IsAscii c)
    (h : strictString octets = some s) (hs : s.toList = [c]) : octets = [UInt8.ofNat c.toNat] := by
  obtain ⟨cs, hcs, rfl⟩ := Option.map_eq_some_iff.1 h
  rw [String.toList_ofList] at hs
  refine eq_singleton_of_decode hc ?_
  rw [eq_map_some_of_mapM hcs, hs]
  rfl

theorem getD_replacement_eq {o : Option Char} {c : Char} (hc : c ≠ replacement) :
    o.getD replacement = c ↔ o = some c := by
  cases o with
  | none => simp [Ne.symm hc]
  | some d => simp

end ElfFacts.Utf8
