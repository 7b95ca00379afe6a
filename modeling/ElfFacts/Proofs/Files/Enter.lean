import ElfFacts.Files.Tree
import ElfFacts.Proofs.Path.Join

/-!
# Looking up a name in a directory

A path that ends in a name is looked up in two steps: the pieces in front of it lead to a directory,
and the name is looked up there. The way to the directory goes over directories and links only, so
writing to files does not change it.
-/
namespace ElfFacts.FileTree

/-- Goes through pieces with a name behind them: the directory that they lead to, and how many links
may still be followed. -/
def enter (t : FileTree) (links : Nat) (here : Place) (pieces : List (List UInt8)) :
    Except Fault (Place × Nat) :=
  match pieces with
  | [] => .ok (here, links)
  | piece :: rest =>
    if Path.isFiller piece then enter t links here rest
    else if piece = [Path.dot, Path.dot] then enter t links here.dropLast rest
    else if longestName < piece.length then .error .nameTooLong
    else
      match t.node? (here ++ [piece]) with
      | none => .error .missing
      | some .directory => enter t links (here ++ [piece]) rest
      | some (.link target) =>
        match links with
        | 0 => .error .tooManyLinks
        | links + 1 =>
          enter t links (if target.isAbsolute then [] else here)
            (Path.splitSlashes target.octets ++ rest)
      | some _ => .error .notDirectory
termination_by (links, pieces.length)

theorem seek_cons_append (t : FileTree) (purpose : Purpose) (links : Nat) (here : Place)
    {piece : List UInt8} (rest : List (List UInt8)) {name : List UInt8} (hname : name ≠ [])
    (hfiller : ¬ Path.isFiller piece = true) (hup : piece ≠ [Path.dot, Path.dot])
    (hlength : ¬ longestName < piece.length) :
    t.seek purpose links here (piece :: rest ++ [name]) =
      match t.node? (here ++ [piece]) with
      | none => .error .missing
      | some .directory => t.seek purpose links (here ++ [piece]) (rest ++ [name])
      | some (.link target) =>
        match links with
        | 0 => .error .tooManyLinks
        | links + 1 =>
          t.seek purpose links (if target.isAbsolute then [] else here)
            (Path.splitSlashes target.octets ++ (rest ++ [name]))
      | some _ => .error .notDirectory := by
  have hlast : (rest ++ [name]).all (· = []) = false := by simp [hname]
  rw [List.cons_append, seek, if_neg hfiller, if_neg hup]
  cases hnode : t.node? (here ++ [piece]) with
  | none => simp [hnode, hlast, hlength]
  | some node =>
    cases node with
    | link target => cases links <;> simp [hnode, hlast, hlength]
    | _ => simp [hnode, hlast, hlength]

theorem seek_append (t : FileTree) (purpose : Purpose) (links : Nat) (here : Place)
    (pieces : List (List UInt8)) {name : List UInt8} (hname : name ≠ []) :
    t.seek purpose links here (pieces ++ [name]) =
      (t.enter links here pieces).bind fun d => t.seek purpose d.2 d.1 [name] := by
  fun_induction enter t links here pieces with
  | case1 links here => rfl
  | case2 links here piece rest hfiller ih => rw [List.cons_append, seek, if_pos hfiller, ih]
  | case3 links here rest hfiller ih => rw [List.cons_append, seek, if_neg hfiller, if_pos rfl, ih]
  | case4 links here piece rest hfiller hup hlength =>
    rw [List.cons_append, seek, if_neg hfiller, if_neg hup]
    simp [hname, hlength, Except.bind]
  | case5 links here piece rest hfiller hup hlength hnode =>
    rw [seek_cons_append t purpose links here rest hname hfiller hup hlength, hnode]
    rfl
  | case6 links here piece rest hfiller hup hlength hnode ih =>
    rw [seek_cons_append t purpose links here rest hname hfiller hup hlength, hnode]
    exact ih
  | case7 here piece rest hfiller hup hlength target hnode =>
    rw [seek_cons_append t purpose 0 here rest hname hfiller hup hlength, hnode]
    rfl
  | case8 here piece rest hfiller hup hlength target hnode links ih =>
    rw [seek_cons_append t purpose _ here rest hname hfiller hup hlength, hnode]
    rw [List.append_assoc] at ih
    exact ih
  | case9 links here piece rest hfiller hup hlength node hdirectory hlink hnode =>
    rw [seek_cons_append t purpose links here rest hname hfiller hup hlength, hnode]
    cases node with
    | directory => exact absurd rfl hdirectory
    | link target => exact absurd rfl (hlink target)
    | file content executable => rfl
    | null => rfl

structure IsProper (name : List UInt8) : Prop where
  filler : Path.isFiller name = false
  up : name ≠ [Path.dot, Path.dot]
  length : name.length ≤ longestName

theorem seek_name_of_none {t : FileTree} {here : Place} {name : List UInt8} (h : IsProper name)
    (hnode : t.node? (here ++ [name]) = none) (purpose : Purpose) (links : Nat) :
    t.seek purpose links here [name] = .ok (.free (here ++ [name])) := by
  rw [seek, h.filler, if_neg Bool.false_ne_true, if_neg h.up]
  simp [hnode, h.length]

theorem seek_name_of_some {t : FileTree} {here : Place} {name : List UInt8} (h : IsProper name)
    {node : Node} (hnode : t.node? (here ++ [name]) = some node) {purpose : Purpose}
    (hlink : purpose = .make ∨ ∀ target, node ≠ .link target) (links : Nat) :
    t.seek purpose links here [name] = .ok (.present (here ++ [name]) node) := by
  rw [seek, h.filler, if_neg Bool.false_ne_true, if_neg h.up]
  cases node with
  | file content executable => simp [hnode, h.length]
  | directory => simp [hnode, h.length, seek]
  | null => simp [hnode, h.length]
  | link target =>
    have hmake : purpose = .make := hlink.resolve_right fun hne => hne target rfl
    simp [hnode, h.length, hmake]

/-- Dots lead to directories whatever they hold. -/
def seekDots (here : Place) (name : List UInt8) : Except Fault Found :=
  if Path.isFiller name then .ok (.present here .directory)
  else if name = [Path.dot, Path.dot] then .ok (.present here.dropLast .directory)
  else .error .nameTooLong

theorem seekDots_eq (here : Place) (name : List UInt8) :
    (∃ place, seekDots here name = .ok (.present place .directory)) ∨
      seekDots here name = .error .nameTooLong := by
  unfold seekDots
  split
  · exact .inl ⟨_, rfl⟩
  · split
    · exact .inl ⟨_, rfl⟩
    · exact .inr rfl

theorem seek_name_of_not_proper {name : List UInt8} (h : ¬ IsProper name) (t : FileTree)
    (purpose : Purpose) (links : Nat) (here : Place) :
    t.seek purpose links here [name] = seekDots here name := by
  rw [seek, seekDots]
  split
  · rw [seek]
  · next hfiller =>
    split
    · rw [seek]
    · next hup =>
      have hlength : longestName < name.length := by
        rw [← Nat.not_le]
        exact fun hle => h ⟨Bool.eq_false_iff.2 hfiller, hup, hle⟩
      simp [hlength]

/-- Files may have come and changed, but directories and links are as they were. -/
structure Keeps (t t' : FileTree) : Prop where
  workingDirectory : t'.workingDirectory = t.workingDirectory
  directory : ∀ p, t.node? p = some .directory → t'.node? p = some .directory
  link : ∀ p target, t.node? p = some (.link target) → t'.node? p = some (.link target)

variable {t t' t'' : FileTree}

theorem Keeps.refl (t : FileTree) : Keeps t t := ⟨rfl, fun _ h => h, fun _ _ h => h⟩

theorem Keeps.trans (h : Keeps t t') (h' : Keeps t' t'') : Keeps t t'' where
  workingDirectory := h'.workingDirectory.trans h.workingDirectory
  directory p hp := h'.directory p (h.directory p hp)
  link p target hp := h'.link p target (h.link p target hp)

theorem node?_put {p q : Place} (n : Node) (hq : q ≠ []) :
    (t.put p n).node? q = if p = q then some n else t.node? q := by
  simp [node?, put, hq, Std.HashMap.getElem?_insert]

theorem enter_of_keeps (h : Keeps t t') {links : Nat} {here : Place} {pieces : List (List UInt8)}
    {d : Place × Nat} (hd : t.enter links here pieces = .ok d) :
    t'.enter links here pieces = .ok d := by
  fun_induction enter t links here pieces with
  | case1 links here => rwa [enter]
  | case2 links here piece rest hfiller ih =>
    rw [enter, if_pos hfiller]
    exact ih hd
  | case3 links here rest hfiller ih =>
    rw [enter, if_neg hfiller, if_pos rfl]
    exact ih hd
  | case6 links here piece rest hfiller hup hlength hnode ih =>
    rw [enter, if_neg hfiller, if_neg hup, if_neg hlength, h.directory _ hnode]
    exact ih hd
  | case8 here piece rest hfiller hup hlength target hnode links ih =>
    rw [enter, if_neg hfiller, if_neg hup, if_neg hlength, h.link _ _ hnode]
    exact ih hd
  | _ => cases hd

theorem node?_concat_put (d : Place) (name : List UInt8) (n : Node) :
    (t.put (d ++ [name]) n).node? (d ++ [name]) = some n := by
  rw [node?_put n (by simp), if_pos rfl]

theorem node?_put_of_ne {p q : Place} (h : p ≠ q) (n : Node) : (t.put p n).node? q = t.node? q := by
  by_cases hq : q = []
  · rw [node?, node?, if_pos hq, if_pos hq]
  · rw [node?_put n hq, if_neg h]

def Takes (t : FileTree) (q : Place) : Prop :=
  ∀ node, t.node? q = some node → ∃ content executable, node = .file content executable

theorem takes_of_none {q : Place} (h : t.node? q = none) : t.Takes q := by
  intro node hnode
  rw [h] at hnode
  cases hnode

theorem takes_of_file {q : Place} {content : ByteArray} {executable : Bool}
    (h : t.node? q = some (.file content executable)) : t.Takes q := by
  intro node hnode
  rw [h] at hnode
  exact ⟨content, executable, (Option.some.inj hnode).symm⟩

theorem keeps_put {q : Place} (h : t.Takes q) (content : ByteArray) (executable : Bool) :
    Keeps t (t.put q (.file content executable)) := by
  have hne {p : Place} {node : Node} (hp : t.node? p = some node) (hnode : ∀ c x, node ≠ .file c x) :
      q ≠ p := by
    rintro rfl
    obtain ⟨c, x, hfile⟩ := h node hp
    exact hnode c x hfile
  refine ⟨rfl, fun p hp => ?_, fun p target hp => ?_⟩
  · rwa [node?_put_of_ne (hne hp fun _ _ => Node.noConfusion)]
  · rwa [node?_put_of_ne (hne hp fun _ _ => Node.noConfusion)]

/-- The directory at a path, before the last name of a longer path is looked up there. -/
def entrance (t : FileTree) (p : Path) : Except Fault (Place × Nat) :=
  t.enter mostLinks (if p.isAbsolute then [] else t.workingDirectory) p.front

theorem entrance_of_keeps (h : Keeps t t') {p : Path} {d : Place × Nat} (hd : t.entrance p = .ok d) :
    t'.entrance p = .ok d := by
  rw [entrance, h.workingDirectory]
  exact enter_of_keeps h hd

def Fits (p : Path) : Prop := p.octets.contains 0 = false ∧ p.octets.length ≤ longestPath

def IsSingle (name : List UInt8) : Prop := name ≠ [] ∧ Path.slash ∉ name

variable {p : Path} {name : List UInt8}

theorem isAbsolute_of_isSingle (h : IsSingle name) : (Path.mk name).isAbsolute = false := by
  obtain ⟨b, r, rfl⟩ := List.exists_cons_of_ne_nil h.1
  have hb := h.2
  rw [List.mem_cons, not_or] at hb
  simpa [Path.isAbsolute] using Ne.symm hb.1

theorem find_join (h : IsSingle name) (hfits : Fits (p.join ⟨name⟩)) (purpose : Purpose) :
    t.find purpose (p.join ⟨name⟩) =
      (t.entrance p).bind fun d => t.seek purpose d.2 d.1 [name] := by
  have habs := isAbsolute_of_isSingle h
  have hpieces : Path.splitSlashes (p.join ⟨name⟩).octets = p.front ++ [name] := by
    rw [Path.splitSlashes_join habs, Path.splitSlashes_of_notMem h.2]
  have hne : (p.join ⟨name⟩).octets ≠ [] := by
    intro he
    rw [he] at hpieces
    have hlast := congrArg List.getLast? hpieces
    rw [List.getLast?_concat] at hlast
    exact h.1 (Option.some.inj hlast).symm
  have hlong : ¬ longestPath < (p.join ⟨name⟩).octets.length := Nat.not_lt.2 hfits.2
  rw [find, trace, hfits.1, if_neg (by simp [hlong]), if_neg Bool.false_ne_true, if_neg hne, hpieces,
    Path.isAbsolute_join habs, seek_append t purpose _ _ _ h.1]
  rfl

theorem fits_of_find {q : Path} {purpose : Purpose} {found : Found}
    (h : t.find purpose q = .ok found) : Fits q := by
  unfold find trace at h
  cases hnul : q.octets.contains 0 with
  | true =>
    rw [hnul] at h
    cases h
  | false =>
    refine ⟨hnul, Nat.not_lt.1 fun hlong => ?_⟩
    rw [hnul, if_pos (by simp [hlong])] at h
    cases h

theorem seek_make_congr {here : Place} (h : t.node? (here ++ [name]) = t'.node? (here ++ [name]))
    (links : Nat) : t.seek .make links here [name] = t'.seek .make links here [name] := by
  by_cases hproper : IsProper name
  · cases hnode : t'.node? (here ++ [name]) with
    | none => rw [seek_name_of_none hproper (h.trans hnode), seek_name_of_none hproper hnode]
    | some node =>
      rw [seek_name_of_some hproper (h.trans hnode) (.inl rfl),
        seek_name_of_some hproper hnode (.inl rfl)]
  · rw [seek_name_of_not_proper hproper, seek_name_of_not_proper hproper]

/-- Nothing at the path, or something that is neither a link nor a device. -/
def Plain (t : FileTree) (p : Path) : Prop :=
  ∀ place node, t.find .make p = .ok (.present place node) →
    node ≠ .null ∧ ∀ target, node ≠ .link target

theorem find_make_congr (h : IsSingle name) {d : Place × Nat} (hd : t.entrance p = .ok d)
    (hd' : t'.entrance p = .ok d) (hnode : t.node? (d.1 ++ [name]) = t'.node? (d.1 ++ [name]))
    (hfits : Fits (p.join ⟨name⟩)) :
    t.find .make (p.join ⟨name⟩) = t'.find .make (p.join ⟨name⟩) := by
  rw [find_join h hfits, find_join h hfits, hd, hd']
  exact seek_make_congr hnode d.2

theorem Plain.node (h : IsSingle name) (hfits : Fits (p.join ⟨name⟩)) (hproper : IsProper name)
    (hplain : t.Plain (p.join ⟨name⟩)) {d : Place × Nat} (hd : t.entrance p = .ok d) {node : Node}
    (hnode : t.node? (d.1 ++ [name]) = some node) :
    node ≠ .null ∧ ∀ target, node ≠ .link target := by
  refine hplain (d.1 ++ [name]) node ?_
  rw [find_join h hfits, hd]
  exact seek_name_of_some hproper hnode (.inl rfl) d.2

theorem plain_of_takes (h : IsSingle name) {d : Place × Nat} (hd : t.entrance p = .ok d)
    (htakes : t.Takes (d.1 ++ [name])) : t.Plain (p.join ⟨name⟩) := by
  intro place node hfind
  rw [find_join h (fits_of_find hfind), hd] at hfind
  have hseek : t.seek .make d.2 d.1 [name] = .ok (.present place node) := hfind
  by_cases hproper : IsProper name
  · cases hnode : t.node? (d.1 ++ [name]) with
    | none =>
      rw [seek_name_of_none hproper hnode] at hseek
      cases hseek
    | some there =>
      rw [seek_name_of_some hproper hnode (.inl rfl)] at hseek
      obtain ⟨-, rfl⟩ := Found.present.inj (Except.ok.inj hseek)
      obtain ⟨c, x, rfl⟩ := htakes _ hnode
      exact ⟨Node.noConfusion, fun _ => Node.noConfusion⟩
  · rw [seek_name_of_not_proper hproper] at hseek
    rcases seekDots_eq d.1 name with ⟨place', hdots⟩ | hdots <;> rw [hdots] at hseek
    · obtain ⟨-, rfl⟩ := Found.present.inj (Except.ok.inj hseek)
      exact ⟨Node.noConfusion, fun _ => Node.noConfusion⟩
    · cases hseek

theorem exists_write_join (h : IsSingle name) (hfits : Fits (p.join ⟨name⟩)) (hproper : IsProper name)
    {d : Place × Nat} (hd : t.entrance p = .ok d) (htakes : t.Takes (d.1 ++ [name]))
    (content : ByteArray) :
    ∃ x, t.write (p.join ⟨name⟩) content = .ok (t.put (d.1 ++ [name]) (.file content x)) := by
  have hseek : t.find .create (p.join ⟨name⟩) = t.seek .create d.2 d.1 [name] := by
    rw [find_join h hfits, hd]
    rfl
  rw [write, hseek]
  cases hnode : t.node? (d.1 ++ [name]) with
  | none =>
    rw [seek_name_of_none hproper hnode]
    exact ⟨false, rfl⟩
  | some node =>
    obtain ⟨c, x, rfl⟩ := htakes node hnode
    rw [seek_name_of_some hproper hnode (.inr fun _ => Node.noConfusion)]
    exact ⟨x, rfl⟩

theorem write_join (h : IsSingle name) (hplain : t.Plain (p.join ⟨name⟩)) {content : ByteArray}
    (hwrite : t.write (p.join ⟨name⟩) content = .ok t') :
    Fits (p.join ⟨name⟩) ∧ IsProper name ∧ ∃ d x, t.entrance p = .ok d ∧
      t' = t.put (d.1 ++ [name]) (.file content x) ∧ t.Takes (d.1 ++ [name]) := by
  obtain ⟨found, hfind⟩ : ∃ found, t.find .create (p.join ⟨name⟩) = .ok found := by
    rw [write] at hwrite
    cases hfind : t.find .create (p.join ⟨name⟩) with
    | error fault => rw [hfind] at hwrite; cases hwrite
    | ok found => exact ⟨found, rfl⟩
  have hfits := fits_of_find hfind
  have hjoin := find_join (t := t) h hfits .create
  cases hd : t.entrance p with
  | error fault => rw [hjoin, hd] at hfind; cases hfind
  | ok d =>
    have hseek : t.find .create (p.join ⟨name⟩) = t.seek .create d.2 d.1 [name] := by
      rw [hjoin, hd]
      rfl
    rw [write, hseek] at hwrite
    by_cases hproper : IsProper name
    · refine ⟨hfits, hproper, d, ?_⟩
      cases hnode : t.node? (d.1 ++ [name]) with
      | none =>
        rw [seek_name_of_none hproper hnode] at hwrite
        exact ⟨false, rfl, (Except.ok.inj hwrite).symm, takes_of_none hnode⟩
      | some node =>
        obtain ⟨hnull, hlink⟩ := hplain.node h hfits hproper hd hnode
        rw [seek_name_of_some hproper hnode (.inr hlink)] at hwrite
        cases node with
        | file c x => exact ⟨x, rfl, (Except.ok.inj hwrite).symm, takes_of_file hnode⟩
        | directory => cases hwrite
        | link target => exact absurd rfl (hlink target)
        | null => exact absurd rfl hnull
    · rw [seek_name_of_not_proper hproper] at hwrite
      rcases seekDots_eq d.1 name with ⟨place, hdots⟩ | hdots
      · rw [hdots] at hwrite
        cases hwrite
      · rw [hdots] at hwrite
        cases hwrite

theorem read_join (h : IsSingle name) (hfits : Fits (p.join ⟨name⟩)) (hproper : IsProper name)
    {d : Place × Nat} (hd : t.entrance p = .ok d) {content : ByteArray} {x : Bool}
    (hnode : t.node? (d.1 ++ [name]) = some (.file content x)) :
    t.read (p.join ⟨name⟩) = .ok content := by
  have hfind : t.find .visit (p.join ⟨name⟩) = .ok (.present (d.1 ++ [name]) (.file content x)) := by
    rw [find_join h hfits, hd]
    exact seek_name_of_some hproper hnode (.inr fun _ => Node.noConfusion) d.2
  rw [read, stat, look, hfind]
  rfl

end ElfFacts.FileTree
