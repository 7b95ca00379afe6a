import ElfFacts.Files.Disk
import ElfFacts.Generator.Output
import ElfFacts.Proofs.Fact.Lines
import ElfFacts.Proofs.Files.Enter
import ElfFacts.Proofs.Generator.FileNames
import Mathlib.Data.List.Nodup

/-!
# What the fact files hold after a run

Documents are written one after the other to files in one directory. Writing one of them leaves the
way to the directory and all other files as they were, so at the end every file still holds its own
document, if the names of the files are different.
-/
namespace ElfFacts

namespace Disk

variable {α β : Type}

@[simp] theorem bind_apply (x : Disk α) (f : α → Disk β) (t : FileTree) :
    (x >>= f) t = f (x t).1 (x t).2 := rfl

@[simp] theorem pure_apply (a : α) (t : FileTree) : (pure a : Disk α) t = (a, t) := rfl

@[simp] theorem write_apply (p : Path) (content : ByteArray) (t : FileTree) :
    (Host.write p content : Disk _) t =
      match t.write p content with
      | .ok t' => (.ok (), t')
      | .error fault => (.error fault, t) := rfl

@[simp] theorem makeDirectory_apply (p : Path) (t : FileTree) :
    (Host.makeDirectory p : Disk _) t =
      match t.makeDirectory p with
      | .ok t' => (.ok (), t')
      | .error fault => (.error fault, t) := rfl

@[simp] theorem kind_apply (p : Path) (t : FileTree) :
    (Host.kind p : Disk _) t = (kindOf t p, t) := rfl

end Disk

def Document.octets (d : Document) : ByteArray := (String.ofList (Sheet.textOf d.lines)).toUTF8

theorem Document.finish_write (d : Document) :
    (({} : Sheet).write (.document d)).finish = .ok d.octets :=
  Sheet.finish_eq_ok_of_unlimited (.document d)

namespace Generator

variable {t t' : FileTree} {d : Document} {p file : Path} {name : List UInt8}

theorem writeDocument_apply (d : Document) (file : Path) (t : FileTree) :
    (writeDocument d file : Disk _) t =
      match t.write file .empty with
      | .error fault => (.error (.io file fault), t)
      | .ok t₁ =>
        match t₁.write file d.octets with
        | .error fault => (.error (.io file fault), t₁)
        | .ok t₂ => (.ok ⟨d.main, file, (({} : Sheet).write (.document d)).written⟩, t₂) := by
  cases hempty : t.write file .empty with
  | error fault => simp [writeDocument, createFile, hempty]
  | ok t₁ =>
    cases hfull : t₁.write file d.octets with
    | error fault => simp [writeDocument, createFile, d.finish_write, hempty, hfull]
    | ok t₂ => simp [writeDocument, createFile, d.finish_write, hempty, hfull]

theorem writeDocument_eq_ok {record : FactFile}
    (h : (writeDocument d file : Disk _) t = (.ok record, t')) :
    ∃ t₁, t.write file .empty = .ok t₁ ∧ t₁.write file d.octets = .ok t' := by
  rw [writeDocument_apply] at h
  split at h
  · cases h
  · next t₁ hempty =>
    split at h
    · cases h
    · next t₂ hfull =>
      obtain rfl := congrArg Prod.snd h
      exact ⟨t₁, hempty, hfull⟩

theorem writeDocument_of_writes {t₁ : FileTree} (hempty : t.write file .empty = .ok t₁)
    (hfull : t₁.write file d.octets = .ok t') :
    (writeDocument d file : Disk _) t =
      (.ok ⟨d.main, file, (({} : Sheet).write (.document d)).written⟩, t') := by
  rw [writeDocument_apply, hempty]
  simp only [hfull]

theorem writeEach_cons_of_ok {rest : List (Document × Path)} {t₁ : FileTree} {record : FactFile}
    {records : List FactFile} (hfirst : (writeDocument d file : Disk _) t = (.ok record, t₁))
    (hrest : (writeEach rest : Disk _) t₁ = (.ok records, t')) :
    (writeEach ((d, file) :: rest) : Disk _) t = (.ok (record :: records), t') := by
  simp [writeEach, hfirst, hrest]

theorem writeEach_cons_eq_ok {rest : List (Document × Path)} {records : List FactFile}
    (h : (writeEach ((d, file) :: rest) : Disk _) t = (.ok records, t')) :
    ∃ record records' t₁, (writeDocument d file : Disk _) t = (.ok record, t₁) ∧
      (writeEach rest : Disk _) t₁ = (.ok records', t') := by
  rw [writeEach, Disk.bind_apply] at h
  cases hfirst : (writeDocument d file : Disk _) t with
  | mk result t₁ =>
    rw [hfirst] at h
    cases result with
    | error fault => cases h
    | ok record =>
      dsimp only at h
      rw [Disk.bind_apply] at h
      cases hrest : (writeEach rest : Disk _) t₁ with
      | mk result' t₂ =>
        rw [hrest] at h
        cases result' with
        | error fault => cases h
        | ok records' =>
          cases h
          exact ⟨record, records', t₁, rfl, hrest⟩

open FileTree

/-- What the file of a document holds in the directory, after it has been written there. -/
structure Written (t t' : FileTree) (p : Path) (name : List UInt8) (content : ByteArray) : Prop where
  fits : Fits (p.join ⟨name⟩)
  proper : IsProper name
  keeps : Keeps t t'
  node : ∃ e x, t.entrance p = .ok e ∧ t'.node? (e.1 ++ [name]) = some (.file content x) ∧
    ∀ q, e.1 ++ [name] ≠ q → t'.node? q = t.node? q

theorem written_of_writeDocument {record : FactFile} (h : IsSingle name)
    (hplain : t.Plain (p.join ⟨name⟩))
    (hrun : (writeDocument d (p.join ⟨name⟩) : Disk _) t = (.ok record, t')) :
    Written t t' p name d.octets := by
  obtain ⟨t₁, hempty, hfull⟩ := writeDocument_eq_ok hrun
  obtain ⟨hfits, hproper, e, x, he, rfl, hfile⟩ := write_join h hplain hempty
  have hkeeps := keeps_put hfile .empty x
  have hnode : (t.put (e.1 ++ [name]) (.file .empty x)).node? (e.1 ++ [name]) =
      some (.file .empty x) := node?_concat_put e.1 name _
  have hplain₁ := plain_of_takes h (entrance_of_keeps hkeeps he) (takes_of_file hnode)
  obtain ⟨-, -, e', x', he', rfl, hfile'⟩ := write_join h hplain₁ hfull
  obtain rfl := Except.ok.inj ((entrance_of_keeps hkeeps he).symm.trans he')
  refine ⟨hfits, hproper, hkeeps.trans (keeps_put hfile' d.octets x'), e, x', he,
    node?_concat_put e.1 name _, fun q hq => ?_⟩
  rw [node?_put_of_ne hq, node?_put_of_ne hq]

/-- Documents that go to single names below a path, no two of them to one name. -/
structure Spread (p : Path) (items : List (Document × List UInt8)) : Prop where
  single : ∀ x ∈ items, IsSingle x.2
  different : items.Pairwise fun x y => x.2 ≠ y.2

/-- After a run every file holds its own document, and no other names in the directory are
touched. -/
theorem written_of_writeEach {items : List (Document × List UInt8)} (h : Spread p items)
    (hplain : ∀ x ∈ items, t.Plain (p.join ⟨x.2⟩)) {records : List FactFile}
    (hrun : (writeEach (items.map fun x => (x.1, p.join ⟨x.2⟩)) : Disk _) t = (.ok records, t')) :
    Keeps t t' ∧ (∀ x ∈ items, t'.read (p.join ⟨x.2⟩) = .ok x.1.octets) ∧
      ∀ e, t.entrance p = .ok e → ∀ n, (∀ x ∈ items, x.2 ≠ n) →
        t'.node? (e.1 ++ [n]) = t.node? (e.1 ++ [n]) := by
  induction items generalizing t records with
  | nil =>
    cases hrun
    exact ⟨Keeps.refl _, fun x hx => (List.not_mem_nil hx).elim, fun _ _ _ _ => rfl⟩
  | cons y items ih =>
    obtain ⟨hsingle, hdifferent⟩ := h
    rw [List.pairwise_cons] at hdifferent
    rw [List.forall_mem_cons] at hsingle hplain
    obtain ⟨record, records', t₁, hfirst, hrest⟩ := writeEach_cons_eq_ok hrun
    have hwritten := written_of_writeDocument hsingle.1 hplain.1 hfirst
    obtain ⟨e, x, he, hnode, hother⟩ := hwritten.node
    have he₁ := entrance_of_keeps hwritten.keeps he
    have hne {n : List UInt8} (hn : y.2 ≠ n) : e.1 ++ [y.2] ≠ e.1 ++ [n] :=
      fun heq => hn (List.singleton_inj.1 (List.append_cancel_left heq))
    have hplain₁ : ∀ z ∈ items, t₁.Plain (p.join ⟨z.2⟩) := by
      intro z hz place node hfind
      have hsame := hother _ (hne (hdifferent.1 z hz))
      rw [find_make_congr (hsingle.2 z hz) he₁ he hsame (fits_of_find hfind)] at hfind
      exact hplain.2 z hz place node hfind
    obtain ⟨hkeeps, hreads, hframe⟩ := ih ⟨hsingle.2, hdifferent.2⟩ hplain₁ hrest
    refine ⟨hwritten.keeps.trans hkeeps, ?_, ?_⟩
    · rw [List.forall_mem_cons]
      refine ⟨?_, hreads⟩
      have hlast := hframe e he₁ y.2 fun z hz heq => hdifferent.1 z hz heq.symm
      exact read_join hsingle.1 hwritten.fits hwritten.proper
        (entrance_of_keeps hkeeps he₁) (hlast.trans hnode)
    · intro e' he' n hn
      obtain rfl := Except.ok.inj (he.symm.trans he')
      rw [List.forall_mem_cons] at hn
      rw [hframe e he₁ n hn.2, hother _ (hne hn.1)]

theorem exists_writeEach {items : List (Document × List UInt8)} {e : Place × Nat}
    (he : t.entrance p = .ok e)
    (h : ∀ x ∈ items, IsSingle x.2 ∧ Fits (p.join ⟨x.2⟩) ∧ IsProper x.2 ∧ t.Takes (e.1 ++ [x.2])) :
    ∃ records t', (writeEach (items.map fun x => (x.1, p.join ⟨x.2⟩)) : Disk _) t =
      (.ok records, t') := by
  induction items generalizing t with
  | nil => exact ⟨[], t, rfl⟩
  | cons y items ih =>
    rw [List.forall_mem_cons] at h
    obtain ⟨⟨hsingle, hfits, hproper, htakes⟩, hrest⟩ := h
    obtain ⟨x, hempty⟩ := exists_write_join hsingle hfits hproper he htakes .empty
    have hemptied := takes_of_file (node?_concat_put (t := t) e.1 y.2 (.file .empty x))
    obtain ⟨x', hfull⟩ := exists_write_join hsingle hfits hproper
      (entrance_of_keeps (keeps_put htakes .empty x) he) hemptied y.1.octets
    have hfirst := writeDocument_of_writes hempty hfull
    obtain ⟨-, -, hkeeps, e', x'', he', hnode, hother⟩ :=
      written_of_writeDocument hsingle (plain_of_takes hsingle he htakes) hfirst
    obtain rfl := Except.ok.inj (he.symm.trans he')
    obtain ⟨records, t', hrun⟩ := ih (entrance_of_keeps hkeeps he) fun z hz => by
      obtain ⟨hsingle, hfits, hproper, htakes⟩ := hrest z hz
      refine ⟨hsingle, hfits, hproper, ?_⟩
      -- Here two documents may go to one name: the second then finds a file.
      by_cases hname : e.1 ++ [y.2] = e.1 ++ [z.2]
      · rw [← hname]
        exact takes_of_file hnode
      · intro node hn
        exact htakes node ((hother _ hname).symm.trans hn)
    exact ⟨_, t', writeEach_cons_of_ok hfirst hrun⟩

theorem writeDocuments_eq_ok {docs : List Document} {l : Layout} {records : List FactFile}
    (h : (writeDocuments docs l : Disk _) t = (.ok records, t')) :
    (writeEach (docs.zip (l.factFiles (docs.map (·.main)))) : Disk _)
      ((makeAllDirectories l.outDir : Disk _) t).2 = (.ok records, t') := by
  rw [writeDocuments, Disk.bind_apply] at h
  cases hmade : (makeAllDirectories l.outDir : Disk _) t with
  | mk result t₁ =>
    rw [hmade] at h
    cases result with
    | error fault => cases h
    | ok u => exact h

theorem writeDocuments_of_made {docs : List Document} {l : Layout} {t₁ : FileTree}
    {records : List FactFile} (hmade : (makeAllDirectories l.outDir : Disk _) t = (.ok (), t₁))
    (hrun : (writeEach (docs.zip (l.factFiles (docs.map (·.main)))) : Disk _) t₁ =
      (.ok records, t')) :
    (writeDocuments docs l : Disk _) t = (.ok records, t') := by
  rw [writeDocuments, Disk.bind_apply, hmade]
  exact hrun

end Generator

theorem makeAllDirectories_of_directory {t : FileTree} {p : Path} (hne : p.octets ≠ [])
    {place : Place} {node : Node} (hmake : t.find .make p = .ok (.present place node))
    (hkind : Disk.kindOf t p = some .directory) :
    (makeAllDirectories p : Disk _) t = (.ok (), t) := by
  have hthere : t.makeDirectory p = .error .alreadyThere := by rw [FileTree.makeDirectory, hmake]
  simp [makeAllDirectories, makeDirectories, hne, hthere, hkind]

namespace Layout

def nameOf (l : Layout) (stem : String) : List UInt8 := Utf8.encode (stem ++ "." ++ l.extension)

theorem encode_nameOf (l : Layout) (stem : String) :
    l.nameOf stem = Utf8.encode stem ++ Utf8.encode ("." ++ l.extension) := by
  rw [nameOf, String.append_assoc, Utf8.encode_append]

theorem isSingle_nameOf {l : Layout} {s : String} (hs : '/' ∉ s.toList)
    (hl : '/' ∉ l.extension.toList) : FileTree.IsSingle (l.nameOf s) := by
  constructor
  · rw [encode_nameOf, Utf8.encode_append]
    exact List.append_ne_nil_of_right_ne_nil _ (List.cons_ne_nil Path.dot _)
  · apply Path.slash_notMem_encode
    simp only [String.toList_append, List.mem_append, not_or]
    exact ⟨⟨hs, by decide⟩, hl⟩

def named (l : Layout) (docs : List Document) : List (Document × List UInt8) :=
  docs.map fun d => (d, l.nameOf (stem (docs.map (·.main)) d.main))

theorem names_named (l : Layout) (docs : List Document) :
    (l.named docs).map (·.2) =
      ((docs.map (·.main)).map (stem (docs.map (·.main)))).map l.nameOf := by
  rw [named, List.map_map, List.map_map, List.map_map]
  rfl

theorem zip_factFiles (l : Layout) (docs : List Document) :
    docs.zip (l.factFiles (docs.map (·.main))) =
      (l.named docs).map fun x => (x.1, l.outDir.join ⟨x.2⟩) := by
  have hfiles : l.factFiles (docs.map (·.main)) =
      docs.map fun d => l.factFile (docs.map (·.main)) d.main := by
    rw [factFiles, List.map_map]
    rfl
  rw [hfiles, ← List.map_prod_left_eq_zip, named, List.map_map]
  rfl

theorem spread_named {l : Layout} {docs : List Document}
    (hname : ∀ m ∈ docs.map (·.main), Path.IsName m.label) (hl : '/' ∉ l.extension.toList)
    (hdifferent : (docs.map (·.main)).Pairwise fun m m' =>
      stem (docs.map (·.main)) m ≠ stem (docs.map (·.main)) m') :
    Generator.Spread l.outDir (l.named docs) where
  single := by
    intro x hx
    obtain ⟨d, hd, rfl⟩ := List.mem_map.1 hx
    exact isSingle_nameOf (isName_stem (hname _ (List.mem_map_of_mem hd))).2 hl
  different := by
    rw [named, List.pairwise_map]
    refine (List.pairwise_map.1 hdifferent).imp fun hne heq => hne ?_
    rw [encode_nameOf, encode_nameOf] at heq
    exact Utf8.encode_inj (List.append_cancel_right heq)

/-- Fact files are different, and none is the summary, unless two binaries have one label and are
displayed alike, a label looks like one with a digest, or the label of the summary is that of one
binary. Then every file holds its own document after a run, if the files are not links. -/
theorem factFiles_kept (l : Layout) (mains : List Path)
    (hname : ∀ m ∈ mains, Path.IsName m.label)
    (hdigest : ∀ m ∈ mains, ∀ m' ∈ mains, pathDigest m = pathDigest m' → m.display = m'.display) :
    ((l.factFiles mains).Pairwise (fun f g => f.same g = false) ↔
      mains.Pairwise (fun m m' => ¬ (m.label = m'.label ∧ m.display = m'.display)) ∧
        ¬ Lookalike mains) ∧
    ((∃ f ∈ l.factFiles mains, f.same l.summary = true) ↔
      mains.countP (·.label = "run-summary") = 1 ∧
        (Path.ofString l.extension).same (Path.ofString "json") = true) ∧
    ((l.factFiles mains).Pairwise (fun f g => f.same g = false) → '/' ∉ l.extension.toList →
      ∀ (docs : List Document) (t t' : FileTree) (records : List FactFile),
        docs.map (·.main) = mains →
        (∀ f ∈ l.factFiles mains, ((makeAllDirectories l.outDir : Disk _) t).2.Plain f) →
        (Generator.writeDocuments docs l : Disk _) t = (.ok records, t') →
        ∀ x ∈ docs.zip (l.factFiles mains), t'.read x.2 = .ok x.1.octets) := by
  have hstems := pairwise_factFiles_iff l hname
  refine ⟨hstems.trans (pairwise_stem_iff hdigest), exists_factFile_same_summary_iff l hname, ?_⟩
  rintro hdifferent hl docs t t' records rfl hplain hrun x hx
  have hspread := spread_named hname hl (hstems.1 hdifferent)
  have hrun := Generator.writeDocuments_eq_ok hrun
  rw [zip_factFiles] at hrun hx
  have hplain' : ∀ y ∈ l.named docs,
      ((makeAllDirectories l.outDir : Disk _) t).2.Plain (l.outDir.join ⟨y.2⟩) := by
    intro y hy
    obtain ⟨d, hd, rfl⟩ := List.mem_map.1 hy
    exact hplain _ (List.mem_map_of_mem (List.mem_map_of_mem hd))
  obtain ⟨y, hy, rfl⟩ := List.mem_map.1 hx
  exact (Generator.written_of_writeEach hspread hplain' hrun).2.1 y hy

def namesakes : List Path := ["a/x", "b/x"].map Path.ofString

/-- A third one is called like the first with its digest. -/
def lookalikes : List Path := namesakes ++ [Path.ofString "c/x-1653a068"]

theorem digests_lookalikes :
    lookalikes.map pathDigest = ["1653a068", "5d9e8d00", "cffd507a"] := by
  decide +kernel

theorem digests_namesakes : namesakes.map pathDigest = ["1653a068", "5d9e8d00"] :=
  congrArg (List.take 2) digests_lookalikes

theorem display_of_nodup {mains : List Path} (h : (mains.map pathDigest).Nodup) :
    ∀ m ∈ mains, ∀ m' ∈ mains, pathDigest m = pathDigest m' → m.display = m'.display :=
  fun _ hm _ hm' he => congrArg Path.display (List.inj_on_of_nodup_map h hm hm' he)

theorem shared_namesakes : ∀ m ∈ namesakes, Shared namesakes m ∧ m.label = "x" := by decide

theorem stems_namesakes : namesakes.map (stem namesakes) = ["x-1653a068", "x-5d9e8d00"] := by
  have hstem : ∀ m ∈ namesakes, stem namesakes m = "x-" ++ pathDigest m := by
    intro m hm
    obtain ⟨hshared, hlabel⟩ := shared_namesakes m hm
    rw [stem_of_shared hshared, hlabel]
    rfl
  have hmap := congrArg (List.map ("x-" ++ ·)) digests_namesakes
  rw [List.map_map] at hmap
  exact (List.map_congr_left hstem).trans (hmap.trans (by decide))

def markers : List Document :=
  namesakes.map fun m =>
    ⟨m, [⟨"Main corpus: " ++ m.display, #[⟨"is_main_corpus", [.text m.display]⟩]⟩]⟩

def rootLayout : Layout := ⟨⟨[Path.slash]⟩, "facts"⟩

theorem creatable_namesakes : ∀ n ∈ (namesakes.map (stem namesakes)).map rootLayout.nameOf,
    FileTree.IsSingle n ∧ FileTree.Fits (rootLayout.outDir.join ⟨n⟩) ∧ FileTree.IsProper n := by
  have hnames : ∀ n ∈ ["x-1653a068", "x-5d9e8d00"].map rootLayout.nameOf,
      (n ≠ [] ∧ Path.slash ∉ n) ∧ ((rootLayout.outDir.join ⟨n⟩).octets.contains 0 = false ∧
        (rootLayout.outDir.join ⟨n⟩).octets.length ≤ FileTree.longestPath) ∧
      Path.isFiller n = false ∧ n ≠ [Path.dot, Path.dot] ∧ n.length ≤ FileTree.longestName := by
    decide
  rw [stems_namesakes]
  intro n hn
  obtain ⟨hsingle, hfits, hfiller, hup, hlength⟩ := hnames n hn
  exact ⟨hsingle, hfits, hfiller, hup, hlength⟩

theorem find_root (t : FileTree) (purpose : FileTree.Purpose) :
    t.find purpose ⟨[Path.slash]⟩ = .ok (.present [] .directory) := by
  rw [FileTree.find, FileTree.trace, if_neg (by decide), if_neg (by decide), if_neg (by decide)]
  simp [FileTree.seek, Path.splitSlashes, Path.isFiller, Path.isAbsolute]

theorem makeAllDirectories_root :
    (makeAllDirectories rootLayout.outDir : Disk _) {} = (.ok (), {}) := by
  refine makeAllDirectories_of_directory (by decide) (find_root {} .make) ?_
  rw [Disk.kindOf, FileTree.stat, FileTree.look, rootLayout, find_root {} .visit]
  rfl

theorem entrance_root :
    ({} : FileTree).entrance rootLayout.outDir = .ok ([], FileTree.mostLinks) := by
  simp [FileTree.entrance, rootLayout, Path.front, Path.splitSlashes, Path.isAbsolute,
    FileTree.enter, Path.isFiller]

theorem takes_empty (name : List UInt8) : ({} : FileTree).Takes ([] ++ [name]) :=
  FileTree.takes_of_none (by simp [FileTree.node?])

theorem exists_writeDocuments_markers :
    ∃ records t', (Generator.writeDocuments markers rootLayout : Disk _) {} = (.ok records, t') := by
  obtain ⟨records, t', hrun⟩ := Generator.exists_writeEach entrance_root fun x hx => by
    have hname : x.2 ∈ (namesakes.map (stem namesakes)).map rootLayout.nameOf :=
      names_named rootLayout markers ▸ List.mem_map_of_mem hx
    obtain ⟨hsingle, hfits, hproper⟩ := creatable_namesakes x.2 hname
    exact ⟨hsingle, hfits, hproper, takes_empty x.2⟩
  refine ⟨records, t', Generator.writeDocuments_of_made makeAllDirectories_root ?_⟩
  rw [zip_factFiles]
  exact hrun

theorem factFiles_kept_namesakes :
    (rootLayout.factFiles namesakes).Pairwise (fun f g => f.same g = false) ∧
      (¬ ∃ f ∈ rootLayout.factFiles namesakes, f.same rootLayout.summary = true) ∧
      ∃ records t', (Generator.writeDocuments markers rootLayout : Disk _) {} = (.ok records, t') ∧
        ∀ x ∈ markers.zip (rootLayout.factFiles namesakes), t'.read x.2 = .ok x.1.octets := by
  obtain ⟨hdifferent, hsummary, hkept⟩ := factFiles_kept rootLayout namesakes (by decide)
    (display_of_nodup (digests_namesakes ▸ by decide))
  have hnone : ¬ Lookalike namesakes :=
    fun ⟨_, _, m', hm', _, hs', _⟩ => hs' (shared_namesakes m' hm').1
  have hpairwise := hdifferent.2 ⟨by decide, hnone⟩
  refine ⟨hpairwise, fun h => absurd (hsummary.1 h).1 (by decide), ?_⟩
  obtain ⟨records, t', hrun⟩ := exists_writeDocuments_markers
  have hplain : ∀ f ∈ rootLayout.factFiles namesakes,
      ((makeAllDirectories rootLayout.outDir : Disk _) {}).2.Plain f := by
    intro f hf
    obtain ⟨m, hm, rfl⟩ := List.mem_map.1 hf
    obtain ⟨hsingle, -⟩ := creatable_namesakes _ (List.mem_map_of_mem (List.mem_map_of_mem hm))
    rw [makeAllDirectories_root]
    exact FileTree.plain_of_takes hsingle entrance_root (takes_empty _)
  exact ⟨records, t', hrun,
    hkept hpairwise (by decide) markers {} t' records (by decide) hplain hrun⟩

/-- Different paths without a collision of digests have one file, and a binary can have the file of
the summary. -/
theorem factFiles_lookalikes :
    lookalikes.Pairwise (fun m m' => m.same m' = false) ∧
      (∀ m ∈ lookalikes, ∀ m' ∈ lookalikes, pathDigest m = pathDigest m' → m.display = m'.display) ∧
      (¬ (rootLayout.factFiles lookalikes).Pairwise fun f g => f.same g = false) ∧
      ∃ f ∈ (⟨Path.ofString "out", "json"⟩ : Layout).factFiles [Path.ofString "d/run-summary"],
        f.same (⟨Path.ofString "out", "json"⟩ : Layout).summary = true := by
  have hdigest : ∀ m ∈ lookalikes, ∀ m' ∈ lookalikes, pathDigest m = pathDigest m' →
      m.display = m'.display := display_of_nodup (digests_lookalikes ▸ by decide)
  refine ⟨by decide, hdigest, fun h => ?_, by decide +kernel⟩
  have hstems := (pairwise_factFiles_iff rootLayout (by decide)).1 h
  have hfirst : pathDigest (Path.ofString "a/x") = "1653a068" :=
    List.head_eq_of_cons_eq digests_namesakes
  exact ((pairwise_stem_iff hdigest).1 hstems).2 ⟨Path.ofString "a/x", by decide,
    Path.ofString "c/x-1653a068", by decide, by decide, by decide, by rw [hfirst]; decide⟩

end Layout

end ElfFacts
