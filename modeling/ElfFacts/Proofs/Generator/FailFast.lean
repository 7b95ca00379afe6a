import ElfFacts.Proofs.Files.Still
import ElfFacts.Proofs.Generator.Documents
import ElfFacts.Proofs.Generator.Written

/-!
# How a run fails

A run fails if it has no main binary, else at the first input that is not a file, else at the first
input that cannot be read, and never later: neither the linker nor a library that it finds can make
a run fail. Until then the run has only looked at the file tree.
-/
namespace ElfFacts

def IsFirst (P : Path → Prop) (paths : List Path) (p : Path) : Prop :=
  ∃ before after, paths = before ++ p :: after ∧ P p ∧ ∀ q ∈ before, ¬ P q

namespace IsFirst

variable {P Q : Path → Prop} {paths : List Path} {p q : Path}

theorem mem (h : IsFirst P paths p) : p ∈ paths := by
  obtain ⟨before, after, rfl, -, -⟩ := h
  simp

theorem holds (h : IsFirst P paths p) : P p := by
  obtain ⟨-, -, -, hp, -⟩ := h
  exact hp

theorem not_nil : ¬ IsFirst P [] p := fun h => List.not_mem_nil h.mem

theorem cons_iff : IsFirst P (q :: paths) p ↔ (q = p ∧ P p) ∨ (¬ P q ∧ IsFirst P paths p) := by
  constructor
  · rintro ⟨before, after, heq, hp, hbefore⟩
    cases before with
    | nil => exact .inl ⟨(List.cons.inj heq).1, hp⟩
    | cons x before =>
      obtain ⟨rfl, rfl⟩ := List.cons.inj heq
      obtain ⟨hq, hrest⟩ := List.forall_mem_cons.1 hbefore
      exact .inr ⟨hq, before, after, rfl, hp, hrest⟩
  · rintro (⟨rfl, hp⟩ | ⟨hq, before, after, rfl, hp, hbefore⟩)
    · exact ⟨[], paths, rfl, hp, fun _ hx => (List.not_mem_nil hx).elim⟩
    · exact ⟨q :: before, after, rfl, hp, List.forall_mem_cons.2 ⟨hq, hbefore⟩⟩

theorem congr (hPQ : ∀ q ∈ paths, P q ↔ Q q) (h : IsFirst P paths p) : IsFirst Q paths p := by
  obtain ⟨before, after, rfl, hp, hbefore⟩ := h
  refine ⟨before, after, rfl, (hPQ p (by simp)).1 hp, fun q hq hQ => hbefore q hq ?_⟩
  exact (hPQ q (List.mem_append_left _ hq)).2 hQ

theorem find?_eq_some_iff {f : Path → Bool} :
    paths.find? f = some p ↔ IsFirst (fun q => f q = true) paths p := by
  simp [List.find?_eq_some_iff_append, IsFirst, and_left_comm]

end IsFirst

namespace Generator

variable {s s' : Surroundings} {config : Config} {r : Request} {fault : RunFault}

def Loadable (s : Surroundings) (p : Path) : Prop := ∃ c, s.load p = .ok c

/-- The failures of a run, in the order in which they are looked for. -/
inductive Fails (s : Surroundings) (r : Request) : RunFault → Prop
  | noMain (hmains : r.mains = []) : Fails s r .noMainBinaries
  | missing {p : Path} (hmains : r.mains ≠ [])
      (hfirst : IsFirst (fun q => s.isFile q = false) r.inputs p) : Fails s r (.missingInput p)
  | unreadable {p : Path} {fault : ReaderFault} (hmains : r.mains ≠ [])
      (hfiles : ∀ q ∈ r.inputs, s.isFile q = true)
      (hfirst : IsFirst (fun q => ¬ Loadable s q) r.inputs p) (hload : s.load p = .error fault) :
      Fails s r (.reader p fault)

theorem fails_iff_of_noMain (hmains : r.mains = []) : Fails s r fault ↔ fault = .noMainBinaries := by
  constructor
  · intro h
    cases h with
    | noMain => rfl
    | missing hne => exact absurd hmains hne
    | unreadable hne => exact absurd hmains hne
  · rintro rfl
    exact .noMain hmains

theorem loadAll_eq_error_iff {paths : List Path} :
    loadAll s paths = .error fault ↔
      ∃ p reason, IsFirst (fun q => ¬ Loadable s q) paths p ∧ s.load p = .error reason ∧
        fault = .reader p reason := by
  induction paths with
  | nil => simp [loadAll, IsFirst.not_nil]
  | cons q paths ih =>
    cases hq : s.load q with
    | error reason =>
      have hnot : ¬ Loadable s q := by simp [Loadable, hq]
      simp [loadAll, IsFirst.cons_iff, hq, hnot, eq_comm]
    | ok c =>
      have hread : Loadable s q := ⟨c, hq⟩
      have hrest : loadAll s (q :: paths) = .error fault ↔ loadAll s paths = .error fault := by
        simp only [loadAll, hq]
        cases loadAll s paths <;> simp [Except.map]
      simp only [hrest, ih, IsFirst.cons_iff, hread, not_true_eq_false, not_false_eq_true, true_and]
      constructor
      · rintro ⟨p, reason, hfirst, hload, rfl⟩
        exact ⟨p, reason, .inr hfirst, hload, rfl⟩
      · rintro ⟨p, reason, ⟨rfl, hnot⟩ | hfirst, hload, rfl⟩
        · exact absurd hread hnot
        · exact ⟨p, reason, hfirst, hload, rfl⟩

theorem find?_missing_iff {p : Path} : (r.inputs.find? fun q => !s.isFile q) = some p ↔
    IsFirst (fun q => s.isFile q = false) r.inputs p := by
  simp only [IsFirst.find?_eq_some_iff, Bool.not_eq_true']

theorem documents_eq_error_iff : documents s config r = .error fault ↔ Fails s r fault := by
  constructor
  · intro h
    unfold documents at h
    split at h
    · next hmains =>
      obtain rfl := Except.error.inj h
      exact .noMain hmains
    · next hmains =>
      split at h
      · next p hfind =>
        obtain rfl := Except.error.inj h
        exact .missing hmains (find?_missing_iff.1 hfind)
      · next hfind =>
        split at h
        · next fault' hload =>
          obtain rfl := Except.error.inj h
          obtain ⟨p, reason, hfirst, hp, rfl⟩ := loadAll_eq_error_iff.1 hload
          exact .unreadable hmains (by simpa using hfind) hfirst hp
        · cases h
  · intro h
    unfold documents
    cases h with
    | noMain hmains => rw [if_pos hmains]
    | missing hmains hfirst => rw [if_neg hmains, find?_missing_iff.2 hfirst]
    | unreadable hmains hfiles hfirst hload =>
      have hfind : r.inputs.find? (fun q => !s.isFile q) = none := by simpa using hfiles
      rw [if_neg hmains, hfind, loadAll_eq_error_iff.2 ⟨_, _, hfirst, hload, rfl⟩]

theorem exists_documents_iff : (∃ ds, documents s config r = .ok ds) ↔
    r.mains ≠ [] ∧ ∀ p ∈ r.inputs, s.isFile p = true ∧ Loadable s p := by
  simp only [documents_eq_ok_iff]
  constructor
  · rintro ⟨ds, hmains, hfiles, t, hload, -⟩
    obtain ⟨hkeys, hloads⟩ := keys_of_loads (loadAll_eq_ok_iff.1 hload)
    refine ⟨hmains, fun p hp => ⟨hfiles p hp, ?_⟩⟩
    rw [← hkeys] at hp
    obtain ⟨x, hx, rfl⟩ := List.mem_map.1 hp
    exact ⟨x.2, hloads x hx⟩
  · rintro ⟨hmains, hinputs⟩
    cases hload : loadAll s r.inputs with
    | ok t => exact ⟨_, hmains, fun p hp => (hinputs p hp).1, t, rfl, rfl⟩
    | error fault =>
      obtain ⟨p, -, hfirst, -⟩ := loadAll_eq_error_iff.1 hload
      exact absurd (hinputs p hfirst.mem).2 hfirst.holds

theorem Fails.congr (hfile : ∀ p ∈ r.inputs, s'.isFile p = s.isFile p)
    (hload : (∀ p ∈ r.inputs, s.isFile p = true) → ∀ p ∈ r.inputs, s'.load p = s.load p)
    (h : Fails s r fault) : Fails s' r fault := by
  cases h with
  | noMain hmains => exact .noMain hmains
  | missing hmains hfirst =>
    exact .missing hmains (hfirst.congr fun q hq => by rw [hfile q hq])
  | unreadable hmains hfiles hfirst hp =>
    refine .unreadable hmains (fun q hq => (hfile q hq).trans (hfiles q hq)) ?_
      ((hload hfiles _ hfirst.mem).trans hp)
    exact hfirst.congr fun q hq => by rw [Loadable, Loadable, hload hfiles q hq]

end Generator

def FileTree.sight (t : FileTree) (means : Survey.Means Disk) : Surroundings where
  isFile p := Disk.kindOf t p = some .file
  present p := (Disk.kindOf t p).isSome
  load p := (means.load p t).1
  resolve p := (means.resolve p t).1

namespace Survey

variable {means : Means Disk} {s s' s'' : Survey} {t : FileTree} {p : Path}

structure Extends (s s' : Survey) : Prop where
  files : s.files <+: s'.files
  corpora : s.corpora <+: s'.corpora

namespace Extends

theorem refl (s : Survey) : Extends s s := ⟨List.prefix_refl _, List.prefix_refl _⟩

theorem trans (h : Extends s s') (h' : Extends s' s'') : Extends s s'' :=
  ⟨h.files.trans h'.files, h.corpora.trans h'.corpora⟩

theorem isFile (h : Extends s s') (hp : p ∈ s.files) : s'.surroundings.isFile p = true :=
  List.contains_iff_mem.2 (h.files.subset hp)

theorem load (h : Extends s s') {c : Except ReaderFault Corpus} (hp : s.corpora.lookup p = some c) :
    s'.surroundings.load p = c := by
  change (s'.corpora.lookup p).getD _ = c
  rw [h.corpora.lookup_eq_some hp, Option.getD_some]

end Extends

theorem addFiles_apply (s : Survey) (paths : List Path) (t : FileTree) :
    (addFiles s paths : Disk Survey) t =
      ({ s with files := s.files ++ paths.filter fun p => Disk.kindOf t p = some .file
                present := s.present ++ paths.filter fun p => (Disk.kindOf t p).isSome }, t) := by
  induction paths generalizing s with
  | nil => simp [addFiles]
  | cons p paths ih =>
    rw [addFiles, Disk.bind_apply, Disk.kind_apply]
    cases hkind : Disk.kindOf t p with
    | none => simp [ih, hkind]
    | some k => cases k <;> simp [ih, hkind]

theorem addLoads_apply (hload : ∀ p, Disk.Still (means.load p)) (s : Survey) (paths : List Path)
    (t : FileTree) :
    (addLoads means s paths : Disk Survey) t =
      ({ s with corpora := s.corpora ++ paths.map fun p => (p, (means.load p t).1) }, t) := by
  induction paths generalizing s with
  | nil => simp [addLoads]
  | cons p paths ih =>
    rw [addLoads, Disk.bind_apply, hload p t, ih]
    simp

theorem extends_addFiles (s : Survey) (paths : List Path) (t : FileTree) :
    Extends s ((addFiles s paths : Disk Survey) t).1 := by
  rw [addFiles_apply]
  exact ⟨List.prefix_append _ _, List.prefix_refl _⟩

theorem extends_addLoads (hload : ∀ p, Disk.Still (means.load p)) (s : Survey) (paths : List Path)
    (t : FileTree) : Extends s ((addLoads means s paths : Disk Survey) t).1 := by
  rw [addLoads_apply hload]
  exact ⟨List.prefix_refl _, List.prefix_append _ _⟩

theorem extends_addListings (means : Means Disk) (s : Survey) (paths : List Path) (t : FileTree) :
    Extends s ((addListings means s paths : Disk Survey) t).1 := by
  induction paths generalizing s t with
  | nil => exact .refl s
  | cons p paths ih =>
    rw [addListings]
    cases s.corpora.lookup p with
    | none => exact ih s t
    | some found =>
      cases found with
      | error fault => exact ih s t
      | ok c =>
        have hadded (listing : Except LinkerFault (List ResolvedLibrary)) :
            Extends s { s with listings := s.listings ++ [(c.path, listing)] } :=
          ⟨List.prefix_refl _, List.prefix_refl _⟩
        exact (hadded _).trans (ih _ _)

theorem extends_addLibraries (hload : ∀ p, Disk.Still (means.load p)) (s : Survey)
    (mains : List Path) (t : FileTree) :
    Extends s ((addLibraries means s mains : Disk Survey) t).1 := by
  simp only [addLibraries, Disk.bind_apply]
  refine (extends_addListings means s (Path.distinct mains) t).trans ?_
  exact (extends_addFiles _ _ _).trans (extends_addLoads hload _ _ _)

theorem lookup_map_self {α : Type} (f : Path → α) {paths : List Path} (hp : p ∈ paths) :
    (paths.map fun q => (q, f q)).lookup p = some (f p) := by
  induction paths with
  | nil => cases hp
  | cons q paths ih =>
    by_cases hq : p = q
    · rw [hq, List.map_cons, List.lookup_cons_self]
    · have hne : (p == q) = false := beq_false_of_ne hq
      rw [List.map_cons, List.lookup_cons, hne]
      exact ih ((List.mem_cons.1 hp).resolve_left hq)

variable (means t) in
def seen (paths : List Path) : Survey where
  files := paths.filter (t.sight means).isFile
  present := paths.filter (t.sight means).present

variable (means t) in
def loaded (paths : List Path) : Survey :=
  { seen means t paths with corpora := paths.map fun p => (p, (t.sight means).load p) }

variable (config : Config) {r : Request}

theorem contains_seen {paths : List Path} (hp : p ∈ paths) :
    (seen means t paths).files.contains p = (t.sight means).isFile p := by
  change (paths.filter _).contains p = _
  rw [Bool.eq_iff_iff, List.contains_iff_mem, List.mem_filter, and_iff_right hp]

theorem any_not_contains_seen_iff {paths : List Path} :
    (paths.any fun p => !(seen means t paths).files.contains p) = true ↔
      ∃ p ∈ paths, (t.sight means).isFile p = false := by
  rw [List.any_eq_true]
  refine exists_congr fun p => and_congr_right fun hp => ?_
  rw [contains_seen hp, Bool.not_eq_true']

theorem hasRead_loaded_iff {paths : List Path} : (loaded means t paths).hasRead paths = true ↔
    ∀ p ∈ paths, Generator.Loadable (t.sight means) p := by
  rw [hasRead, List.all_eq_true]
  refine forall₂_congr fun p hp => ?_
  have hlookup : (loaded means t paths).corpora.lookup p = some ((t.sight means).load p) :=
    lookup_map_self _ hp
  rw [hlookup, Option.any_some, Generator.Loadable]
  cases (t.sight means).load p <;> simp [Except.isOk, Except.toBool]

theorem take_eq (hload : ∀ p, Disk.Still (means.load p)) (hmains : r.mains ≠ []) :
    (take means config r : Disk Survey) t =
      if r.inputs.any (!(seen means t r.inputs).files.contains ·) then (seen means t r.inputs, t)
      else if config.resolveNeeded && (loaded means t r.inputs).hasRead r.inputs then
        addLibraries means (loaded means t r.inputs) r.mains t
      else (loaded means t r.inputs, t) := by
  have hseen : (addFiles {} r.inputs : Disk Survey) t = (seen means t r.inputs, t) :=
    addFiles_apply {} r.inputs t
  have hloaded : (addLoads means (seen means t r.inputs) r.inputs : Disk Survey) t =
      (loaded means t r.inputs, t) := addLoads_apply hload _ r.inputs t
  rw [take, if_neg hmains, Disk.bind_apply, hseen]
  dsimp only
  split
  · rfl
  · rw [Disk.bind_apply, hloaded]
    dsimp only
    split <;> rfl

theorem extends_take (hload : ∀ p, Disk.Still (means.load p)) (hmains : r.mains ≠ [])
    (hfiles : ∀ p ∈ r.inputs, (t.sight means).isFile p = true) :
    Extends (loaded means t r.inputs) ((take means config r : Disk Survey) t).1 := by
  have hseen : ¬ (r.inputs.any fun p => !(seen means t r.inputs).files.contains p) = true := by
    rw [any_not_contains_seen_iff]
    rintro ⟨p, hp, hmissing⟩
    exact absurd (hfiles p hp) (Bool.eq_false_iff.1 hmissing)
  rw [take_eq config hload hmains, if_neg hseen]
  split
  · exact extends_addLibraries hload _ r.mains t
  · exact .refl _

/-- A survey tells of the inputs what the tree holds, as far as a run asks. -/
theorem sees_take (hload : ∀ p, Disk.Still (means.load p)) (hmains : r.mains ≠ []) :
    let s := ((take means config r : Disk Survey) t).1.surroundings
    (∀ p ∈ r.inputs, s.isFile p = (t.sight means).isFile p) ∧
      ((∀ p ∈ r.inputs, (t.sight means).isFile p = true) →
        ∀ p ∈ r.inputs, s.load p = (t.sight means).load p) := by
  by_cases hfiles : ∀ p ∈ r.inputs, (t.sight means).isFile p = true
  · have hextends := extends_take config hload hmains hfiles
    refine ⟨fun p hp => ?_, fun _ p hp => hextends.load (lookup_map_self _ hp)⟩
    rw [hfiles p hp]
    exact hextends.isFile (List.mem_filter.2 ⟨hp, hfiles p hp⟩)
  · have hmissing : ∃ p ∈ r.inputs, (t.sight means).isFile p = false := by simpa using hfiles
    refine ⟨fun p hp => ?_, fun h => absurd h hfiles⟩
    rw [take_eq config hload hmains, if_pos (any_not_contains_seen_iff.2 hmissing)]
    exact contains_seen hp

theorem take_of_noMain (hmains : r.mains = []) :
    (take means config r : Disk Survey) t = ({}, t) := by
  rw [take, if_pos hmains]
  rfl

theorem documents_take_eq_error_iff (hload : ∀ p, Disk.Still (means.load p)) {fault : RunFault} :
    Generator.documents ((take means config r : Disk Survey) t).1.surroundings config r =
      .error fault ↔ Generator.Fails (t.sight means) r fault := by
  rw [Generator.documents_eq_error_iff]
  by_cases hmains : r.mains = []
  · rw [Generator.fails_iff_of_noMain hmains, Generator.fails_iff_of_noMain hmains]
  · obtain ⟨hfile, hread⟩ := sees_take (t := t) config hload hmains
    constructor
    · refine Generator.Fails.congr (fun p hp => (hfile p hp).symm) fun hfiles p hp => ?_
      exact (hread (fun q hq => (hfile q hq).symm.trans (hfiles q hq)) p hp).symm
    · exact Generator.Fails.congr hfile hread

theorem still_take_of_fails (hload : ∀ p, Disk.Still (means.load p)) {fault : RunFault}
    (h : Generator.Fails (t.sight means) r fault) :
    ((take means config r : Disk Survey) t).2 = t := by
  cases h with
  | noMain hmains => rw [take_of_noMain config hmains]
  | missing hmains hfirst =>
    have hseen := any_not_contains_seen_iff.2 ⟨_, hfirst.mem, hfirst.holds⟩
    rw [take_eq config hload hmains, if_pos hseen]
  | unreadable hmains _ hfirst _ =>
    have hread : (loaded means t r.inputs).hasRead r.inputs = false := by
      rw [Bool.eq_false_iff, ne_eq, hasRead_loaded_iff]
      exact fun h => hfirst.holds (h _ hfirst.mem)
    rw [take_eq config hload hmains, hread, Bool.and_false]
    split <;> rfl

end Survey

namespace Generator

variable {config : Config} {r : Request} {layout : Layout} {fault : RunFault}

/-- A run that fails before anything is written does nothing to its surroundings. -/
theorem generate_of_documents {m : Type → Type} [Monad m] [Host m] {s : Surroundings}
    (h : documents s config r = .error fault) :
    (generate s config r layout : m _) = pure (.error fault) := by
  rw [generate, h]

theorem run_of_fails {means : Survey.Means Disk} (hload : ∀ p, Disk.Still (means.load p))
    {t : FileTree} (h : Fails (t.sight means) r fault) :
    (run means config r layout : Disk _) t = (.error fault, t) := by
  have hdocuments := (Survey.documents_take_eq_error_iff config hload).2 h
  rw [run, Disk.bind_apply, generate_of_documents hdocuments, Disk.pure_apply,
    Survey.still_take_of_fails config hload h]

end Generator

end ElfFacts
