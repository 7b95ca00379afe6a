import ElfFacts.Proofs.Generator.Documents
import ElfFacts.Proofs.Generator.Libraries

/-!
# One more context input

Two runs are compared whose requests differ by one input that is not a main binary. Every document
of the second is that of the first with the blocks of the new input put in its place in each
section, and without the symbols that the input had as a needed library. Nothing else changes.
-/
namespace ElfFacts

/-- The request with one more library or one more compiler at the end. -/
def Request.Appended (r : Request) (l : Path) (r' : Request) : Prop :=
  r' = { r with libraries := r.libraries ++ [l] } ∨ r' = { r with compilers := r.compilers ++ [l] }

theorem Request.Appended.mains_eq {r r' : Request} {l : Path} (h : r.Appended l r') :
    r'.mains = r.mains := by
  rcases h with rfl | rfl <;> rfl

theorem Request.Appended.inputs {r r' : Request} {l : Path} (h : r.Appended l r')
    (hnew : ∀ p ∈ r.inputs, p.same l = false) :
    ∃ before after, r.inputs = before ++ after ∧ r'.inputs = before ++ l :: after := by
  have hall : ∀ p ∈ r.mains ++ r.libraries ++ r.compilers, p.parts ≠ l.parts := by
    intro p hp he
    obtain ⟨q, hq, hqp⟩ := exists_mem_inputs hp
    have hsame : q.same l = true := (Path.same_congr_left hqp l).trans (Path.same_iff.2 he)
    rw [hnew q hq] at hsame
    cases hsame
  rcases h with rfl | rfl
  · obtain ⟨front, back, hold, hnew⟩ := Path.distinctFrom_insert List.not_mem_nil hall
    refine ⟨front, back, hold, ?_⟩
    rw [← hnew, Request.inputs, Path.distinct]
    simp only [List.append_assoc, List.singleton_append]
  · rw [← List.append_nil (r.mains ++ r.libraries ++ r.compilers)] at hall
    obtain ⟨front, back, hold, hnew⟩ := Path.distinctFrom_insert List.not_mem_nil hall
    rw [List.append_nil] at hold
    refine ⟨front, back, hold, ?_⟩
    rw [← hnew, Request.inputs, Path.distinct]
    simp only [List.append_assoc]

theorem Request.same_mains_eq_false {r : Request} {l : Path}
    (hnew : ∀ p ∈ r.inputs, p.same l = false) : ∀ m ∈ r.mains, l.same m = false := by
  intro m hm
  obtain ⟨q, hq, hqm⟩ := exists_mem_inputs (r := r) (p := m) (by simp [hm])
  rw [Path.same_comm, ← Path.same_congr_left hqm, hnew q hq]

theorem Request.Appended.context {r r' : Request} {l : Path} {before after : List Path}
    (h : r.Appended l r') (hold : r.inputs = before ++ after)
    (hnew : r'.inputs = before ++ l :: after) (hmains : ∀ m ∈ r.mains, l.same m = false) :
    (r.context = (before.filter fun p => !r.mains.any p.same) ++
        after.filter fun p => !r.mains.any p.same) ∧
      r'.context = (before.filter fun p => !r.mains.any p.same) ++
        l :: after.filter fun p => !r.mains.any p.same := by
  constructor
  · rw [Request.context, hold, List.filter_append]
  · have hkeep : (fun p : Path => !r.mains.any p.same) l = true := by simpa using hmains
    rw [Request.context, h.mains_eq, hnew, List.filter_append]
    exact congrArg _ (List.filter_cons_of_pos hkeep)

namespace Generator

variable {s : Surroundings} {needed : NeededSymbols} {o : WalkOptions} {config : Config}
  {r r' : Request} {l : Path} {c : Corpus}

/-- A document without and with `l` among the context inputs, where `front` stands before its blocks
in every section, and `back` behind. -/
def Widened (s : Surroundings) (needed : NeededSymbols) (o : WalkOptions) (l : Path) (c : Corpus)
    (front back : List CorpusBlocks) (d d' : Document) : Prop :=
  d'.main = d.main ∧
    ∃ (marker : Block) (libraries : PathTable Block) (own : CorpusBlocks),
      SymbolsOf s needed libraries ∧
      (∀ x ∈ libraries, x.1 = l → x.2.facts = (c.ownBlocks needed o).symbols.facts) ∧
      (∃ p, p.same d.main = true ∧ BlocksOf s needed o p own) ∧
      d.blocks = marker :: (libraries.map (·.2) ++ bySection (own :: (front ++ back))) ∧
      d'.blocks = marker :: ((libraries.without l).map (·.2) ++
        bySection (own :: (front ++ c.ownBlocks needed o :: back)))

theorem assemble_insert {plan plan' : Plan} {t₁ t₂ : PathTable Corpus}
    {front back : List CorpusBlocks} (hl : s.load l = .ok c)
    (hcorpora : plan.corpora = t₁ ++ t₂) (hcorpora' : plan'.corpora = t₁ ++ (l, c) :: t₂)
    (hneeded : plan'.needed = plan.needed)
    (hsections : ∀ m x, m.same l = false → plan.corpora.get? m = some x →
      ∃ own, (∃ p, p.same m = true ∧ BlocksOf s plan.needed config.walkOptions p own) ∧
        sections plan.blocks (m :: plan.context) = bySection (own :: (front ++ back)) ∧
        sections plan'.blocks (m :: plan'.context) =
          bySection (own :: (front ++ c.ownBlocks plan.needed config.walkOptions :: back)))
    {known : PathTable Block} (hknown : SymbolsOf s plan.needed known) {mains : List Path}
    (hmains : ∀ m ∈ mains, m.same l = false) :
    List.Forall₂ (Widened s plan.needed config.walkOptions l c front back)
      (assemble s config plan known mains) (assemble s config plan' (known.without l) mains) := by
  induction mains generalizing known with
  | nil => exact List.Forall₂.nil
  | cons m mains ih =>
    have hm := hmains m (List.mem_cons_self ..)
    have hrest : ∀ m' ∈ mains, m'.same l = false :=
      fun m' hm' => hmains m' (List.mem_cons_of_mem m hm')
    have hget : plan'.corpora.get? m = plan.corpora.get? m := by
      rw [hcorpora, hcorpora', PathTable.get?_insert ((Path.same_comm l m).trans hm)]
    cases hx : plan.corpora.get? m with
    | none =>
      rw [assemble, assemble, hget, hx]
      exact ih hknown hrest
    | some x =>
      obtain ⟨own, hown, hold, hnew⟩ := hsections m x hm hx
      have hpaths : auxiliaryPaths s config plan'.corpora x =
          (auxiliaryPaths s config plan.corpora x).filter fun p => !p.same l := by
        rw [hcorpora, hcorpora', auxiliaryPaths_insert]
      obtain ⟨libraries, hlibraries, hsymbols, hlast, hwithout⟩ :=
        auxiliaries_without hknown l (auxiliaryPaths s config plan.corpora x)
      rw [assemble, assemble, hget, hx]
      dsimp only
      rw [hneeded, hpaths, hwithout]
      refine List.Forall₂.cons ⟨rfl, markerBlock m x, libraries, own, hsymbols, ?_, hown, ?_, ?_⟩
        (ih hlast hrest)
      · intro y hy he
        obtain ⟨c', hc', hy'⟩ := hsymbols y hy
        rw [he, hl, Except.ok.injEq] at hc'
        rw [hy', ← hc']
        rfl
      · rw [hlibraries, hold]
      · rw [hnew]

section Insertion

variable {t₁ t₂ : PathTable Corpus}

theorem needed_insert (config : Config) (hr : r.Appended l r')
    (hmains : ∀ m ∈ r.mains, l.same m = false) :
    (plan config r' (t₁ ++ (l, c) :: t₂)).needed = (plan config r (t₁ ++ t₂)).needed := by
  have hget : r.mains.filterMap (t₁ ++ (l, c) :: t₂).get? = r.mains.filterMap (t₁ ++ t₂).get? :=
    List.filterMap_congr fun m hm => PathTable.get?_insert (hmains m hm)
  rw [plan, plan, hr.mains_eq, hget]

theorem get?_blocks_insert (hpath : ∀ p c, s.load p = .ok c → c.path.same p = true)
    (hload : loadAll s r.inputs = .ok (t₁ ++ t₂))
    (hload' : loadAll s r'.inputs = .ok (t₁ ++ (l, c) :: t₂))
    (hneeded : (plan config r' (t₁ ++ (l, c) :: t₂)).needed = (plan config r (t₁ ++ t₂)).needed)
    {p : Path} (hp : l.same p = false) :
    (plan config r' (t₁ ++ (l, c) :: t₂)).blocks.get? p =
      (plan config r (t₁ ++ t₂)).blocks.get? p := by
  rw [plan_blocks hpath hload, plan_blocks hpath hload', hneeded, PathTable.get?_map,
    PathTable.get?_map, PathTable.get?_insert hp]

theorem get?_blocks_new (config : Config) (hpath : ∀ p c, s.load p = .ok c → c.path.same p = true)
    (hload' : loadAll s r'.inputs = .ok (t₁ ++ (l, c) :: t₂)) :
    (plan config r' (t₁ ++ (l, c) :: t₂)).blocks.get? l =
      some (c.ownBlocks (plan config r' (t₁ ++ (l, c) :: t₂)).needed config.walkOptions) := by
  have hmem : (l, c) ∈ t₁ ++ (l, c) :: t₂ := List.mem_append_right t₁ (List.mem_cons_self ..)
  rw [plan_blocks hpath hload', PathTable.get?_map,
    PathTable.get?_of_mem (pairwise_keys hload') hmem]
  rfl

theorem sections_insert (hpath : ∀ p c, s.load p = .ok c → c.path.same p = true)
    (hload : loadAll s r.inputs = .ok (t₁ ++ t₂))
    (hload' : loadAll s r'.inputs = .ok (t₁ ++ (l, c) :: t₂))
    (hneeded : (plan config r' (t₁ ++ (l, c) :: t₂)).needed = (plan config r (t₁ ++ t₂)).needed)
    {before after : List Path} (hcontext : r.context = before ++ after)
    (hcontext' : r'.context = before ++ l :: after) (hnew : ∀ p ∈ r.context, l.same p = false)
    {m : Path} {x : Corpus} (hm : m.same l = false) (hx : (t₁ ++ t₂).get? m = some x) :
    ∃ own, (∃ p, p.same m = true ∧
        BlocksOf s (plan config r (t₁ ++ t₂)).needed config.walkOptions p own) ∧
      sections (plan config r (t₁ ++ t₂)).blocks (m :: r.context) =
        bySection (own :: (before.filterMap (plan config r (t₁ ++ t₂)).blocks.get? ++
          after.filterMap (plan config r (t₁ ++ t₂)).blocks.get?)) ∧
      sections (plan config r' (t₁ ++ (l, c) :: t₂)).blocks (m :: r'.context) =
        bySection (own :: (before.filterMap (plan config r (t₁ ++ t₂)).blocks.get? ++
          c.ownBlocks (plan config r (t₁ ++ t₂)).needed config.walkOptions ::
            after.filterMap (plan config r (t₁ ++ t₂)).blocks.get?)) := by
  obtain ⟨own, hown, hget⟩ := get?_blocks_of_get? config hpath hload hx
  have hget' := get?_blocks_insert hpath hload hload' hneeded ((Path.same_comm l m).trans hm)
  have hl := get?_blocks_new config hpath hload'
  rw [hneeded] at hl
  have hsame : ∀ p ∈ before ++ after, (plan config r' (t₁ ++ (l, c) :: t₂)).blocks.get? p =
      (plan config r (t₁ ++ t₂)).blocks.get? p :=
    fun p hp => get?_blocks_insert hpath hload hload' hneeded (hnew p (hcontext ▸ hp))
  refine ⟨own, hown, ?_, ?_⟩
  · rw [sections_cons hget, hcontext, List.filterMap_append]
  · rw [sections_cons (hget'.trans hget), hcontext', List.filterMap_append,
      List.filterMap_cons_some hl,
      List.filterMap_congr fun p hp => hsame p (List.mem_append_left _ hp),
      List.filterMap_congr fun p hp => hsame p (List.mem_append_right _ hp)]

end Insertion

/-- One more context input succeeds where the run without it does, and changes nothing but its own
blocks. -/
theorem documents_appended {ds : List Document} (hds : documents s config r = .ok ds)
    (hpath : ∀ p c, s.load p = .ok c → c.path.same p = true)
    (hnew : ∀ p ∈ r.inputs, p.same l = false) (hfile : s.isFile l = true)
    (hl : s.load l = .ok c) (hr : r.Appended l r') :
    ∃ (corpora : PathTable Corpus) (before after : List Path) (front back : List CorpusBlocks)
      (ds' : List Document),
      loadAll s r.inputs = .ok corpora ∧
      r.context = before ++ after ∧ r'.context = before ++ l :: after ∧
      List.Forall₂ (BlocksOf s (plan config r corpora).needed config.walkOptions) before front ∧
      List.Forall₂ (BlocksOf s (plan config r corpora).needed config.walkOptions) after back ∧
      documents s config r' = .ok ds' ∧ ds'.map (·.main) = Path.distinct r.mains ∧
      List.Forall₂ (Widened s (plan config r corpora).needed config.walkOptions l c front back)
        ds ds' := by
  obtain ⟨hmains, hfiles, t, hload, rfl⟩ := documents_eq_ok_iff.1 hds
  obtain ⟨before, after, hold, hinputs⟩ := hr.inputs hnew
  obtain ⟨t₁, t₂, rfl, -, -, hload'⟩ := loadAll_insert (hold ▸ hload) hl
  rw [← hinputs] at hload'
  have hmain := Request.same_mains_eq_false hnew
  have hneeded : (plan config r' (t₁ ++ (l, c) :: t₂)).needed = (plan config r (t₁ ++ t₂)).needed :=
    needed_insert config hr hmain
  obtain ⟨hcontext, hcontext'⟩ := hr.context hold hinputs hmain
  have hinput : ∀ p ∈ r.context, p ∈ r.inputs := fun p hp => List.mem_of_mem_filter hp
  have hother : ∀ p ∈ r.context, l.same p = false :=
    fun p hp => (Path.same_comm l p).trans (hnew p (hinput p hp))
  have hblocks : ∀ p ∈ r.context, ∃ b, (plan config r (t₁ ++ t₂)).blocks.get? p = some b ∧
      BlocksOf s (plan config r (t₁ ++ t₂)).needed config.walkOptions p b :=
    fun p hp => get?_blocks hpath hload (hinput p hp)
  rw [hcontext] at hblocks
  have hfiles' : ∀ p ∈ r'.inputs, s.isFile p = true := by
    intro p hp
    rw [hinputs] at hp
    rcases List.mem_append.1 hp with hp | hp
    · exact hfiles p (hold ▸ List.mem_append_left _ hp)
    · rcases List.mem_cons.1 hp with rfl | hp
      · exact hfile
      · exact hfiles p (hold ▸ List.mem_append_right _ hp)
  have hds' : documents s config r' = .ok _ :=
    documents_eq_ok_iff.2 ⟨hr.mains_eq ▸ hmains, hfiles', _, hload', rfl⟩
  refine ⟨t₁ ++ t₂, _, _, _, _, _, hload, hcontext, hcontext',
    forall₂_filterMap fun p hp => hblocks p (List.mem_append_left _ hp),
    forall₂_filterMap fun p hp => hblocks p (List.mem_append_right _ hp), hds', ?_, ?_⟩
  · rw [map_main_documents hds', hr.mains_eq]
  · rw [hr.mains_eq]
    refine assemble_insert hl rfl rfl hneeded ?_ (fun x hx => (List.not_mem_nil hx).elim) ?_
    · intro m x hm hx
      exact sections_insert hpath hload hload' hneeded hcontext hcontext' hother hm hx
    · intro m hm
      rw [Path.same_comm]
      exact hmain m (Path.mem_of_mem_distinct hm)

def function (defined : Bool) : SymbolInfo where
  type := "func"
  binding := "global"
  visibility := "default"
  version := none
  defined := defined

def program : Corpus where
  path := Path.ofString "/a"
  needed := ["l.so"]
  symbols := Std.TreeMap.ofList [("f", function false)]

def library : Corpus where
  path := Path.ofString "/l.so"
  symbols := Std.TreeMap.ofList [("f@V1", function true)]

/-- Two files, and a linker that finds the library for every binary. -/
def twoFiles : Surroundings where
  isFile p := p = program.path ∨ p = library.path
  present p := p = program.path ∨ p = library.path
  load p :=
    if p = program.path then .ok program
    else if p = library.path then .ok library
    else .error (.io .missing)
  resolve _ := .ok [⟨"l.so", library.path⟩]

theorem same_of_load_twoFiles (p : Path) (c : Corpus) (h : twoFiles.load p = .ok c) :
    c.path.same p = true := by
  unfold twoFiles at h
  dsimp only at h
  split at h
  · next hp =>
    cases h
    exact hp ▸ Path.same_refl _
  · split at h
    · next hp =>
      cases h
      exact hp ▸ Path.same_refl _
    · cases h

def onlyProgram : Request where
  mains := [program.path]

def withLibrary : Request where
  mains := [program.path]
  libraries := [library.path]

/-- The library as an input takes the place of the needed library. -/
theorem documents_withLibrary :
    ∃ (corpora : PathTable Corpus) (front back : List CorpusBlocks) (ds ds' : List Document),
      documents twoFiles {} onlyProgram = .ok ds ∧ documents twoFiles {} withLibrary = .ok ds' ∧
      List.Forall₂ (Widened twoFiles (plan {} onlyProgram corpora).needed (Config.walkOptions {})
        library.path library front back) ds ds' := by
  have hds : documents twoFiles {} onlyProgram = .ok (assemble twoFiles {}
      (plan {} onlyProgram [(program.path, program)]) [] (Path.distinct onlyProgram.mains)) :=
    documents_eq_ok_iff.2 ⟨by decide, by decide +kernel, _, rfl, rfl⟩
  obtain ⟨corpora, -, -, front, back, ds', -, -, -, -, -, hds', -, hwidened⟩ :=
    documents_appended hds same_of_load_twoFiles (by decide +kernel) (by decide +kernel)
      (show twoFiles.load library.path = .ok library by rfl) (.inl rfl)
  exact ⟨corpora, front, back, _, ds', hds, hds', hwidened⟩

end Generator

end ElfFacts
