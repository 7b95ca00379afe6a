import ElfFacts.Proofs.Generator.Runtime

/-!
# The libraries that documents share

The table of library blocks only grows, and only at its end. So what a document is given for a
library is what the last table has for it, whatever other documents have asked for before, and a
library that cannot be read is in no table.
-/
namespace ElfFacts

namespace PathTable

variable {α : Type} {t t₁ : PathTable α} {p q : Path} {x : α}

theorem get?_cons (q : Path) (x : α) (t : PathTable α) (p : Path) :
    get? ((q, x) :: t) p = if q.same p then some x else get? t p := by
  cases h : q.same p <;> simp [get?, h]

theorem exists_mem_of_get? (h : get? t p = some x) : ∃ q, (q, x) ∈ t ∧ q.same p = true := by
  obtain ⟨y, hy, rfl⟩ := Option.map_eq_some_iff.1 h
  exact ⟨y.1, List.mem_of_find?_eq_some hy, by simpa using List.find?_some hy⟩

theorem get?_append_of_some (h : get? t p = some x) (t₁ : PathTable α) :
    get? (t ++ t₁) p = some x := by
  obtain ⟨y, hy, rfl⟩ := Option.map_eq_some_iff.1 h
  rw [get?, List.find?_append, hy]
  rfl

theorem get?_append_of_none (h : get? t p = none) (t₁ : PathTable α) :
    get? (t ++ t₁) p = get? t₁ p := by
  rw [get?, List.find?_append, Option.map_eq_none_iff.1 h]
  rfl

end PathTable

def Surroundings.reads (s : Surroundings) (p : Path) : Bool := (s.load p).isOk

namespace Generator

variable {s : Surroundings} {config : Config} {r : Request} {needed : NeededSymbols}
  {known shared : PathTable Block} {p : Path}

/-! ## One library after another -/

theorem auxiliary_grows (s : Surroundings) (needed : NeededSymbols) (known : PathTable Block)
    (p : Path) :
    ∃ more, (auxiliary s needed known p).2 = known ++ more ∧ SymbolsOf s needed more ∧
      ∀ x ∈ more, x.1 = p := by
  have hnone : SymbolsOf s needed [] := fun x hx => (List.not_mem_nil hx).elim
  rcases auxiliary_cases s needed known p with ⟨x, -, -, he⟩ | ⟨-, he | ⟨c, hc, he⟩⟩
  · exact ⟨[], by rw [he, List.append_nil], hnone, fun x hx => (List.not_mem_nil hx).elim⟩
  · exact ⟨[], by rw [he, List.append_nil], hnone, fun x hx => (List.not_mem_nil hx).elim⟩
  · refine ⟨[(p, auxiliaryBlock needed p c)], by rw [he], SymbolsOf.singleton hc, ?_⟩
    intro x hx
    rw [List.mem_singleton.1 hx]

theorem auxiliaries_grow (s : Surroundings) (needed : NeededSymbols) (known : PathTable Block)
    (paths : List Path) :
    ∃ more, (auxiliaries s needed known paths).2 = known ++ more ∧ SymbolsOf s needed more ∧
      ∀ x ∈ more, x.1 ∈ paths := by
  induction paths generalizing known with
  | nil =>
    exact ⟨[], (List.append_nil known).symm, fun x hx => (List.not_mem_nil hx).elim,
      fun x hx => (List.not_mem_nil hx).elim⟩
  | cons p paths ih =>
    obtain ⟨first, hfirst, hsymbols, hplace⟩ := auxiliary_grows s needed known p
    obtain ⟨others, hothers, hsymbols', hplaces⟩ := ih (auxiliary s needed known p).2
    refine ⟨first ++ others, ?_, hsymbols.append hsymbols', fun x hx => ?_⟩
    · rw [auxiliaries_cons, hothers, hfirst, List.append_assoc]
    · rcases List.mem_append.1 hx with hx | hx
      · exact hplace x hx ▸ List.mem_cons_self ..
      · exact List.mem_cons_of_mem p (hplaces x hx)

/-- The block that a table has for a library, with the facts of the symbols in its file. -/
def Serves (s : Surroundings) (needed : NeededSymbols) (shared : PathTable Block) (p : Path)
    (b : Block) : Prop :=
  shared.get? p = some b ∧ ∃ c, s.load p = .ok c ∧ b.facts.toList = c.symbolFacts needed

/-- Two spellings of a place give the same file, as far as both are among some paths. -/
def LoadsAlike (s : Surroundings) (among : Path → Prop) : Prop :=
  ∀ p q, among p → among q → p.same q = true → s.load p = s.load q

structure SymbolsAmong (s : Surroundings) (needed : NeededSymbols) (among : Path → Prop)
    (t : PathTable Block) : Prop where
  symbols : SymbolsOf s needed t
  among : ∀ x ∈ t, among x.1

variable {among : Path → Prop}

theorem SymbolsAmong.append {t₁ t₂ : PathTable Block} (h₁ : SymbolsAmong s needed among t₁)
    (h₂ : SymbolsAmong s needed among t₂) : SymbolsAmong s needed among (t₁ ++ t₂) where
  symbols := h₁.symbols.append h₂.symbols
  among x hx := (List.mem_append.1 hx).elim (h₁.among x) (h₂.among x)

theorem serves_of_get? (hsame : LoadsAlike s among)
    (hshared : SymbolsAmong s needed among shared) (hp : among p) {b : Block}
    (h : shared.get? p = some b) : Serves s needed shared p b := by
  obtain ⟨q, hmem, hq⟩ := PathTable.exists_mem_of_get? h
  obtain ⟨c, hc, hblock⟩ := hshared.symbols _ hmem
  refine ⟨h, c, (hsame q p (hshared.among _ hmem) hp hq).symm.trans hc, ?_⟩
  rw [show b = auxiliaryBlock needed q c from hblock]
  rfl

/-- A library that can be read gets the block of every later table, and another one gets none. -/
theorem auxiliary_serves (hsame : LoadsAlike s among)
    (hshared : SymbolsAmong s needed among shared) (hp : among p) {more : PathTable Block}
    (h : shared = (auxiliary s needed known p).2 ++ more) :
    List.Forall₂ (Serves s needed shared) ([p].filter s.reads)
      (auxiliary s needed known p).1.toList := by
  cases hk : known.get? p with
  | some b =>
    simp only [auxiliary, hk] at h ⊢
    have hserves : Serves s needed shared p b :=
      serves_of_get? hsame hshared hp (h ▸ PathTable.get?_append_of_some hk more)
    obtain ⟨-, c, hc, -⟩ := id hserves
    rw [List.filter_cons_of_pos (by rw [Surroundings.reads, hc]; rfl)]
    exact .cons hserves .nil
  | none =>
    cases hl : s.load p with
    | error fault =>
      simp only [auxiliary, hk, hl]
      rw [List.filter_cons_of_neg (by rw [Surroundings.reads, hl]; exact Bool.false_ne_true)]
      exact .nil
    | ok c =>
      simp only [auxiliary, hk, hl] at h ⊢
      rw [List.filter_cons_of_pos (by rw [Surroundings.reads, hl]; rfl)]
      refine .cons (serves_of_get? hsame hshared hp ?_) .nil
      rw [h, List.append_assoc, PathTable.get?_append_of_none hk, List.singleton_append,
        PathTable.get?_cons, if_pos (Path.same_refl p)]

theorem auxiliaries_serve (hsame : LoadsAlike s among)
    (hshared : SymbolsAmong s needed among shared) {paths : List Path}
    (hpaths : ∀ p ∈ paths, among p) {more : PathTable Block}
    (h : shared = (auxiliaries s needed known paths).2 ++ more) :
    List.Forall₂ (Serves s needed shared) (paths.filter s.reads)
      (auxiliaries s needed known paths).1 := by
  induction paths generalizing known with
  | nil => exact .nil
  | cons p paths ih =>
    rw [auxiliaries_cons] at h ⊢
    obtain ⟨others, hothers, -, -⟩ :=
      auxiliaries_grow s needed (auxiliary s needed known p).2 paths
    have hfirst : shared = (auxiliary s needed known p).2 ++ (others ++ more) := by
      rw [h, hothers, List.append_assoc]
    rw [← List.singleton_append, List.filter_append]
    have hp : among p := hpaths p (List.mem_cons_self ..)
    exact List.rel_append (auxiliary_serves hsame hshared hp hfirst)
      (ih (fun q hq => hpaths q (List.mem_cons_of_mem p hq)) h)

/-! ## One document after another -/

theorem auxiliaryPaths_of_silent {t : PathTable Corpus} {own : Corpus}
    (h : config.resolveNeeded = false ∨ ∃ fault, s.resolve own.path = .error fault) :
    auxiliaryPaths s config t own = [] := by
  unfold auxiliaryPaths
  rcases h with h | ⟨fault, h⟩
  · rw [h]
    rfl
  · rw [h]
    exact ite_self []

/-- What a main binary has in the documents of a run, and what it has in those of a run that does
not ask the linker. -/
def Extended (s : Surroundings) (config : Config) (plan : Plan) (shared : PathTable Block)
    (bare d : Document) : Prop :=
  ∃ (own : Corpus) (libraries : List Block),
    plan.corpora.get? d.main = some own ∧
    List.Forall₂ (Serves s plan.needed shared)
      ((auxiliaryPaths s config plan.corpora own).filter s.reads) libraries ∧
    bare = ⟨d.main, markerBlock d.main own :: sections plan.blocks (d.main :: plan.context)⟩ ∧
    d.blocks = markerBlock d.main own ::
      (libraries ++ sections plan.blocks (d.main :: plan.context))

theorem assemble_extended {plan : Plan} (hsame : LoadsAlike s among)
    (hknown : SymbolsAmong s plan.needed among known) {mains : List Path}
    (hmains : ∀ m ∈ mains, ∀ own, plan.corpora.get? m = some own →
      ∀ p ∈ auxiliaryPaths s config plan.corpora own, among p) :
    ∃ more : PathTable Block, SymbolsAmong s plan.needed among (known ++ more) ∧
      (∀ x ∈ more, plan.corpora.has x.1 = false) ∧
      List.Forall₂ (Extended s config plan (known ++ more))
        (assemble s { config with resolveNeeded := false } plan [] mains)
        (assemble s config plan known mains) := by
  induction mains generalizing known with
  | nil =>
    refine ⟨[], ?_, fun x hx => (List.not_mem_nil hx).elim, .nil⟩
    rwa [List.append_nil]
  | cons m mains ih =>
    have hlater := fun m' hm' => hmains m' (List.mem_cons_of_mem m hm')
    rw [assemble, assemble]
    cases hm : plan.corpora.get? m with
    | none => exact ih hknown hlater
    | some own =>
      have hpaths := hmains m (List.mem_cons_self ..) own hm
      obtain ⟨first, hfirst, hsymbols, hplaces⟩ := auxiliaries_grow s plan.needed known
        (auxiliaryPaths s config plan.corpora own)
      have hmore : SymbolsAmong s plan.needed among first :=
        ⟨hsymbols, fun x hx => hpaths x.1 (hplaces x hx)⟩
      obtain ⟨others, hothers, hapart, hrest⟩ := ih (hfirst ▸ hknown.append hmore) hlater
      refine ⟨first ++ others, ?_, fun x hx => ?_, ?_⟩
      · rwa [hfirst, List.append_assoc] at hothers
      · rcases List.mem_append.1 hx with hx | hx
        · obtain ⟨-, -, -, hnew⟩ := of_mem_auxiliaryPaths (hplaces x hx)
          exact hnew
        · exact hapart x hx
      · rw [← List.append_assoc, ← hfirst]
        have hsilent : auxiliaryPaths s { config with resolveNeeded := false } plan.corpora own =
            [] := auxiliaryPaths_of_silent (.inl rfl)
        simp only [hsilent]
        exact .cons ⟨own, _, hm, auxiliaries_serve hsame hothers hpaths rfl, rfl, rfl⟩ hrest

/-! ## The whole run -/

/-- The libraries of a listing that a main binary needs, that are there and that are no inputs: each
place once, where it is first listed. -/
def neededPlaces (s : Surroundings) (r : Request) (own : Corpus)
    (listing : List ResolvedLibrary) : List Path :=
  ((listing.filter fun l => own.needed.contains l.name && s.present l.path &&
    !(r.mains ++ r.libraries ++ r.compilers).any l.path.same).map (·.path)).eraseDupsBy Path.same

theorem has_eq_any {t : PathTable Corpus} (hload : loadAll s r.inputs = .ok t) (p : Path) :
    t.has p = (r.mains ++ r.libraries ++ r.compilers).any p.same := by
  rw [Bool.eq_iff_iff, has_iff_exists_mem_inputs hload, List.any_eq_true]
  constructor
  · rintro ⟨q, hq, hqp⟩
    exact ⟨q, Path.mem_of_mem_distinct hq, (Path.same_comm p q).trans hqp⟩
  · rintro ⟨q, hq, hpq⟩
    obtain ⟨q', hq', hsame⟩ := Request.exists_mem_inputs hq
    exact ⟨q', hq', (Path.same_congr_left hsame p).trans ((Path.same_comm q p).trans hpq)⟩

theorem auxiliaryPaths_of_listing {t : PathTable Corpus} (hload : loadAll s r.inputs = .ok t)
    (hresolve : config.resolveNeeded = true) {own : Corpus} {listing : List ResolvedLibrary}
    (hlisting : s.resolve own.path = .ok listing) :
    auxiliaryPaths s config t own = neededPlaces s r own listing := by
  rw [auxiliaryPaths, if_pos hresolve, hlisting, neededPlaces, ← Path.distinct_eq_eraseDupsBy]
  simp only [has_eq_any hload]

/-- What is said about the file of a member; its debugging facts depend on what else is walked. -/
def BlocksAbout (s : Surroundings) (needed : NeededSymbols) (p : Path) (b : CorpusBlocks) : Prop :=
  ∃ c facts, s.load p = .ok c ∧ b = ⟨c.metadataBlock, c.symbolBlock needed, c.debugBlock facts⟩

theorem exists_get?_allBlocks {o : WalkOptions} (ledgers : Ledgers) {t : PathTable Corpus}
    {c : Corpus} (h : t.get? p = some c) :
    ∃ facts, (allBlocks needed o ledgers t).get? p =
      some ⟨c.metadataBlock, c.symbolBlock needed, c.debugBlock facts⟩ := by
  induction t generalizing ledgers with
  | nil => cases h
  | cons x t ih =>
    rw [allBlocks, PathTable.get?_cons]
    rw [PathTable.get?_cons] at h
    by_cases hx : x.1.same p = true
    · rw [if_pos hx, Option.some.injEq] at h
      rw [if_pos hx, ← h]
      exact ⟨_, rfl⟩
    · rw [if_neg hx] at h ⊢
      exact ih _ h

theorem forall₂_blocksAbout {t : PathTable Corpus} (hload : loadAll s r.inputs = .ok t)
    {members : List Path} (h : ∀ p ∈ members, p ∈ r.inputs) :
    List.Forall₂ (BlocksAbout s (plan config r t).needed) members
      (members.filterMap (plan config r t).blocks.get?) := by
  refine forall₂_filterMap fun p hp => ?_
  obtain ⟨c, hc⟩ := exists_get?_of_mem_inputs hload (h p hp)
  obtain ⟨facts, hblocks⟩ := exists_get?_allBlocks {} hc
  exact ⟨_, hblocks, c, facts, (get?_eq_some_iff hload (h p hp)).1 hc, rfl⟩

/-- A document and the one of a run that does not ask the linker: they differ in the blocks of the
libraries that the linker lists, and those blocks come from a table. -/
def Supplied (s : Surroundings) (config : Config) (r : Request) (needed : NeededSymbols)
    (shared : PathTable Block) (bare d : Document) : Prop :=
  ∃ (own : Corpus) (libraries : List Block) (members : List CorpusBlocks),
    s.load d.main = .ok own ∧
    List.Forall₂ (BlocksAbout s needed) (r.members d.main) members ∧
    bare = ⟨d.main, markerBlock d.main own :: bySection members⟩ ∧
    d.blocks = markerBlock d.main own :: (libraries ++ bySection members) ∧
    (config.resolveNeeded = false ∨ (∃ fault, s.resolve own.path = .error fault) →
      libraries = []) ∧
    (config.resolveNeeded = true → ∀ listing, s.resolve own.path = .ok listing →
      List.Forall₂ (Serves s needed shared) ((neededPlaces s r own listing).filter s.reads)
        libraries)

theorem Extended.supplied {t : PathTable Corpus} (hload : loadAll s r.inputs = .ok t)
    {bare d : Document} (h : Extended s config (plan config r t) shared bare d)
    (hd : bare.main ∈ Path.distinct r.mains) :
    Supplied s config r (plan config r t).needed shared bare d := by
  obtain ⟨own, libraries, hown, hserved, rfl, hblocks⟩ := h
  have hinputs : ∀ p ∈ r.members d.main, p ∈ r.inputs :=
    fun p hp => Request.mem_inputs_of_mem_members hd hp
  have hself := (get?_eq_some_iff hload (hinputs _ (List.mem_cons_self ..))).1 hown
  have hmembers : sections (plan config r t).blocks (d.main :: (plan config r t).context) =
      bySection ((r.members d.main).filterMap (plan config r t).blocks.get?) := by
    rw [Request.members_eq]
    rfl
  rw [hmembers] at hblocks ⊢
  refine ⟨own, libraries, _, hself, forall₂_blocksAbout hload hinputs, rfl, hblocks, ?_, ?_⟩
  · intro hsilent
    have hnone : auxiliaryPaths s config (plan config r t).corpora own = [] :=
      auxiliaryPaths_of_silent hsilent
    rw [hnone] at hserved
    exact List.forall₂_nil_left_iff.1 hserved
  · intro hresolve listing hlisting
    have hplaces : auxiliaryPaths s config (plan config r t).corpora own =
        neededPlaces s r own listing := auxiliaryPaths_of_listing hload hresolve hlisting
    rwa [hplaces] at hserved

/-- A path that a run meets: one of the request, or that of a library of a main binary. -/
def Consulted (s : Surroundings) (r : Request) (p : Path) : Prop :=
  p ∈ r.mains ++ r.libraries ++ r.compilers ∨
    ∃ m ∈ r.mains, ∃ own l, s.load m = .ok own ∧ RuntimeLibrary s own l ∧ l.path = p

theorem consulted_of_mem_auxiliaryPaths (config : Config) {t : PathTable Corpus}
    (hload : loadAll s r.inputs = .ok t) {m p : Path} (hm : m ∈ Path.distinct r.mains)
    {own : Corpus} (hown : t.get? m = some own) (hp : p ∈ auxiliaryPaths s config t own) :
    Consulted s r p := by
  obtain ⟨l, hl, hlp, -⟩ := of_mem_auxiliaryPaths hp
  have hinput : m ∈ r.inputs := Request.mem_inputs_of_mem_members hm (List.mem_cons_self ..)
  exact .inr ⟨m, Path.mem_of_mem_distinct hm, own, l, (get?_eq_some_iff hload hinput).1 hown, hl,
    hlp⟩

/-- In a successful run, the document of a main binary differs from that of a run that does not ask
the linker by the symbols of the libraries that the binary needs at run time. All documents have
these from one table, and no document has a member at the place of a library in it. -/
theorem documents_supplied {ds : List Document} (hds : documents s config r = .ok ds)
    (hsame : LoadsAlike s (Consulted s r)) :
    ∃ (mains : List Corpus) (shared : PathTable Block) (bares : List Document),
      List.Forall₂ (fun p c => s.load p = .ok c) r.mains mains ∧
      SymbolsOf s (.ofMains mains) shared ∧
      documents s { config with resolveNeeded := false } r = .ok bares ∧
      ds.map (·.main) = r.mains.eraseDupsBy Path.same ∧
      List.Forall₂ (Supplied s config r (.ofMains mains) shared) bares ds ∧
      ∀ x ∈ shared, ∀ d ∈ ds, ∀ p ∈ r.members d.main, p.same x.1 = false := by
  have hplaces := map_main_documents hds
  obtain ⟨hmains, hfiles, t, hload, rfl⟩ := documents_eq_ok_iff.1 hds
  have hbares : documents s { config with resolveNeeded := false } r =
      .ok (assemble s { config with resolveNeeded := false } (plan config r t) []
        (Path.distinct r.mains)) :=
    documents_eq_ok_iff.2 ⟨hmains, hfiles, t, hload, rfl⟩
  have hplaces' := map_main_documents hbares
  have hnone : SymbolsAmong s (plan config r t).needed (Consulted s r) [] :=
    ⟨fun x hx => (List.not_mem_nil hx).elim, fun x hx => (List.not_mem_nil hx).elim⟩
  obtain ⟨shared, hshared, hapart, hextended⟩ := assemble_extended hsame hnone
    fun m hm own hown p hp => consulted_of_mem_auxiliaryPaths config hload hm hown hp
  rw [List.nil_append] at hshared hextended
  refine ⟨r.mains.filterMap t.get?, shared, _, forall₂_filterMap fun m hm => ?_, hshared.symbols,
    hbares, hplaces.trans (Path.distinct_eq_eraseDupsBy r.mains), ?_, fun x hx d hd p hp => ?_⟩
  · obtain ⟨c, hc⟩ := exists_get?_of_mem_mains hload hm
    obtain ⟨q, hq, hqm⟩ := PathTable.exists_mem_of_get? hc
    obtain ⟨hkeys, hloads⟩ := keys_of_loads (loadAll_eq_ok_iff.1 hload)
    have hinput : q ∈ r.inputs := hkeys ▸ List.mem_map_of_mem hq
    have hspelled : s.load q = s.load m :=
      hsame q m (.inl (Path.mem_of_mem_distinct hinput)) (.inl (by simp [hm])) hqm
    exact ⟨c, hc, hspelled.symm.trans (hloads _ hq)⟩
  · refine List.Forall₂.imp (fun bare d h => h.2.supplied hload h.1)
      ((List.forall₂_and_left _ _).2 ⟨fun bare hbare => ?_, hextended⟩)
    exact hplaces' ▸ List.mem_map_of_mem hbare
  · have hd' : d.main ∈ Path.distinct r.mains := hplaces ▸ List.mem_map_of_mem hd
    rw [← Bool.not_eq_true]
    intro hpx
    have hhas := (has_iff_exists_mem_inputs hload).2
      ⟨p, Request.mem_inputs_of_mem_members hd' hp, hpx⟩
    have hnot : t.has x.1 = false := hapart x hx
    rw [hhas] at hnot
    cases hnot

theorem load_respelled_of_same (p q : Path) (h : p.same q = true) :
    respelled.load p = respelled.load q := by
  simp only [respelled, Path.same_congr_left h]

theorem documents_supplied_respelled :
    ∃ (mains : List Corpus) (shared : PathTable Block) (bares ds : List Document),
      documents respelled {} onlyProgram = .ok ds ∧
      documents respelled { resolveNeeded := false } onlyProgram = .ok bares ∧
      List.Forall₂ (Supplied respelled {} onlyProgram (.ofMains mains) shared) bares ds ∧
      (neededPlaces respelled onlyProgram program [respelledLibrary]).filter respelled.reads =
        [respelledLibrary.path] := by
  have hds : documents respelled {} onlyProgram = .ok (assemble respelled {}
      (plan {} onlyProgram [(program.path, program)]) [] (Path.distinct onlyProgram.mains)) :=
    documents_eq_ok_iff.2 ⟨by decide, by decide, _, rfl, rfl⟩
  obtain ⟨mains, shared, bares, -, -, hbares, -, hsupplied, -⟩ :=
    documents_supplied hds fun p q _ _ => load_respelled_of_same p q
  exact ⟨mains, shared, bares, _, hds, hbares, hsupplied, by decide⟩

end Generator

end ElfFacts
