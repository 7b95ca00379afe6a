import ElfFacts.Proofs.Generator.Symbols

/-!
# How a document is put together

The document of a main binary starts with a marker and the symbols of its libraries. Then come the
sections of its members, which are the binary itself and the context inputs, each once and in the
order in which they are first named. What is said about a member is the same in every document.
-/
namespace ElfFacts

namespace Request

/-- The inputs that a document has sections on: its main binary, and every library and compiler that
is not a main binary. -/
def members (r : Request) (main : Path) : List Path :=
  main :: ((r.libraries ++ r.compilers).eraseDupsBy Path.same).filter fun p => !r.mains.any p.same

theorem inputs_eq (r : Request) :
    r.inputs = Path.distinct r.mains ++
      (Path.distinct (r.libraries ++ r.compilers)).filter fun p => !r.mains.any p.same := by
  rw [inputs, List.append_assoc, Path.distinct_append]

theorem members_eq (r : Request) (main : Path) : r.members main = main :: r.context := by
  have hmains : (Path.distinct r.mains).filter (fun p => !r.mains.any p.same) = [] := by
    rw [List.filter_eq_nil_iff]
    intro p hp
    have hany : r.mains.any p.same = true :=
      List.any_eq_true.2 ⟨p, Path.mem_of_mem_distinct hp, Path.same_refl p⟩
    rw [hany]
    exact Bool.false_ne_true
  rw [members, context, inputs_eq, List.filter_append, hmains, List.nil_append, List.filter_filter,
    Path.distinct_eq_eraseDupsBy]
  simp only [Bool.and_self]

theorem mem_inputs_of_mem_members {r : Request} {m p : Path} (hm : m ∈ Path.distinct r.mains)
    (hp : p ∈ r.members m) : p ∈ r.inputs := by
  rw [members_eq] at hp
  rcases List.mem_cons.1 hp with rfl | hp
  · rw [inputs_eq]
    exact List.mem_append_left _ hm
  · exact List.mem_of_mem_filter hp

end Request

namespace Generator

variable {s : Surroundings} {config : Config} {r : Request} {t : PathTable Corpus}

theorem get?_eq_some_iff (hload : loadAll s r.inputs = .ok t) {p : Path} (hp : p ∈ r.inputs)
    {c : Corpus} : t.get? p = some c ↔ s.load p = .ok c := by
  obtain ⟨hkeys, hloads⟩ := keys_of_loads (loadAll_eq_ok_iff.1 hload)
  rw [← hkeys] at hp
  obtain ⟨x, hx, rfl⟩ := List.mem_map.1 hp
  rw [PathTable.get?_of_mem (pairwise_keys hload) hx, hloads x hx, Option.some.injEq,
    Except.ok.injEq]

theorem forall₂_load (hload : loadAll s r.inputs = .ok t) {members : List Path}
    (h : ∀ p ∈ members, p ∈ r.inputs) :
    List.Forall₂ (fun p c => s.load p = .ok c) members (members.filterMap t.get?) := by
  refine forall₂_filterMap fun p hp => ?_
  obtain ⟨c, hc⟩ := exists_get?_of_mem_inputs hload (h p hp)
  exact ⟨c, hc, (get?_eq_some_iff hload (h p hp)).1 hc⟩

theorem sections_eq_bySection (hpath : ∀ p c, s.load p = .ok c → c.path.same p = true)
    (hload : loadAll s r.inputs = .ok t) (members : List Path) :
    sections (plan config r t).blocks members =
      bySection ((members.filterMap t.get?).map
        (·.ownBlocks (plan config r t).needed config.walkOptions)) := by
  have hget : (plan config r t).blocks.get? = fun p =>
      (t.get? p).map (·.ownBlocks (plan config r t).needed config.walkOptions) := by
    funext p
    rw [plan_blocks hpath hload, PathTable.get?_map]
  rw [sections, hget, ← List.map_filterMap]
  rfl

theorem bySection_ownBlocks (needed : NeededSymbols) (o : WalkOptions) (cs : List Corpus) :
    bySection (cs.map (·.ownBlocks needed o)) =
      cs.map (·.metadataBlock) ++ cs.map (·.symbolBlock needed) ++
        cs.map fun c => c.debugBlock (c.walkAll o {}).facts := by
  simp only [bySection, List.map_map]
  rfl

theorem facts_bySection (needed : NeededSymbols) (o : WalkOptions) (cs : List Corpus) :
    (bySection (cs.map (·.ownBlocks needed o))).flatMap (·.facts.toList) =
      cs.flatMap (·.metadata) ++ cs.flatMap (·.symbolFacts needed) ++
        cs.flatMap fun c => (c.walkAll o {}).facts.toList := by
  rw [bySection_ownBlocks, List.flatMap_append, List.flatMap_append, List.flatMap_map,
    List.flatMap_map, List.flatMap_map]
  rfl

theorem has_iff_exists_mem_inputs (hload : loadAll s r.inputs = .ok t) {p : Path} :
    t.has p = true ↔ ∃ q ∈ r.inputs, q.same p = true := by
  rw [← (keys_of_loads (loadAll_eq_ok_iff.1 hload)).1, ← List.any_eq_true, List.any_map]
  rfl

theorem documents_parts {ds : List Document} (hds : documents s config r = .ok ds) :
    ∃ t, loadAll s r.inputs = .ok t ∧
      List.Forall₂ (fun p c => t.get? p = some c) r.mains (r.mains.filterMap t.get?) ∧
      ∀ d ∈ ds, (∀ p ∈ r.members d.main, p ∈ r.inputs) ∧
        ∃ (own : Corpus) (libraries : PathTable Block), s.load d.main = .ok own ∧
          LibrariesOf s (plan config r t).needed (auxiliaryPaths s config t own) libraries ∧
          d.blocks = markerBlock d.main own ::
            (libraries.map (·.2) ++ sections (plan config r t).blocks (r.members d.main)) := by
  have hplaces := map_main_documents hds
  obtain ⟨-, -, t, hload, rfl⟩ := documents_eq_ok_iff.1 hds
  refine ⟨t, hload, forall₂_get? fun m hm => exists_get?_of_mem_mains hload hm, fun d hd => ?_⟩
  obtain ⟨own, libraries, hown, hlibraries, hblocks⟩ :=
    mem_assemble_libraries (fun x hx => (List.not_mem_nil hx).elim) hd
  have hmain : d.main ∈ Path.distinct r.mains := hplaces ▸ List.mem_map_of_mem hd
  have hinputs : ∀ p ∈ r.members d.main, p ∈ r.inputs :=
    fun p hp => Request.mem_inputs_of_mem_members hmain hp
  have hself := (get?_eq_some_iff hload (hinputs _ (List.mem_cons_self ..))).1 hown
  exact ⟨hinputs, own, libraries, hself, hlibraries, by rw [hblocks, Request.members_eq]; rfl⟩

/-- A document with a marker for its main binary, the symbols of the libraries that the binary needs
and that are not inputs, and the sections of its members: what each is, the symbols of each, and
what a walk of each alone reports. Nothing in the sections depends on which document it is. -/
def Assembled (s : Surroundings) (needed : NeededSymbols) (o : WalkOptions) (r : Request)
    (d : Document) : Prop :=
  ∃ (own : Corpus) (members : List Corpus) (marker : Block) (libraries : PathTable Block),
    s.load d.main = .ok own ∧
    List.Forall₂ (fun p c => s.load p = .ok c) (r.members d.main) members ∧
    marker.facts = #[⟨"is_main_corpus", [.text own.pathText]⟩] ∧
    SymbolsOf s needed libraries ∧
    (∀ x ∈ libraries, ∃ l, RuntimeLibrary s own l ∧ x.1.same l.path = true) ∧
    (∀ x ∈ libraries, ∀ p ∈ r.inputs, x.1.same p = false) ∧
    d.blocks = marker :: (libraries.map (·.2) ++ (members.map (·.metadataBlock) ++
      members.map (·.symbolBlock needed) ++
      members.map fun c => c.debugBlock (c.walkAll o {}).facts)) ∧
    d.facts = ⟨"is_main_corpus", [.text own.pathText]⟩ ::
      (libraries.flatMap (·.2.facts.toList) ++ (members.flatMap (·.metadata) ++
        members.flatMap (·.symbolFacts needed) ++
        members.flatMap fun c => (c.walkAll o {}).facts.toList))

/-- A successful run has a document for every main binary, without repetitions and in order, and
puts every document together in the same way from what is said about each input. -/
theorem documents_assembled {ds : List Document} (hds : documents s config r = .ok ds)
    (hpath : ∀ p c, s.load p = .ok c → c.path.same p = true) :
    ∃ (corpora : PathTable Corpus) (mains : List Corpus), loadAll s r.inputs = .ok corpora ∧
      List.Forall₂ (fun p c => corpora.get? p = some c) r.mains mains ∧
      ds.map (·.main) = r.mains.eraseDupsBy Path.same ∧
      ∀ d ∈ ds, Assembled s (.ofMains mains) config.walkOptions r d := by
  obtain ⟨t, hload, hmains, hparts⟩ := documents_parts hds
  refine ⟨t, r.mains.filterMap t.get?, hload, hmains,
    (map_main_documents hds).trans (Path.distinct_eq_eraseDupsBy r.mains), fun d hd => ?_⟩
  obtain ⟨hinputs, own, libraries, hown, hlibraries, hblocks⟩ := hparts d hd
  rw [sections_eq_bySection hpath hload] at hblocks
  refine ⟨own, (r.members d.main).filterMap t.get?, markerBlock d.main own, libraries, hown,
    forall₂_load hload hinputs, rfl, hlibraries.symbols, ?_, ?_, ?_, ?_⟩
  · intro x hx
    obtain ⟨p, hp, hxp⟩ := hlibraries.places x hx
    obtain ⟨l, hl, rfl, -⟩ := of_mem_auxiliaryPaths hp
    exact ⟨l, hl, hxp⟩
  · intro x hx q hq
    obtain ⟨p, hp, hxp⟩ := hlibraries.places x hx
    obtain ⟨-, -, -, hnew⟩ := of_mem_auxiliaryPaths hp
    rw [Path.same_congr_left hxp, ← Bool.not_eq_true]
    intro hpq
    have hhas := (has_iff_exists_mem_inputs hload).2 ⟨q, hq, (Path.same_comm q p).trans hpq⟩
    rw [hnew] at hhas
    cases hhas
  · rw [hblocks, bySection_ownBlocks]
    rfl
  · rw [Document.facts, hblocks, List.flatMap_cons, List.flatMap_append, facts_bySection,
      List.flatMap_map]
    rfl

def repeated : Request where
  mains := [program.path, program.path]
  libraries := [library.path, program.path]
  compilers := [library.path]

theorem documents_assembled_repeated :
    ∃ (corpora : PathTable Corpus) (mains : List Corpus) (ds : List Document),
      documents twoFiles {} repeated = .ok ds ∧ loadAll twoFiles repeated.inputs = .ok corpora ∧
      ds.map (·.main) = [program.path] ∧
      repeated.members program.path = [program.path, library.path] ∧
      ∀ d ∈ ds, Assembled twoFiles (.ofMains mains) (Config.walkOptions {}) repeated d := by
  have hds : documents twoFiles {} repeated = .ok (assemble twoFiles {}
      (plan {} repeated [(program.path, program), (library.path, library)]) []
      (Path.distinct repeated.mains)) :=
    documents_eq_ok_iff.2 ⟨by decide, by decide +kernel, _, rfl, rfl⟩
  obtain ⟨corpora, mains, hload, -, hplaces, hassembled⟩ :=
    documents_assembled hds same_of_load_twoFiles
  refine ⟨corpora, mains, _, hds, hload, hplaces.trans ?_, ?_, hassembled⟩
  · decide +kernel
  · decide +kernel

end Generator

end ElfFacts
