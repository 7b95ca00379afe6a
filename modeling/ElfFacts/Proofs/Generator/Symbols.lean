import ElfFacts.Proofs.Generator.Context
import ElfFacts.Proofs.Symbols.Filter

/-!
# Symbols in the documents of a run

In every document the symbols of the main binary, of the context inputs and of the needed libraries
are told by one rule: a symbol is there if some main binary of the run has the bare name, too. This
does not depend on which document it is, or on the way in which the binary came into it.
-/
namespace ElfFacts.Generator

variable {s : Surroundings} {needed : NeededSymbols} {o : WalkOptions} {config : Config}
  {r : Request} {t : PathTable Corpus}

theorem mem_assemble_libraries {plan : Plan} {known : PathTable Block} {mains : List Path}
    {d : Document} (hknown : SymbolsOf s plan.needed known)
    (hd : d ∈ assemble s config plan known mains) :
    ∃ (own : Corpus) (libraries : PathTable Block), plan.corpora.get? d.main = some own ∧
      LibrariesOf s plan.needed (auxiliaryPaths s config plan.corpora own) libraries ∧
      d.blocks = markerBlock d.main own ::
        (libraries.map (·.2) ++ sections plan.blocks (d.main :: plan.context)) := by
  induction mains generalizing known with
  | nil => cases hd
  | cons m mains ih =>
    rw [assemble] at hd
    cases hm : plan.corpora.get? m with
    | none =>
      rw [hm] at hd
      exact ih hknown hd
    | some own =>
      rw [hm] at hd
      obtain ⟨found, hlibraries, hfound, hlast⟩ :=
        auxiliaries_found hknown (auxiliaryPaths s config plan.corpora own)
      rcases List.mem_cons.1 hd with rfl | hd
      · exact ⟨own, found, hm, hlibraries, by rw [hfound]⟩
      · exact ih hlast hd

theorem mem_assemble {plan : Plan} {known : PathTable Block} {mains : List Path} {d : Document}
    (hknown : SymbolsOf s plan.needed known) (hd : d ∈ assemble s config plan known mains) :
    ∃ (own : Corpus) (libraries : PathTable Block), plan.corpora.get? d.main = some own ∧
      SymbolsOf s plan.needed libraries ∧
      d.blocks = markerBlock d.main own ::
        (libraries.map (·.2) ++ sections plan.blocks (d.main :: plan.context)) := by
  obtain ⟨own, libraries, hown, hlibraries, hblocks⟩ := mem_assemble_libraries hknown hd
  exact ⟨own, libraries, hown, hlibraries.symbols, hblocks⟩

theorem get?_allBlocks (ledgers : Ledgers) (t : PathTable Corpus) (p : Path) :
    ((allBlocks needed o ledgers t).get? p).map (fun b => (b.metadata, b.symbols)) =
      (t.get? p).map fun c => (c.metadataBlock, c.symbolBlock needed) := by
  have hall : (allBlocks needed o ledgers t).map (fun x => (x.1, x.2.metadata, x.2.symbols)) =
      t.map fun x => (x.1, x.2.metadataBlock, x.2.symbolBlock needed) := by
    induction t generalizing ledgers with
    | nil => rfl
    | cons x t ih => exact congrArg (List.cons _) (ih _)
  rw [← PathTable.get?_map, ← PathTable.get?_map, hall]

theorem sections_allBlocks (ledgers : Ledgers) (t : PathTable Corpus) (members : List Path) :
    ∃ debug : List Block, debug.length = (members.filterMap t.get?).length ∧
      sections (allBlocks needed o ledgers t) members =
        (members.filterMap t.get?).map Corpus.metadataBlock ++
          (members.filterMap t.get?).map (·.symbolBlock needed) ++ debug := by
  have hfound : (members.filterMap (allBlocks needed o ledgers t).get?).map
        (fun b => (b.metadata, b.symbols)) =
      (members.filterMap t.get?).map fun c => (c.metadataBlock, c.symbolBlock needed) := by
    rw [List.map_filterMap, List.map_filterMap]
    exact List.filterMap_congr fun p _ => get?_allBlocks ledgers t p
  refine ⟨(members.filterMap (allBlocks needed o ledgers t).get?).map (·.debugInfo), ?_, ?_⟩
  · rw [List.length_map]
    simpa using congrArg List.length hfound
  · have hmetadata := congrArg (List.map Prod.fst) hfound
    have hsymbols := congrArg (List.map Prod.snd) hfound
    rw [List.map_map, List.map_map] at hmetadata hsymbols
    rw [sections]
    exact congrArg₂ (· ++ ·) (congrArg₂ (· ++ ·) hmetadata hsymbols) rfl

theorem sections_plan (config : Config) (r : Request) (t : PathTable Corpus) (members : List Path) :
    ∃ debug : List Block, debug.length = (members.filterMap t.get?).length ∧
      sections (plan config r t).blocks members =
        (members.filterMap t.get?).map Corpus.metadataBlock ++
          (members.filterMap t.get?).map
            (·.symbolBlock (.ofMains (r.mains.filterMap t.get?))) ++ debug :=
  sections_allBlocks {} t members

theorem forall₂_get? {members : List Path} (h : ∀ p ∈ members, ∃ c, t.get? p = some c) :
    List.Forall₂ (fun p c => t.get? p = some c) members (members.filterMap t.get?) :=
  forall₂_filterMap fun p hp => (h p hp).imp fun _ hc => ⟨hc, hc⟩

theorem exists_get?_of_mem_inputs (hload : loadAll s r.inputs = .ok t) {p : Path}
    (hp : p ∈ r.inputs) : ∃ c, t.get? p = some c := by
  rw [← (keys_of_loads (loadAll_eq_ok_iff.1 hload)).1] at hp
  obtain ⟨x, hx, rfl⟩ := List.mem_map.1 hp
  exact ⟨x.2, PathTable.get?_of_mem (pairwise_keys hload) hx⟩

theorem filtered_auxiliaryBlock (mains : List Corpus) (p : Path) (c : Corpus) :
    Filtered mains c (auxiliaryBlock (.ofMains mains) p c) := filtered_of_facts rfl

theorem filtered_symbolBlock (mains : List Corpus) (c : Corpus) :
    Filtered mains c (c.symbolBlock (.ofMains mains)) := filtered_of_facts rfl

/-- A document whose blocks about symbols are filtered: those of its libraries, of its own binary
and of the context inputs. The corpora are the inputs as they have been loaded. -/
def FilteredDocument (s : Surroundings) (corpora : PathTable Corpus) (context : List Path)
    (mains : List Corpus) (d : Document) : Prop :=
  ∃ (marker : Block) (libraries : PathTable Block) (own : Corpus) (others : List Corpus)
    (ownSymbols : Block) (symbols debug : List Block),
    d.blocks = marker :: (libraries.map (·.2) ++
      ((own :: others).map Corpus.metadataBlock ++ ownSymbols :: symbols ++ debug)) ∧
    debug.length = (own :: others).length ∧
    corpora.get? d.main = some own ∧
    List.Forall₂ (fun p c => corpora.get? p = some c) context others ∧
    (∀ x ∈ libraries, ∃ c, s.load x.1 = .ok c ∧ Filtered mains c x.2) ∧
    Filtered mains own ownSymbols ∧
    List.Forall₂ (Filtered mains) others symbols ∧
    ∀ n, n ≠ "" → own.HasName n →
      ⟨"has_symbol", [.text own.pathText, .text n]⟩ ∈ ownSymbols.facts

/-- In all documents of a run, the symbols that are told of a binary are those that it shares with
some main binary, and a main binary keeps all of its own. -/
theorem documents_filtered {ds : List Document} (hds : documents s config r = .ok ds) :
    ∃ (corpora : PathTable Corpus) (mains : List Corpus), loadAll s r.inputs = .ok corpora ∧
      List.Forall₂ (fun p c => corpora.get? p = some c) r.mains mains ∧
      ∀ d ∈ ds, FilteredDocument s corpora r.context mains d := by
  have hplaces := map_main_documents hds
  obtain ⟨-, -, t, hload, rfl⟩ := documents_eq_ok_iff.1 hds
  have hmains : List.Forall₂ (fun p c => t.get? p = some c) r.mains (r.mains.filterMap t.get?) :=
    forall₂_get? fun m hm => exists_get?_of_mem_mains hload hm
  refine ⟨t, r.mains.filterMap t.get?, hload, hmains, fun d hd => ?_⟩
  obtain ⟨own, libraries, hown, hlibraries, hblocks⟩ :=
    mem_assemble (fun x hx => (List.not_mem_nil hx).elim) hd
  have hown' : t.get? d.main = some own := hown
  have hcontext : List.Forall₂ (fun p c => t.get? p = some c) r.context
      (r.context.filterMap t.get?) :=
    forall₂_get? fun p hp => exists_get?_of_mem_inputs hload (List.mem_of_mem_filter hp)
  obtain ⟨debug, hdebug, hsections⟩ := sections_plan config r t (d.main :: r.context)
  rw [List.filterMap_cons_some hown'] at hdebug hsections
  have hmain : own ∈ r.mains.filterMap t.get? := by
    have hmem : d.main ∈ Path.distinct r.mains := hplaces ▸ List.mem_map_of_mem hd
    exact List.mem_filterMap.2 ⟨d.main, Path.mem_of_mem_distinct hmem, hown'⟩
  have hfiltered := filtered_symbolBlock (r.mains.filterMap t.get?) own
  refine ⟨markerBlock d.main own, libraries, own, r.context.filterMap t.get?,
    own.symbolBlock (.ofMains (r.mains.filterMap t.get?)),
    (r.context.filterMap t.get?).map (·.symbolBlock (.ofMains (r.mains.filterMap t.get?))), debug,
    ?_, hdebug, hown', hcontext, ?_, hfiltered, ?_, ?_⟩
  · have hcontext' : (plan config r t).context = r.context := rfl
    rw [hblocks, hcontext', hsections]
    rfl
  · intro x hx
    obtain ⟨c, hc, hx⟩ := hlibraries x hx
    exact ⟨c, hc, hx ▸ filtered_auxiliaryBlock _ _ c⟩
  · rw [List.forall₂_map_right_iff, List.forall₂_same]
    exact fun c _ => filtered_symbolBlock _ c
  · intro n hn hname
    exact (hfiltered.hasSymbol n).2 (Shared.of_mem hmain hn hname)

theorem documents_filtered_withLibrary :
    ∃ (corpora : PathTable Corpus) (mains : List Corpus) (ds : List Document),
      documents twoFiles {} withLibrary = .ok ds ∧
      loadAll twoFiles withLibrary.inputs = .ok corpora ∧
      List.Forall₂ (fun p c => corpora.get? p = some c) withLibrary.mains mains ∧
      ∀ d ∈ ds, FilteredDocument twoFiles corpora withLibrary.context mains d := by
  have hds : documents twoFiles {} withLibrary = .ok (assemble twoFiles {}
      (plan {} withLibrary [(program.path, program), (library.path, library)]) []
      (Path.distinct withLibrary.mains)) :=
    documents_eq_ok_iff.2 ⟨by decide, by decide +kernel, _, rfl, rfl⟩
  obtain ⟨corpora, mains, hload, hmains, hfiltered⟩ := documents_filtered hds
  exact ⟨corpora, mains, _, hds, hload, hmains, hfiltered⟩

end ElfFacts.Generator
