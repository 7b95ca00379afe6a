import ElfFacts.Proofs.Generator.Assembly
import ElfFacts.Proofs.Walk.Facts
import ElfFacts.Proofs.Walk.Predicates

/-!
# Reading the documents of a run back

A document is written with a heading in front of every block, and headings name paths as they are.
The facts are read back from what has been written, one from each line, unless a path in a heading
goes over several lines of which one looks like a fact.
-/
namespace ElfFacts

variable {needed : NeededSymbols}

namespace Corpus

theorem legible_metadata (c : Corpus) : ∀ f ∈ c.metadata, Fact.Legible f.predicate := by
  intro f hf
  simp only [metadata, List.mem_append, List.mem_cons, List.mem_map, List.not_mem_nil,
    or_false] at hf
  rcases hf with ((rfl | rfl) | ⟨_, -, rfl⟩) | rfl | rfl | rfl | rfl | rfl | rfl | rfl | rfl
  all_goals
    dsimp only
    decide

theorem legible_symbolFacts (c : Corpus) : ∀ f ∈ c.symbolFacts needed, Fact.Legible f.predicate := by
  intro f hf
  obtain ⟨n, g, -, hf⟩ := mem_symbolFacts.1 hf
  rw [SymbolGroup.facts_eq, List.mem_cons] at hf
  rcases hf with rfl | hf
  · exact (by decide : Fact.Legible "symbol")
  · obtain ⟨x, hx, rfl⟩ := List.mem_map.1 hf
    simp only [SymbolGroup.statements, List.mem_append, List.mem_cons, List.mem_map,
      List.not_mem_nil, or_false] at hx
    rcases hx with (rfl | ⟨_, -, rfl⟩) | rfl | rfl | rfl | rfl
    all_goals
      dsimp only
      decide

end Corpus

namespace Generator

variable {s : Surroundings} {o : WalkOptions} {config : Config} {r : Request}

/-- The tags of everything that can be loaded are regular, on one line. -/
def RegularTags (s : Surroundings) : Prop :=
  ∀ p c, s.load p = .ok c → ∀ t ∈ c.sites, Tag.Regular t.tag ∧ '\n' ∉ t.tag.toList

theorem legible_of_regular {tag : String} (h : Tag.Regular tag ∧ '\n' ∉ tag.toList) :
    Fact.Legible tag := by
  obtain ⟨rest, hrest⟩ := h.1
  refine ⟨h.2, ?_⟩
  rw [← hrest]
  rfl

/-- A path that is shown in a document: that of its main binary, or of a binary that was loaded. -/
def Shows (s : Surroundings) (d : Document) (p : Path) : Prop :=
  p = d.main ∨ ∃ q c, s.load q = .ok c ∧ (p = q ∨ p = c.path)

/-- The heading of a block ends in a path, and its facts can be read from their lines. -/
structure Readable (s : Surroundings) (d : Document) (b : Block) : Prop where
  facts : ∀ f ∈ b.facts.toList, Fact.Legible f.predicate
  title : ∃ label p, '\n' ∉ label.toList ∧ Shows s d p ∧ b.title = label ++ p.display

theorem readable_symbols {d : Document} {b : Block} {c : Corpus} (label : String) {p : Path}
    (hb : b = ⟨label ++ p.display, (c.symbolFacts needed).toArray⟩) (hl : '\n' ∉ label.toList)
    (hp : Shows s d p) : Readable s d b where
  facts f hf := c.legible_symbolFacts f (by rwa [hb] at hf)
  title := ⟨label, p, hl, hp, by rw [hb]⟩

theorem mem_allBlocks {ledgers : Ledgers} {t : PathTable Corpus} {x : Path × CorpusBlocks}
    (hx : x ∈ allBlocks needed o ledgers t) :
    ∃ c before, (x.1, c) ∈ t ∧ x.2 = (c.blocks needed o before).1 := by
  induction t generalizing ledgers with
  | nil => cases hx
  | cons y t ih =>
    rcases List.mem_cons.1 hx with rfl | hx
    · exact ⟨y.2, ledgers, List.mem_cons_self .., rfl⟩
    · obtain ⟨c, before, hc, hblocks⟩ := ih hx
      exact ⟨c, before, List.mem_cons_of_mem y hc, hblocks⟩

theorem mem_sections {blocks : PathTable CorpusBlocks} {members : List Path} {b : Block}
    (hb : b ∈ sections blocks members) :
    ∃ x ∈ blocks, b = x.2.metadata ∨ b = x.2.symbols ∨ b = x.2.debugInfo := by
  have hfound : ∀ found ∈ members.filterMap blocks.get?, ∃ x ∈ blocks, x.2 = found := by
    intro found hf
    obtain ⟨p, -, hp⟩ := List.mem_filterMap.1 hf
    obtain ⟨x, hx, rfl⟩ := Option.map_eq_some_iff.1 hp
    exact ⟨x, List.mem_of_find?_eq_some hx, rfl⟩
  simp only [sections, List.mem_append, List.mem_map] at hb
  rcases hb with (⟨found, hf, rfl⟩ | ⟨found, hf, rfl⟩) | ⟨found, hf, rfl⟩
  · obtain ⟨x, hx, rfl⟩ := hfound found hf
    exact ⟨x, hx, .inl rfl⟩
  · obtain ⟨x, hx, rfl⟩ := hfound found hf
    exact ⟨x, hx, .inr (.inl rfl)⟩
  · obtain ⟨x, hx, rfl⟩ := hfound found hf
    exact ⟨x, hx, .inr (.inr rfl)⟩

theorem readable_blocks {d : Document} {q : Path} {c : Corpus} (htags : RegularTags s)
    (hc : s.load q = .ok c) (before : Ledgers) {b : Block}
    (hb : b = (c.blocks needed o before).1.metadata ∨ b = (c.blocks needed o before).1.symbols ∨
      b = (c.blocks needed o before).1.debugInfo) : Readable s d b := by
  have hshows : Shows s d c.path := .inr ⟨q, c, hc, .inr rfl⟩
  rcases hb with rfl | rfl | rfl
  · exact ⟨fun f hf => c.legible_metadata f (by simpa [Corpus.blocks, Corpus.metadataBlock] using hf),
      "Corpus facts: ", c.path, by decide, hshows, rfl⟩
  · exact readable_symbols "Corpus symbols: " rfl (by decide) hshows
  · refine ⟨?_, "Debug information entries: ", c.path, by decide, hshows, rfl⟩
    exact c.legible_walkAll (fun t ht => legible_of_regular (htags q c hc t ht)) o _

theorem readable_of_mem {ds : List Document} (hds : documents s config r = .ok ds)
    (htags : RegularTags s) {d : Document} (hd : d ∈ ds) : ∀ b ∈ d.blocks, Readable s d b := by
  obtain ⟨t, hload, -, hparts⟩ := documents_parts hds
  obtain ⟨-, own, libraries, -, hlibraries, hblocks⟩ := hparts d hd
  intro b hb
  rw [hblocks, List.mem_cons, List.mem_append] at hb
  rcases hb with rfl | hb | hb
  · refine ⟨fun f hf => ?_, "Main corpus: ", d.main, by decide, .inl rfl, rfl⟩
    rw [markerBlock, List.mem_singleton] at hf
    rw [hf]
    exact (by decide : Fact.Legible "is_main_corpus")
  · obtain ⟨x, hx, rfl⟩ := List.mem_map.1 hb
    obtain ⟨c, hc, hx⟩ := hlibraries.symbols x hx
    exact readable_symbols "Needed library symbols: " hx (by decide)
      (.inr ⟨x.1, c, hc, .inl rfl⟩)
  · obtain ⟨x, hx, hb⟩ := mem_sections hb
    obtain ⟨c, before, hc, hx⟩ := mem_allBlocks hx
    rw [hx] at hb
    exact readable_blocks htags ((keys_of_loads (loadAll_eq_ok_iff.1 hload)).2 _ hc) before hb

/-- Without a fault the whole document is written, and reading it back gives exactly its facts, in
order, unless a heading has a line behind its first that is read as a fact. Only a path that goes
over several lines makes such a heading. -/
theorem documents_readBack {ds : List Document} (hds : documents s config r = .ok ds)
    (htags : RegularTags s) {d : Document} (hd : d ∈ ds) {sink : Sink} {content : ByteArray}
    (hcontent : (({ sink } : Sheet).write (.document d)).finish = .ok content) :
    ∃ text : String, content = text.toUTF8 ∧
      (factLines text.toList = d.facts.map Fact.render ↔
        ∀ heading ∈ d.headings, spilled heading = []) ∧
      ∀ heading ∈ d.headings, spilled heading ≠ [] →
        ∃ p, Shows s d p ∧ '\n' ∈ p.display.toList := by
  have hreadable := readable_of_mem hds htags hd
  refine ⟨_, Sheet.finish_eq_ok hcontent, ?_, ?_⟩
  · rw [String.toList_ofList]
    refine Document.factLines_lines_eq_iff fun f hf => ?_
    obtain ⟨b, hb, hf⟩ := List.mem_flatMap.1 hf
    exact (hreadable b hb).facts f hf
  · have hpath {label : String} (hl : '\n' ∉ label.toList) {p : Path} (hp : Shows s d p)
        (hspilled : spilled (label ++ p.display) ≠ []) :
        ∃ p, Shows s d p ∧ '\n' ∈ p.display.toList := by
      refine ⟨p, hp, Decidable.not_not.1 fun hline => hspilled ?_⟩
      rw [spilled_append hl, spilled_of_notMem hline]
    intro heading hh hspilled
    rcases List.mem_cons.1 hh with rfl | hh
    · exact hpath (by decide) (.inl rfl) hspilled
    · obtain ⟨b, hb, rfl⟩ := List.mem_map.1 hh
      obtain ⟨label, p, hl, hp, htitle⟩ := (hreadable b (List.mem_of_mem_filter hb)).title
      rw [htitle] at hspilled
      exact hpath hl hp hspilled

def oneFile (c : Corpus) : Surroundings where
  isFile p := p = c.path
  present p := p = c.path
  load p := if p = c.path then .ok c else .error (.io .missing)
  resolve _ := .ok []

def onlyFile (c : Corpus) : Request where
  mains := [c.path]

theorem documents_oneFile (c : Corpus) :
    documents (oneFile c) {} (onlyFile c) =
      .ok (assemble (oneFile c) {} (plan {} (onlyFile c) [(c.path, c)]) [] [c.path]) := by
  have hload : loadAll (oneFile c) [c.path] = .ok [(c.path, c)] := by
    simp [loadAll, oneFile, Except.map]
  exact documents_eq_ok_iff.2 ⟨by simp [onlyFile], by simp [onlyFile, Request.inputs, Path.distinct,
    Path.distinctFrom, oneFile], _, hload, rfl⟩

theorem regularTags_oneFile {c : Corpus}
    (h : ∀ t ∈ c.sites, Tag.Regular t.tag ∧ '\n' ∉ t.tag.toList) : RegularTags (oneFile c) := by
  intro p c' hc
  simp only [oneFile] at hc
  split at hc
  · cases hc
    exact h
  · cases hc

/-- The name of the file goes over two lines, and the second of them looks like a comment. -/
def commented : Corpus where
  path := Path.ofString "/a\n% b"
  symbols := Std.TreeMap.ofList [("f\ng@V%", function true)]
  units := #[(DebugUnit.empty 0).push none 11 "DW_TAG_subprogram" [("DW_AT_name", .text "f\n\"g")]]

theorem documents_readBack_commented :
    ∃ ds, documents (oneFile commented) {} (onlyFile commented) = .ok ds ∧ ds ≠ [] ∧
      ∀ d ∈ ds, ∃ text : String, (({} : Sheet).write (.document d)).finish = .ok text.toUTF8 ∧
        factLines text.toList = d.facts.map Fact.render := by
  obtain ⟨ds, hds, hne, hplain⟩ :
      ∃ ds, documents (oneFile commented) {} (onlyFile commented) = .ok ds ∧ ds ≠ [] ∧
        ∀ d ∈ ds, ∀ heading ∈ d.headings, spilled heading = [] :=
    ⟨_, documents_oneFile commented, by decide +kernel, by decide +kernel⟩
  have htags : RegularTags (oneFile commented) := regularTags_oneFile (by decide +kernel)
  refine ⟨ds, hds, hne, fun d hd => ?_⟩
  have hwritten := Sheet.finish_eq_ok_of_unlimited (.document d)
  obtain ⟨text, htext, hread, -⟩ := documents_readBack hds htags hd hwritten
  exact ⟨text, htext ▸ hwritten, hread.2 (hplain d hd)⟩

/-- The second line of the name of the file is a fact. -/
def injected : Corpus where
  path := Path.ofString "/a\ncorpus(\"/b\")."

/-- What is read from the document has a fact that the document does not have. -/
theorem factLines_injected :
    ∃ ds d, ∃ text : String, documents (oneFile injected) {} (onlyFile injected) = .ok ds ∧
      RegularTags (oneFile injected) ∧ d ∈ ds ∧
      (({} : Sheet).write (.document d)).finish = .ok text.toUTF8 ∧
      "corpus(\"/b\")." ∈ factLines text.toList ∧ "corpus(\"/b\")." ∉ d.facts.map Fact.render ∧
      factLines text.toList ≠ d.facts.map Fact.render := by
  refine ⟨_, _, _, documents_oneFile injected,
    regularTags_oneFile fun t ht => (List.not_mem_nil ht).elim, List.mem_cons_self ..,
    Sheet.finish_eq_ok_of_unlimited _, ?_⟩
  rw [String.toList_ofList]
  decide +kernel

end Generator

end ElfFacts
