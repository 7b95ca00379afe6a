import ElfFacts.Proofs.Generator.Assembly

/-!
# Libraries at run time

A document has the symbols of every library that its main binary needs at run time, whether the
library is an input or is found by the linker alone. Only when the library is another main binary of
the same request are its symbols left to the document of that binary.
-/
namespace ElfFacts

theorem Request.exists_mem_members {r : Request} {m p : Path} (hp : p ∈ r.inputs)
    (hmains : ∀ n ∈ r.mains, n.same p = true → p.same m = true) :
    ∃ q ∈ r.members m, q.same p = true := by
  rw [members_eq]
  by_cases hany : r.mains.any p.same = true
  · obtain ⟨n, hn, hpn⟩ := List.any_eq_true.1 hany
    have hpm := hmains n hn ((Path.same_comm n p).trans hpn)
    exact ⟨m, List.mem_cons_self .., (Path.same_comm m p).trans hpm⟩
  · have hcontext : p ∈ r.context := List.mem_filter.2 ⟨hp, by simpa using hany⟩
    exact ⟨p, List.mem_cons_of_mem m hcontext, Path.same_refl p⟩

namespace Generator

variable {s : Surroundings} {config : Config} {r : Request} {t : PathTable Corpus}

theorem symbolBlock_mem_sections {members : List Path} {p : Path} {c : Corpus} (hp : p ∈ members)
    (hc : t.get? p = some c) :
    c.symbolBlock (plan config r t).needed ∈ sections (plan config r t).blocks members := by
  obtain ⟨debug, -, hsections⟩ := sections_plan config r t members
  have hmem : c ∈ members.filterMap t.get? := List.mem_filterMap.2 ⟨p, hp, hc⟩
  rw [hsections]
  exact List.mem_append_left _ (List.mem_append_right _ (List.mem_map_of_mem hmem))

/-- A document with a block of the symbols of the file at a place. -/
def HasSymbolsAt (s : Surroundings) (needed : NeededSymbols) (p : Path) (d : Document) : Prop :=
  ∃ q c, q.same p = true ∧ s.load q = .ok c ∧
    ∃ b ∈ d.blocks, b.facts.toList = c.symbolFacts needed

/-- In a successful run that asks the linker, every document has the symbols of the libraries of its
main binary that can be loaded and are not other main binaries. -/
theorem documents_runtime {ds : List Document} (hds : documents s config r = .ok ds)
    (hresolve : config.resolveNeeded = true) :
    ∃ (corpora : PathTable Corpus) (mains : List Corpus), loadAll s r.inputs = .ok corpora ∧
      List.Forall₂ (fun p c => corpora.get? p = some c) r.mains mains ∧
      ds.map (·.main) = r.mains.eraseDupsBy Path.same ∧
      ∀ d ∈ ds, ∀ own l, s.load d.main = .ok own → RuntimeLibrary s own l →
        (∀ l', RuntimeLibrary s own l' → l'.path.same l.path = true →
          ∃ c, s.load l'.path = .ok c) →
        (∀ m ∈ r.mains, m.same l.path = true → m.same d.main = true) →
        HasSymbolsAt s (.ofMains mains) l.path d := by
  obtain ⟨t, hload, hmains, hparts⟩ := documents_parts hds
  refine ⟨t, r.mains.filterMap t.get?, hload, hmains,
    (map_main_documents hds).trans (Path.distinct_eq_eraseDupsBy r.mains),
    fun d hd own l hown hl hreads hother => ?_⟩
  obtain ⟨hinputs, own', libraries, hown', hlibraries, hblocks⟩ := hparts d hd
  obtain rfl : own' = own := by
    rw [hown'] at hown
    exact Except.ok.inj hown
  cases hhas : t.has l.path with
  | false =>
    -- The linker alone knows the library, which is loaded under the spelling met first.
    obtain ⟨p, hp, hpl⟩ := exists_mem_auxiliaryPaths hresolve hl hhas
    obtain ⟨l', hl', rfl, -⟩ := of_mem_auxiliaryPaths hp
    obtain ⟨c, hc⟩ := hreads l' hl' hpl
    obtain ⟨x, hx, hxp⟩ := hlibraries.complete l'.path hp c hc
    obtain ⟨c', hc', hblock⟩ := hlibraries.symbols x hx
    refine ⟨x.1, c', (Path.same_congr_left hxp l.path).trans hpl, hc', x.2, ?_, ?_⟩
    · rw [hblocks]
      exact List.mem_cons_of_mem _ (List.mem_append_left _ (List.mem_map_of_mem hx))
    · rw [hblock]
      rfl
  | true =>
    obtain ⟨p, hp, hpl⟩ := (has_iff_exists_mem_inputs hload).1 hhas
    have hmembers : ∀ m ∈ r.mains, m.same p = true → p.same d.main = true := by
      intro m hm hmp
      have hml : m.same l.path = true := (Path.same_congr_left hmp l.path).trans hpl
      exact (Path.same_congr_left hmp d.main).symm.trans (hother m hm hml)
    obtain ⟨q, hq, hqp⟩ := Request.exists_mem_members hp hmembers
    obtain ⟨c, hc⟩ := exists_get?_of_mem_inputs hload (hinputs q hq)
    refine ⟨q, c, (Path.same_congr_left hqp l.path).trans hpl,
      (get?_eq_some_iff hload (hinputs q hq)).1 hc, c.symbolBlock _, ?_, rfl⟩
    rw [hblocks]
    exact List.mem_cons_of_mem _ (List.mem_append_right _ (symbolBlock_mem_sections hq hc))

/-- The two files under every spelling of their paths, and a linker that has a spelling of its own
for the library. -/
def respelled : Surroundings where
  isFile p := p.same program.path || p.same library.path
  present p := p.same program.path || p.same library.path
  load p :=
    if p.same program.path then .ok program
    else if p.same library.path then .ok library
    else .error (.io .missing)
  resolve _ := .ok [⟨"l.so", Path.ofString "//l.so"⟩]

def respelledLibrary : ResolvedLibrary := ⟨"l.so", Path.ofString "//l.so"⟩

theorem runtimeLibrary_respelled : RuntimeLibrary respelled program respelledLibrary :=
  ⟨⟨_, rfl, List.mem_singleton.2 rfl⟩, List.mem_singleton.2 rfl, by decide⟩

theorem load_respelled {p : Path} (hp : p.same respelledLibrary.path = true) :
    respelled.load p = .ok library := by
  have hprogram : p.same program.path = false := by
    rw [Path.same_congr_left hp]
    decide
  have hlibrary : p.same library.path = true := by
    rw [Path.same_congr_left hp]
    decide
  simp [respelled, hprogram, hlibrary]

theorem documents_runtime_respelled :
    ∃ (mains : List Corpus) (ds : List Document), documents respelled {} onlyProgram = .ok ds ∧
      ds.map (·.main) = [program.path] ∧
      ∀ d ∈ ds, HasSymbolsAt respelled (.ofMains mains) respelledLibrary.path d := by
  have hds : documents respelled {} onlyProgram = .ok (assemble respelled {}
      (plan {} onlyProgram [(program.path, program)]) [] (Path.distinct onlyProgram.mains)) :=
    documents_eq_ok_iff.2 ⟨by decide, by decide +kernel, _, rfl, rfl⟩
  obtain ⟨-, mains, -, -, hplaces, hruntime⟩ := documents_runtime hds rfl
  refine ⟨mains, _, hds, hplaces, fun d hd => ?_⟩
  have hmain : d.main = program.path := by
    have hmem := hplaces ▸ List.mem_map_of_mem hd
    exact List.mem_singleton.1 hmem
  refine hruntime d hd program respelledLibrary (hmain ▸ rfl) runtimeLibrary_respelled
    (fun l _ hl => ⟨library, load_respelled hl⟩) fun m hm hml => ?_
  rw [hmain, List.mem_singleton.1 hm, Path.same_refl]

def bothMain : Request where
  mains := [program.path, library.path]

/-- The symbols of a library that is another main binary are left to the document of that binary. -/
theorem not_hasSymbolsAt_otherMain :
    ∃ ds, documents respelled {} bothMain = .ok ds ∧
      List.Forall₂ (fun p c => respelled.load p = .ok c) bothMain.mains [program, library] ∧
      ∃ d ∈ ds, respelled.load d.main = .ok program ∧
        RuntimeLibrary respelled program respelledLibrary ∧
        (∀ p, p.same respelledLibrary.path = true → respelled.load p = .ok library) ∧
        ¬HasSymbolsAt respelled (.ofMains [program, library]) respelledLibrary.path d := by
  have hds : documents respelled {} bothMain = .ok (assemble respelled {}
      (plan {} bothMain [(program.path, program), (library.path, library)]) []
      (Path.distinct bothMain.mains)) :=
    documents_eq_ok_iff.2 ⟨by decide, by decide +kernel, _, rfl, rfl⟩
  refine ⟨_, hds, .cons rfl (.cons rfl .nil), _, List.mem_cons_self .., rfl,
    runtimeLibrary_respelled, fun p => load_respelled, ?_⟩
  rintro ⟨q, c, hq, hc, b, hb, hfacts⟩
  obtain rfl : library = c := Except.ok.inj ((load_respelled hq).symm.trans hc)
  have hmem : (⟨"has_symbol", [.text library.pathText, .text "f"]⟩ : Fact) ∈ b.facts.toList := by
    rw [hfacts]
    decide +kernel
  revert b
  decide +kernel

end Generator

end ElfFacts
