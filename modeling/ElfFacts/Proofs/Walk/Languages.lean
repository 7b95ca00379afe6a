import ElfFacts.Proofs.Walk.Calls
import ElfFacts.Proofs.Walk.Declared

/-!
# Compile units over any run

Walks that share a ledger report the version of the generator with the first compile unit that one of
them visits, and a language with the first compile unit that declares it. So what has been reported
for compile units can be read off those that have been visited; `Announced` says how.
-/
namespace ElfFacts

def Value.language? : Value → Option String
  | .text s => some s
  | .other s => some s
  | .unsigned code => some ("DW_LANG_0x" ++ String.ofList (Nat.toDigits 16 code.toNat))
  | .signed _ => none
  | .flag _ => none
  | .unitRef _ => none
  | .infoRef _ => none

def DebugEntry.language? (e : DebugEntry) : Option String :=
  (e.attribute? atLanguage).bind Value.language?

def DebugUnit.compileUnit? (u : DebugUnit) (index : Nat) : Option DebugEntry :=
  (u.get? index).filter fun e => Tag.normalize e.tag = "dw_tag_compile_unit"

theorem Tag.kind_eq_compileUnit_iff {tag : String} :
    Tag.kind tag = .compileUnit ↔ tag = "dw_tag_compile_unit" := by
  unfold Tag.kind
  split_ifs with h <;> simp [h]

theorem WalkContext.languageOf?_eq (e : DebugEntry) : languageOf? e = e.language? := by
  unfold languageOf? DebugEntry.language?
  cases e.attribute? atLanguage with
  | none => rfl
  | some v =>
    cases v with
    | unsigned code =>
      have hhex : "DW_LANG_" ++ Text.hex code.toNat =
          "DW_LANG_0x" ++ String.ofList (Nat.toDigits 16 code.toNat) := by
        apply String.toList_injective
        simp [Text.hex, Text.hexDigits]
      exact congrArg some hhex
    | _ => rfl

namespace Fact

def isAnnouncement (x : Fact) : Bool :=
  x.predicate == "generator_version" || x.predicate == "language"

theorem isAnnouncement_of_regular {x : Fact} (h : Tag.Regular x.predicate) :
    x.isAnnouncement = false := by
  rw [Bool.eq_false_iff]
  intro hx
  rcases Bool.or_eq_true_iff.1 hx with he | he <;> rw [beq_iff_eq.1 he] at h <;>
    exact absurd h (by decide)

def version (path : String) (o : WalkOptions) : Fact :=
  ⟨"generator_version", [.text path, .text o.generatorVersion]⟩

def language (path name : String) : Fact := ⟨"language", [.text path, .text name]⟩

end Fact

theorem WalkContext.filter_isAnnouncement_visitFacts (c : WalkContext) (f : WalkFrame)
    (e : DebugEntry) (l : Ledger) (ht : Tag.Regular (Tag.normalize e.tag)) :
    (c.visitFacts f e l).filter Fact.isAnnouncement =
      if Tag.normalize e.tag = "dw_tag_compile_unit" then c.unitFacts e l else [] := by
  have hself : (existenceFact c.path (Tag.normalize e.tag) f.id).isAnnouncement = false :=
    Fact.isAnnouncement_of_regular ht
  have hrelation : (c.relationFacts f (Tag.normalize e.tag) 0
      (l.newFrames f.id (c.offspring f))).filter Fact.isAnnouncement = [] := by
    rw [List.filter_eq_nil_iff]
    intro x hx
    rcases c.mem_relationFacts hx with ⟨p, q, rfl⟩ | ⟨p, q, m, rfl⟩ <;> exact Bool.false_ne_true
  have hattr : (c.attributeFacts f e (Tag.normalize e.tag)
      (c.typePart f e (Tag.normalize e.tag)).1).filter Fact.isAnnouncement = [] :=
    c.filter_attributeFacts f e ht _ fun _ hx _ => Fact.isAnnouncement_of_regular hx
  have hunit : (c.unitFacts e l).filter Fact.isAnnouncement = c.unitFacts e l := by
    rw [List.filter_eq_self]
    intro x hx
    rcases c.mem_unitFacts hx with rfl | ⟨language, rfl⟩ <;> rfl
  simp only [visitFacts, List.filter_append, hrelation, Tag.kind_eq_compileUnit_iff]
  split <;> split <;> simp [hself, hattr, hunit]

/-- What has been reported and recorded of compile units, when these have been visited in this order
with these options: the version with the first of them, and then the languages, each of them once. -/
structure Announced (path : String) (units : List (WalkOptions × DebugEntry)) (s : WalkState) :
    Prop where
  facts : s.facts.toList.filter Fact.isAnnouncement =
    (units.head?.toList.map fun u => Fact.version path u.1) ++
      s.ledger.languages.map (Fact.language path)
  languages : s.ledger.languages = (units.filterMap fun u => u.2.language?).eraseDups
  nodup : s.ledger.languages.Nodup
  saw : s.ledger.sawCompileUnit = !units.isEmpty

theorem eraseDups_append_toList (l : List String) (x : Option String) :
    (l ++ x.toList).eraseDups =
      l.eraseDups ++ (x.filter fun a => !l.eraseDups.contains a).toList := by
  rw [List.eraseDups_append]
  cases x with
  | none => rfl
  | some a => by_cases ha : a ∈ l <;> simp [List.removeAll, Option.filter, List.eraseDups_cons, ha]

theorem WalkContext.languages_recordUnit {e : DebugEntry} {l : Ledger} {declared : List String}
    (h : l.languages = declared.eraseDups) :
    (recordUnit e l).languages = (declared ++ e.language?.toList).eraseDups := by
  rw [eraseDups_append_toList, ← h, ← languageOf?_eq]
  rfl

namespace Announced

variable {units : List (WalkOptions × DebugEntry)} {s : WalkState}

theorem start (path : String) : Announced path [] {} where
  facts := rfl
  languages := rfl
  nodup := List.nodup_nil
  saw := rfl

theorem visit {c : WalkContext} (h : Announced c.path units s) (f : WalkFrame)
    (ht : ∀ e, c.unit.get? f.index = some e → Tag.Regular (Tag.normalize e.tag)) :
    Announced c.path (units ++ ((c.unit.compileUnit? f.index).map (Prod.mk c.options)).toList)
      (c.visit f s).1 := by
  cases he : c.unit.get? f.index with
  | none =>
    rw [c.visit_of_none s he, DebugUnit.compileUnit?, he]
    simpa using h
  | some e =>
    have hnodup := c.nodup_languages_visitLedger f e s.ledger h.nodup
    have hlanguages := c.languages_visitLedger f e s.ledger
    have hsaw := c.sawCompileUnit_visitLedger f e s.ledger
    have hreported := c.filter_isAnnouncement_visitFacts f e s.ledger (ht e he)
    simp only [Tag.kind_eq_compileUnit_iff] at hlanguages hsaw
    rw [c.visit_eq s he]
    by_cases hunit : Tag.normalize e.tag = "dw_tag_compile_unit"
    · have hentry : c.unit.compileUnit? f.index = some e := by
        simp [DebugUnit.compileUnit?, he, hunit]
      rw [if_pos hunit] at hlanguages hreported
      rw [hentry]
      constructor
      · rw [Array.toList_append, List.filter_append, h.facts, hreported, hlanguages]
        -- The first compile unit finds a ledger without languages, so the version comes before them.
        cases units with
        | nil => simp [WalkContext.unitFacts, WalkContext.recordUnit, h.saw, h.languages,
            Fact.version, Fact.language]
        | cons u units => simp [WalkContext.unitFacts, WalkContext.recordUnit, h.saw,
            Fact.language]
      · have hlast : [(c.options, e)].filterMap (fun u => u.2.language?) = e.language?.toList := by
          cases hl : e.language? <;> simp [hl]
        rw [hlanguages, WalkContext.languages_recordUnit h.languages, Option.map_some,
          Option.toList_some, List.filterMap_append, hlast]
      · exact hnodup
      · simp [hsaw, hunit]
    · have hentry : c.unit.compileUnit? f.index = none := by
        simp [DebugUnit.compileUnit?, he, hunit]
      rw [if_neg hunit] at hlanguages hreported
      rw [hentry, Option.map_none, Option.toList_none, List.append_nil]
      constructor
      · rw [Array.toList_append, List.filter_append, h.facts, hreported, hlanguages,
          List.append_nil]
      · rw [hlanguages, h.languages]
      · exact hnodup
      · rw [hsaw, decide_eq_false hunit, Bool.or_false, h.saw]

theorem foldl_encounter {b : Corpus} {o : WalkOptions} (ht : ∀ t ∈ b.sites, Tag.Regular t.tag)
    {xs : List Corpus.Encounter} (hxs : ∀ x ∈ xs, x.1.1 ∈ b.units)
    (h : Announced b.pathText units s) :
    Announced b.pathText
      (units ++ xs.filterMap fun x => (x.1.1.compileUnit? x.2.index).map (Prod.mk o))
      (xs.foldl (b.encounter o) s) := by
  induction xs generalizing units s with
  | nil => rwa [List.filterMap_nil, List.append_nil]
  | cons x xs ih =>
    have hx : ∀ e, x.1.1.get? x.2.index = some e → Tag.Regular (Tag.normalize e.tag) :=
      fun e he => Corpus.tag_of_sites ht (hxs x (List.mem_cons_self ..)) he
    have hvisit := Announced.visit (c := b.context o x.1) h x.2 hx
    have hrest := ih (fun y hy => hxs y (List.mem_cons_of_mem x hy)) hvisit
    have hunits : ((x :: xs).filterMap fun x => (x.1.1.compileUnit? x.2.index).map (Prod.mk o)) =
        ((x.1.1.compileUnit? x.2.index).map (Prod.mk o)).toList ++
          xs.filterMap fun x => (x.1.1.compileUnit? x.2.index).map (Prod.mk o) := by
      cases hunit : x.1.1.compileUnit? x.2.index <;> simp [hunit]
    rw [hunits, ← List.append_assoc]
    exact hrest

end Announced

namespace Corpus

variable {b : Corpus}

/-- The visits of calls one after the other, each with the options of its call. -/
def tour (b : Corpus) : List WalkCall → WalkState → List (WalkOptions × Encounter)
  | [], _ => []
  | w :: walks, s => (b.callVisits s w).map (Prod.mk w.options) ++ b.tour walks (b.call s w)

theorem foldl_call_eq_foldl_tour (walks : List WalkCall) (s : WalkState) :
    walks.foldl b.call s = (b.tour walks s).foldl (fun s x => b.encounter x.1 s x.2) s := by
  induction walks generalizing s with
  | nil => rfl
  | cons w walks ih =>
    rw [List.foldl_cons, ih, tour, List.foldl_append, List.foldl_map, ← call_eq_foldl_encounter]

/-- The compile units that calls visit, in order and as often as they are visited. -/
def unitsVisited (b : Corpus) (walks : List WalkCall) (s : WalkState) :
    List (WalkOptions × DebugEntry) :=
  (b.tour walks s).filterMap fun x => (x.2.1.1.compileUnit? x.2.2.index).map (Prod.mk x.1)

theorem announced_foldl_call (ht : ∀ t ∈ b.sites, Tag.Regular t.tag)
    {units : List (WalkOptions × DebugEntry)} {s : WalkState} (h : Announced b.pathText units s)
    (walks : List WalkCall) :
    Announced b.pathText (units ++ b.unitsVisited walks s) (walks.foldl b.call s) := by
  induction walks generalizing units s with
  | nil => simpa [unitsVisited, tour] using h
  | cons w walks ih =>
    have hcall := Announced.foldl_encounter (o := w.options) ht
      (fun x (hx : x ∈ b.callVisits s w) => Array.mem_of_getElem? (unit_of_mem_callVisits hx)) h
    rw [← call_eq_foldl_encounter] at hcall
    have hunits : b.unitsVisited (w :: walks) s = ((b.callVisits s w).filterMap fun x =>
        (x.1.1.compileUnit? x.2.index).map (Prod.mk w.options)) ++
          b.unitsVisited walks (b.call s w) := by
      rw [unitsVisited, tour, List.filterMap_append, List.filterMap_map]
      rfl
    rw [hunits, ← List.append_assoc]
    exact ih hcall

/-- Whatever is walked from a new ledger, and with whatever options: the calls are a row of visits,
and the version and the languages that they report follow from the compile units among these. -/
theorem announced_calls (ht : ∀ t ∈ b.sites, Tag.Regular t.tag) (walks : List WalkCall) :
    b.calls {} walks = (b.tour walks {}).foldl (fun s x => b.encounter x.1 s x.2) {} ∧
      Announced b.pathText (b.unitsVisited walks {}) (b.calls {} walks) :=
  ⟨foldl_call_eq_foldl_tour walks {}, announced_foldl_call ht (Announced.start b.pathText) walks⟩

theorem visitsBelow_of_childless {o : WalkOptions} {unitIndex root : Nat} {u : DebugUnit}
    {e : DebugEntry} (hu : b.units[unitIndex]? = some u) (he : u.get? root = some e)
    (hchildren : e.children = #[]) (parent : Option Identity) (s : WalkState) :
    b.visitsBelow o unitIndex root parent s =
      [((u, unitIndex), ⟨root, (b.context o (u, unitIndex)).idOf e parent, 0⟩)] := by
  have hoff (f : WalkFrame) (hf : f.index = root) :
      (b.context o (u, unitIndex)).offspring f = [] := by
    have hentry : (b.context o (u, unitIndex)).unit.get? f.index = some e := by rw [hf]; exact he
    simp [WalkContext.offspring, WalkContext.reachable, hentry, hchildren]
  simp only [visitsBelow, hu, he]
  rw [WalkContext.visits_cons, WalkContext.visit_snd, hoff _ rfl, Ledger.newFrames,
    List.nil_append, WalkContext.visits_nil]
  rfl

/-- Two compile units that declare a language each, by its code and by its name. -/
def bilingual : Corpus where
  path := Path.ofString "/a"
  units := #[
    (DebugUnit.empty 0).push none 11 "DW_TAG_compile_unit" [(atLanguage, .unsigned 28)],
    (DebugUnit.empty 100).push none 111 "DW_TAG_compile_unit" [(atLanguage, .text "DW_LANG_C99")]]

/-- The first unit is walked once more after the second, and other entries are listed by then. -/
theorem announced_calls_bilingual :
    let s := bilingual.calls {} [.below functionsOnly 0 0 none, .below everything 1 0 none,
      .below everything 0 0 none]
    s.ledger.languages = ["DW_LANG_0x1c", "DW_LANG_C99"] ∧
      s.facts.toList.filter Fact.isAnnouncement =
        [Fact.version "/a" functionsOnly, Fact.language "/a" "DW_LANG_0x1c",
          Fact.language "/a" "DW_LANG_C99"] := by
  have ht : ∀ t ∈ bilingual.sites, Tag.Regular t.tag := by decide +kernel
  obtain ⟨-, h⟩ := announced_calls ht [.below functionsOnly 0 0 none, .below everything 1 0 none,
    .below everything 0 0 none]
  have hfirst (o : WalkOptions) (s : WalkState) : bilingual.visitsBelow o 0 0 none s = _ :=
    visitsBelow_of_childless rfl rfl rfl none s
  have hsecond (o : WalkOptions) (s : WalkState) : bilingual.visitsBelow o 1 0 none s = _ :=
    visitsBelow_of_childless rfl rfl rfl none s
  have hunits : bilingual.unitsVisited [.below functionsOnly 0 0 none, .below everything 1 0 none,
      .below everything 0 0 none] {} =
      [(functionsOnly, bilingual.units[0].entries[0]), (everything, bilingual.units[1].entries[0]),
        (everything, bilingual.units[0].entries[0])] := by
    simp only [unitsVisited, tour, callVisits, WalkCall.options, hfirst, hsecond]
    decide +kernel
  have hlanguages := h.languages
  rw [hunits] at hlanguages
  have hboth := hlanguages.trans
    (by decide +kernel : _ = ["DW_LANG_0x1c", "DW_LANG_C99"])
  refine ⟨hboth, ?_⟩
  rw [h.facts, hboth, hunits]
  rfl

end Corpus

end ElfFacts
