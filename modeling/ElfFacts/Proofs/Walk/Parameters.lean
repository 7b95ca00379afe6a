import ElfFacts.Proofs.Walk.Exact

/-!
# Numbers of parameters

A function numbers its formal parameters from zero on, in the order of its children and whatever
stands between them. The counter belongs to one visit, so functions within functions do not disturb
each other, and what is listed for reporting makes no difference.
-/
namespace ElfFacts

namespace Tag

theorem kind_eq_function_iff (tag : String) : kind tag = .function ↔ tag = "dw_tag_function" := by
  unfold kind
  split
  · next h => simp [h]
  · split
    · next h => simp [h]
    · next h => split <;> simp [h]

theorem kind_eq_formalParameter_iff (tag : String) :
    kind tag = .formalParameter ↔ tag = "dw_tag_formal_parameter" := by
  unfold kind
  split
  · next h => simp [h]
  · split
    · next h => simp [h]
    · split
      · next h => simp [h]
      · next h => simp [h]

end Tag

namespace Fact

/-- Facts that number a parameter: the path, the function, the parameter and the number. -/
def isNumbering (f : Fact) : Bool :=
  f.predicate == "dw_tag_formal_parameter_order" && f.arguments.length == 4

def numbersFor (function : Identity) (f : Fact) : Bool :=
  f.isNumbering && f.arguments[1]? == some function.argument

theorem isNumbering_of_length {f : Fact} (h : f.arguments.length ≠ 4) : f.isNumbering = false := by
  rw [isNumbering, beq_eq_false_iff_ne.2 h, Bool.and_false]

end Fact

theorem Identity.argument_inj {i j : Identity} : i.argument = j.argument ↔ i = j := by
  cases i
  cases j
  simp [argument]

namespace WalkContext

variable (c : WalkContext) (f : WalkFrame) (e : DebugEntry)

theorem isParameter_eq (tag childTag : String) :
    isParameter tag childTag =
      (decide (tag = "dw_tag_function") && decide (childTag = "dw_tag_formal_parameter")) := by
  simp only [isParameter, Tag.kind_eq_function_iff, Tag.kind_eq_formalParameter_iff]

/-- New children that are parameters are numbered one after the other, from a first number on. -/
theorem filter_isNumbering_relationFacts (tag : String) (n : Nat) (frames : List WalkFrame) :
    (c.relationFacts f tag n frames).filter Fact.isNumbering =
      ((frames.filter fun g => isParameter tag (c.tagAt g.index)).zipIdx n).map
        fun x => parameterFact c.path f.id x.1.id x.2 := by
  induction frames generalizing n with
  | nil => rfl
  | cons g frames ih =>
    have hr (p q : Identity) : (relationFact p q).isNumbering = false := rfl
    have ho (m : Nat) (p q : Identity) : (parameterFact c.path p q m).isNumbering = true := rfl
    rw [relationFacts, List.filter_append, ih, childFacts, List.filter_append]
    rw [List.filter_cons]
    split <;> split <;> simp [hr, ho]

theorem filter_isNumbering_visitFacts (l : Ledger) :
    (c.visitFacts f e l).filter Fact.isNumbering =
      (((l.newFrames f.id (c.offspring f)).filter fun g =>
        isParameter (Tag.normalize e.tag) (c.tagAt g.index)).zipIdx).map
          fun x => parameterFact c.path f.id x.1.id x.2 := by
  have hself : (existenceFact c.path (Tag.normalize e.tag) f.id).isNumbering = false :=
    Fact.isNumbering_of_length (Nat.ne_of_beq_eq_false rfl)
  have hattr : (c.attributeFacts f e (Tag.normalize e.tag)
      (c.typePart f e (Tag.normalize e.tag)).1).filter Fact.isNumbering = [] := by
    rw [List.filter_eq_nil_iff]
    intro x hx
    have harity := (c.isAttributeOf_attributeFacts f e _ x hx).2
    rw [Fact.isNumbering_of_length (by omega)]
    exact Bool.false_ne_true
  have hunit : (c.unitFacts e l).filter Fact.isNumbering = [] := by
    apply c.filter_unitFacts e l
    rintro x (hx | hx) <;> rw [Fact.isNumbering, hx] <;> rfl
  simp only [visitFacts, List.filter_append, filter_isNumbering_relationFacts]
  split <;> split <;> simp [hself, hattr, hunit]

end WalkContext

namespace Site

def parameters (s : Site) : List Site := s.children.filter fun t => t.tag = "dw_tag_formal_parameter"

/-- Functions whose children the depth limit lets be visited. -/
def IsFunction (o : WalkOptions) (s : Site) : Prop :=
  s.tag = "dw_tag_function" ∧ s.depth < o.maxDepth

instance (o : WalkOptions) (s : Site) : Decidable (s.IsFunction o) :=
  inferInstanceAs (Decidable (_ ∧ _))

def numbering (path : String) (s : Site) : List Fact :=
  s.parameters.zipIdx.map fun x =>
    ⟨"dw_tag_formal_parameter_order", [.text path, (s.identity path).argument,
      (x.1.identity path).argument, .ofNat x.2]⟩

def ownNumbering (o : WalkOptions) (path : String) (s : Site) : List Fact :=
  if s.IsFunction o then s.numbering path else []

theorem isNumbering_of_mem_numbering {path : String} {s : Site} {x : Fact}
    (hx : x ∈ s.numbering path) :
    x.isNumbering = true ∧ x.arguments[1]? = some (s.identity path).argument := by
  obtain ⟨p, -, rfl⟩ := List.mem_map.1 hx
  exact ⟨rfl, rfl⟩

theorem numbersFor_of_mem_ownNumbering {o : WalkOptions} {path : String} {s f : Site} {x : Fact}
    (hx : x ∈ s.ownNumbering o path) :
    x.numbersFor (f.identity path) = decide (s.identity path = f.identity path) := by
  unfold ownNumbering at hx
  split at hx
  · obtain ⟨hn, hs⟩ := isNumbering_of_mem_numbering hx
    rw [Fact.numbersFor, hn, hs, Bool.true_and, Bool.eq_iff_iff, beq_iff_eq, decide_eq_true_eq,
      Option.some.injEq, Identity.argument_inj]
  · cases hx

theorem filter_numbersFor_flatMap {o : WalkOptions} {path : String} {sites : List Site} {f : Site}
    (hids : (sites.map (identity path)).Nodup) (hf : f ∈ sites) :
    (sites.flatMap (ownNumbering o path)).filter (Fact.numbersFor (f.identity path)) =
      f.ownNumbering o path := by
  obtain ⟨before, after, rfl⟩ := List.append_of_mem hf
  have hother : ∀ s ∈ before ++ after, s.identity path ≠ f.identity path := by
    rw [List.map_append, List.map_cons, List.nodup_middle, List.nodup_cons, ← List.map_append] at hids
    exact fun s hs he => hids.1 (he ▸ List.mem_map_of_mem hs)
  have hnone {part : List Site} (hpart : ∀ s ∈ part, s.identity path ≠ f.identity path) :
      (part.flatMap (ownNumbering o path)).filter (Fact.numbersFor (f.identity path)) = [] := by
    rw [List.filter_eq_nil_iff]
    intro x hx
    obtain ⟨s, hs, hx⟩ := List.mem_flatMap.1 hx
    rw [numbersFor_of_mem_ownNumbering hx, decide_eq_false (hpart s hs)]
    exact Bool.false_ne_true
  have hself : (f.ownNumbering o path).filter (Fact.numbersFor (f.identity path)) =
      f.ownNumbering o path := by
    rw [List.filter_eq_self]
    intro x hx
    rw [numbersFor_of_mem_ownNumbering hx, decide_eq_true rfl]
  rw [List.flatMap_append, List.flatMap_cons, List.filter_append, List.filter_append, hself,
    hnone fun s hs => hother s (List.mem_append_left _ hs),
    hnone fun s hs => hother s (List.mem_append_right _ hs), List.nil_append, List.append_nil]

end Site

namespace WalkContext.Stop

variable {o : WalkOptions} {path : String}

theorem numbering_kidsAt (c : WalkContext) (i : Nat) :
    ((((c.kidsAt i).map c.frameAt).filter fun g =>
      isParameter (site (c, i)).tag (c.tagAt g.index)).zipIdx).map
        (fun x => parameterFact c.path (c.frameAt i).id x.1.id x.2) =
      (site (c, i)).ownNumbering c.options c.path := by
  have hkids : (((c.kidsAt i).map c.frameAt).filter fun g =>
      isParameter (site (c, i)).tag (c.tagAt g.index)) =
      if (site (c, i)).IsFunction c.options
      then ((c.unit.childrenAt i).filter fun j => c.tagAt j = "dw_tag_formal_parameter").map c.frameAt
      else [] := by
    rw [List.filter_map]
    by_cases htag : (site (c, i)).tag = "dw_tag_function"
    · have hparameter : ((fun g => isParameter (site (c, i)).tag (c.tagAt g.index)) ∘ c.frameAt) =
          fun j => decide (c.tagAt j = "dw_tag_formal_parameter") := by
        funext j
        rw [Function.comp_apply, isParameter_eq, htag, decide_eq_true rfl, Bool.true_and]
        rfl
      rw [hparameter, kidsAt]
      by_cases hdepth : c.unit.depth i < c.options.maxDepth
      · rw [if_pos hdepth, if_pos ⟨htag, hdepth⟩]
      · rw [if_neg hdepth, if_neg fun h => hdepth h.2, List.filter_nil, List.map_nil]
    · have hnone : ((fun g => isParameter (site (c, i)).tag (c.tagAt g.index)) ∘ c.frameAt) =
          fun _ => false := by
        funext j
        simp [isParameter_eq, htag]
      rw [hnone, List.filter_false, List.map_nil, if_neg fun h => htag h.1]
  rw [hkids, Site.ownNumbering]
  split
  · rw [Site.numbering, Site.parameters, Site.children, List.filter_map, List.zipIdx_map,
      List.zipIdx_map, List.map_map, List.map_map]
    rfl
  · rfl

theorem filter_isNumbering_visit {s : WalkState} {x : Stop} (hx : Placed o path x)
    (hpair : ∀ q, s.ledger.hasChild x.id q = false) :
    (visit s x).facts.toList.filter Fact.isNumbering =
      s.facts.toList.filter Fact.isNumbering ++ x.site.ownNumbering o path := by
  obtain ⟨c, i⟩ := x
  obtain ⟨hoptions, hpath, hu, hd, hc, hlt⟩ := hx
  have he : c.unit.get? (c.frameAt i).index = some (c.unit.entryAt i) := DebugUnit.get?_of_lt hlt
  have hget : c.unit.get? i = some (c.unit.entryAt i) := he
  have htag : Tag.normalize (c.unit.entryAt i).tag = (site (c, i)).tag := by
    simp only [site, Site.tag, hget, Option.map_some, Option.getD_some]
  have hnew : s.ledger.newFrames (c.frameAt i).id (c.offspring (c.frameAt i)) =
      (c.kidsAt i).map c.frameAt :=
    (s.ledger.newFrames_eq_self _ _ (nodup_offspring hu hd hc i) fun g _ => hpair g.id).trans
      (offspring_frameAt hu hd i)
  subst hoptions hpath
  simp only [visit, c.visit_eq s he, Array.toList_append, List.filter_append,
    c.filter_isNumbering_visitFacts, hnew, htag]
  rw [numbering_kidsAt]

theorem filter_isNumbering_foldl_visit {xs : List Stop} (hx : ∀ x ∈ xs, Placed o path x)
    {s : WalkState} (h : Unmet s xs) :
    (xs.foldl visit s).facts.toList.filter Fact.isNumbering =
      s.facts.toList.filter Fact.isNumbering ++ (xs.map site).flatMap (Site.ownNumbering o path) := by
  induction xs generalizing s with
  | nil => rw [List.map_nil, List.flatMap_nil, List.append_nil, List.foldl_nil]
  | cons x xs ih =>
    have hself : x ∈ x :: xs := List.mem_cons_self ..
    have hrest := ih (fun y hy => hx y (List.mem_cons_of_mem x hy)) h.visit
    rw [List.foldl_cons, hrest, filter_isNumbering_visit (hx x hself) (h.unpaired x hself),
      List.map_cons, List.flatMap_cons, List.append_assoc]

end WalkContext.Stop

namespace Corpus

variable {b : Corpus}

/-- On an empty ledger, a walk numbers the parameters of every function above the depth limit from
zero on, in order and once, and numbers nothing else. -/
theorem walkAll_numbering (o : WalkOptions) (hb : b.Forest)
    (hids : (b.sites.map (Site.identity b.pathText)).Nodup) :
    (∀ f ∈ b.sites, f.tag = "dw_tag_function" → f.depth < o.maxDepth →
      (b.walkAll o {}).facts.toList.filter (Fact.numbersFor (f.identity b.pathText)) =
        f.parameters.zipIdx.map fun x =>
          ⟨"dw_tag_formal_parameter_order", [.text b.pathText, (f.identity b.pathText).argument,
            (x.1.identity b.pathText).argument, .ofNat x.2]⟩) ∧
      ∀ x ∈ (b.walkAll o {}).facts.toList, x.isNumbering = true →
        ∃ f ∈ b.sites, f.tag = "dw_tag_function" ∧ f.depth < o.maxDepth ∧
          x.numbersFor (f.identity b.pathText) = true := by
  have hperm := hb.stops_perm (o := o)
  have hall : (b.walkAll o {}).facts.toList.filter Fact.isNumbering =
      ((b.stops o).map WalkContext.Stop.site).flatMap (Site.ownNumbering o b.pathText) := by
    rw [hb.walkAll_eq_foldl_visit hids]
    exact WalkContext.Stop.filter_isNumbering_foldl_visit (hb.placed_stops hids)
      (hb.unmet_stops hids)
  constructor
  · intro f hf htag hdepth
    have hmem : f ∈ (b.stops o).map WalkContext.Stop.site := by
      rw [hperm.mem_iff, List.mem_filter, decide_eq_true_eq]
      exact ⟨hf, Nat.le_of_lt hdepth⟩
    have hfilter : (b.walkAll o {}).facts.toList.filter (Fact.numbersFor (f.identity b.pathText)) =
        ((b.walkAll o {}).facts.toList.filter Fact.isNumbering).filter
          (Fact.numbersFor (f.identity b.pathText)) := by
      rw [List.filter_filter]
      apply List.filter_congr
      intro x _
      rw [Fact.numbersFor, Bool.and_assoc, Bool.and_comm _ x.isNumbering, ← Bool.and_assoc,
        Bool.and_self]
    rw [hfilter, hall, Site.filter_numbersFor_flatMap (hb.nodup_identity_stops hids) hmem]
    exact if_pos ⟨htag, hdepth⟩
  · intro x hx hn
    have hmem : x ∈ (b.walkAll o {}).facts.toList.filter Fact.isNumbering :=
      List.mem_filter.2 ⟨hx, hn⟩
    rw [hall, List.mem_flatMap] at hmem
    obtain ⟨f, hf, hx⟩ := hmem
    have hnumbers := Site.numbersFor_of_mem_ownNumbering (f := f) hx
    rw [decide_eq_true rfl] at hnumbers
    unfold Site.ownNumbering at hx
    split at hx
    · next hfunction =>
      exact ⟨f, List.mem_of_mem_filter (hperm.mem_iff.1 hf), hfunction.1, hfunction.2, hnumbers⟩
    · cases hx

/-- A function with a block between its two parameters. -/
def interleaved : DebugUnit :=
  ((((DebugUnit.empty 0).push none 11 "DW_TAG_subprogram" []).push (some 0) 20
    "DW_TAG_formal_parameter" []).push (some 0) 30 "DW_TAG_lexical_block" []).push (some 0) 40
    "DW_TAG_formal_parameter" []

def blockInside : Corpus where
  path := Path.ofString "/a"
  units := #[interleaved]

theorem built_interleaved : interleaved.Built :=
  ((((DebugUnit.Built.empty 0).push none 11 "DW_TAG_subprogram" [] rfl).push (some 0) 20
    "DW_TAG_formal_parameter" [] rfl).push (some 0) 30 "DW_TAG_lexical_block" [] rfl).push (some 0)
    40 "DW_TAG_formal_parameter" [] rfl

theorem descending_interleaved : interleaved.Descending := by
  have hroot := (DebugUnit.descending_empty 0).push none 11 "DW_TAG_subprogram" [] (by simp)
  refine ((hroot.push (some 0) _ _ _ ?_).push (some 0) _ _ _ ?_).push (some 0) _ _ _ ?_ <;>
    simp [DebugUnit.size_push]

theorem forest_blockInside : blockInside.Forest := by
  intro u hu
  obtain rfl := List.mem_singleton.1 (Array.mem_toList_iff.2 hu)
  exact ⟨built_interleaved, descending_interleaved⟩

theorem nodup_identity_blockInside :
    (blockInside.sites.map (Site.identity blockInside.pathText)).Nodup := by
  have hroot : interleaved.identityAt blockInside.pathText 0 =
      ⟨"a15d8fdc2f9943af1efe303be787c3a9"⟩ := by decide +kernel
  -- The digest of the function is worked out once for all its children.
  have hchild {i : Nat} (hi : interleaved.parent? i = some 0) :
      interleaved.identityAt blockInside.pathText i = Identity.ofEntry blockInside.pathText 0
        (interleaved.entryAt i) (some ⟨"a15d8fdc2f9943af1efe303be787c3a9"⟩) := by
    rw [DebugUnit.identityAt_of_parent _ descending_interleaved hi, hroot]
    rfl
  have hsites : blockInside.sites.map (Site.identity blockInside.pathText) =
      [0, 1, 2, 3].map (interleaved.identityAt blockInside.pathText) := rfl
  rw [hsites]
  simp only [List.map_cons, List.map_nil]
  rw [hroot, hchild (i := 1) rfl, hchild (i := 2) rfl, hchild (i := 3) rfl]
  decide +kernel

def nothingListed : WalkOptions where
  allowedTags := []
  maxDepth := 1
  maxTypeChain := 8
  generatorVersion := "1"

/-- The parameters get the numbers 0 and 1, although no tag is listed. -/
theorem walkAll_numbering_blockInside :
    ((blockInside.walkAll nothingListed {}).facts.toList.filter
      (Fact.numbersFor ((Site.mk interleaved 0).identity blockInside.pathText))).map
        (·.arguments[3]?) = [some (.number 0), some (.number 1)] := by
  have hmem : Site.mk interleaved 0 ∈ blockInside.sites :=
    mem_sites.2 ⟨Array.mem_singleton.2 rfl, by decide⟩
  have hnumbers := (walkAll_numbering nothingListed forest_blockInside
    nodup_identity_blockInside).1 _ hmem
    (by decide +kernel) (by decide +kernel)
  rw [hnumbers]
  decide +kernel

end Corpus

end ElfFacts
