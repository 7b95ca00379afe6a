import ElfFacts.Config
import ElfFacts.Generator.Documents
import ElfFacts.Proofs.Walk.Tag
import Mathlib.Data.List.Forall2

/-!
# Tags of the settings

The tags to report can be given raw or normalized. Walks take their options from the settings with
every tag normalized, and normalizing a tag again does not change it.
-/
namespace ElfFacts

namespace Generator

theorem assemble_congr {config config' : Config}
    (hneeded : config'.resolveNeeded = config.resolveNeeded) (s : Surroundings) (plan : Plan)
    (known : PathTable Block) (mains : List Path) :
    assemble s config' plan known mains = assemble s config plan known mains := by
  have hpaths : auxiliaryPaths s config' = auxiliaryPaths s config := by
    funext inputs main
    rw [auxiliaryPaths, auxiliaryPaths, hneeded]
  induction mains generalizing known with
  | nil => rfl
  | cons main rest ih =>
    rw [assemble, assemble, hpaths]
    cases plan.corpora.get? main with
    | none => exact ih known
    | some c =>
      dsimp only
      rw [ih]

/-- Of the settings, documents depend on the options of the walk and on whether libraries are looked
for. -/
theorem documents_congr {config config' : Config}
    (hoptions : config'.walkOptions = config.walkOptions)
    (hneeded : config'.resolveNeeded = config.resolveNeeded) (s : Surroundings) (r : Request) :
    documents s config' r = documents s config r := by
  have hplan : plan config' = plan config := by
    funext r corpora
    rw [plan, plan, hoptions]
  simp only [documents, hplan, assemble_congr hneeded]

end Generator

namespace Config

/-- The tags of `c`, any of them normalized. -/
def Respelled (c : Config) (tags : List String) : Prop :=
  List.Forall₂ (fun tag tag' => tag' = tag ∨ tag' = Tag.normalize tag) c.allowedTags tags

instance (c : Config) (tags : List String) : Decidable (c.Respelled tags) :=
  inferInstanceAs (Decidable (List.Forall₂ _ _ _))

theorem map_normalize_eq {tags tags' : List String}
    (h : List.Forall₂ (fun tag tag' => tag' = tag ∨ tag' = Tag.normalize tag) tags tags') :
    tags'.map Tag.normalize = tags.map Tag.normalize := by
  induction h with
  | nil => rfl
  | @cons tag tag' _ _ htag _ ih =>
    have hsame : Tag.normalize tag' = Tag.normalize tag := by
      rcases htag with rfl | rfl
      · rfl
      · exact Tag.normalize_normalize tag
    rw [List.map_cons, List.map_cons, hsame, ih]

theorem Respelled.walkOptions_eq {c : Config} {tags : List String} (h : c.Respelled tags) :
    { c with allowedTags := tags }.walkOptions = c.walkOptions :=
  congrArg (fun tags => { c.walkOptions with allowedTags := tags }) (map_normalize_eq h)

/-- Normalized tags are in lower case and name no subprogram, and tags that do so are kept as they
are. So raw and normalized tags in the settings lead to the same options and to the same facts. -/
theorem walk_respelled (tag : String) (c : Config) (tags : List String) (h : c.Respelled tags) :
    Tag.normalize (Tag.normalize tag) = Tag.normalize tag ∧
      ¬ Tag.subprogram <:+: (Tag.normalize tag).toList ∧
      (Tag.normalize tag = tag ↔ Text.lower tag = tag ∧ ¬ Tag.subprogram <:+: tag.toList) ∧
      { c with allowedTags := tags }.walkOptions = c.walkOptions ∧
      (∀ (b : Corpus) (s : WalkState),
        b.walkAll { c with allowedTags := tags }.walkOptions s = b.walkAll c.walkOptions s) ∧
      ∀ (s : Surroundings) (r : Request),
        Generator.documents s { c with allowedTags := tags } r = Generator.documents s c r := by
  have hnormal := Tag.isNormal_normalize tag
  refine ⟨Tag.normalize_normalize tag, hnormal.subprogram, ⟨fun htag => ?_, fun htag => ?_⟩,
    h.walkOptions_eq, fun b s => by rw [h.walkOptions_eq],
    Generator.documents_congr h.walkOptions_eq rfl⟩
  · rw [htag] at hnormal
    refine ⟨?_, hnormal.subprogram⟩
    rw [Text.lower, Text.lowerChars_eq_self hnormal.lower, String.ofList_toList]
  · have hlower : Text.lowerChars tag.toList = tag.toList := by
      rw [← String.toList_ofList (l := Text.lowerChars tag.toList)]
      exact congrArg String.toList htag.1
    have hchars : ∀ c ∈ tag.toList, Text.IsLower c := by
      rw [← hlower]
      exact fun c hc => Text.isLower_of_mem_lowerFrom hc
    exact Tag.IsNormal.normalize_eq ⟨hchars, htag.2⟩

/-- The dotted capital takes two characters, a sigma ends a word, and one tag is normal. -/
theorem walk_respelled_raw :
    let c : Config := { allowedTags := ["DW_TAG_SUBPROGRAM", "İSubprogramΣ", "dw_tag_member"] }
    let tags := ["dw_tag_function", "i\u0307functionς", "dw_tag_member"]
    c.Respelled tags ∧ { c with allowedTags := tags }.walkOptions = c.walkOptions := by
  intro c tags
  have hrespelled : c.Respelled tags := by decide +kernel
  exact ⟨hrespelled, (walk_respelled "" c tags hrespelled).2.2.2.1⟩

end Config

end ElfFacts
