import ElfFacts.Proofs.Walk.Visit
import Mathlib.Data.List.Nodup
import Mathlib.Data.List.Perm.Subperm

/-!
# Languages and the version

A ledger knows the declared languages, each of them once, and whether there was a compile unit. What
a visit reports for a compile unit is what the ledger gains by it, so that all that has been reported
can be read off the ledger at the end.
-/
namespace ElfFacts

/-- The facts for what a ledger knows of compile units. -/
def Ledger.declarations (path version : String) (l : Ledger) : List Fact :=
  (if l.sawCompileUnit then [⟨"generator_version", [.text path, .text version]⟩] else []) ++
    l.languages.map fun language => ⟨"language", [.text path, .text language]⟩

theorem Ledger.declarations_subperm (path version : String) {l l' : Ledger}
    (hnodup : l.languages.Nodup) (hlanguages : l.languages ⊆ l'.languages)
    (hsaw : l.sawCompileUnit = true → l'.sawCompileUnit = true) :
    (l.declarations path version).Subperm (l'.declarations path version) := by
  have hversion : ((if l.sawCompileUnit then [⟨"generator_version", [.text path, .text version]⟩]
      else []) : List Fact).Sublist (if l'.sawCompileUnit then
        [⟨"generator_version", [.text path, .text version]⟩] else []) := by
    cases h : l.sawCompileUnit
    · exact List.nil_sublist _
    · rw [hsaw h]
  obtain ⟨languages, hperm, hsublist⟩ :=
    List.Nodup.subperm hnodup hlanguages
  exact hversion.subperm.append ⟨languages.map _, hperm.map _, hsublist.map _⟩

namespace WalkContext

def Declares (e : DebugEntry) (language : String) : Prop :=
  Tag.kind (Tag.normalize e.tag) = .compileUnit ∧ languageOf? e = some language

theorem not_mem_of_newLanguage? {e : DebugEntry} {l : Ledger} {language : String}
    (h : newLanguage? e l = some language) : language ∉ l.languages := by
  simpa using (Option.filter_eq_some_iff.1 h).2

theorem mem_languages_recordUnit {e : DebugEntry} {l : Ledger} {language : String} :
    language ∈ (recordUnit e l).languages ↔
      language ∈ l.languages ∨ languageOf? e = some language := by
  simp only [recordUnit, List.mem_append, Option.mem_toList, newLanguage?,
    Option.filter_eq_some_iff, Bool.not_eq_true', List.contains_eq_mem, decide_eq_false_iff_not]
  tauto

theorem nodup_languages_recordUnit {e : DebugEntry} {l : Ledger} (h : l.languages.Nodup) :
    (recordUnit e l).languages.Nodup := by
  refine h.append ?_ fun language hold hnew => ?_
  · cases newLanguage? e l <;> simp
  · exact not_mem_of_newLanguage? (Option.mem_toList.1 hnew) hold

variable (c : WalkContext) (f : WalkFrame) (e : DebugEntry) (l : Ledger)

theorem languages_visitLedger : (c.visitLedger f e l).languages =
    if Tag.kind (Tag.normalize e.tag) = .compileUnit then (recordUnit e l).languages
    else l.languages := by
  simp only [visitLedger]
  split <;> simp [recordUnit, newLanguage?, Ledger.register]

theorem sawCompileUnit_visitLedger : (c.visitLedger f e l).sawCompileUnit =
    (l.sawCompileUnit || decide (Tag.kind (Tag.normalize e.tag) = .compileUnit)) := by
  simp only [visitLedger]
  split <;> simp [*, recordUnit, Ledger.register]

theorem mem_languages_visitLedger {language : String} :
    language ∈ (c.visitLedger f e l).languages ↔ language ∈ l.languages ∨ Declares e language := by
  rw [languages_visitLedger]
  split
  · next hunit => rw [mem_languages_recordUnit, Declares, and_iff_right hunit]
  · next hunit => rw [Declares, or_iff_left fun h => hunit h.1]

theorem nodup_languages_visitLedger (h : l.languages.Nodup) :
    (c.visitLedger f e l).languages.Nodup := by
  rw [languages_visitLedger]
  split
  · exact nodup_languages_recordUnit h
  · exact h

theorem declarations_visitLedger :
    ((c.visitLedger f e l).declarations c.path c.options.generatorVersion).Perm
      (l.declarations c.path c.options.generatorVersion ++
        if Tag.kind (Tag.normalize e.tag) = .compileUnit then c.unitFacts e l else []) := by
  rw [Ledger.declarations, Ledger.declarations, languages_visitLedger, sawCompileUnit_visitLedger]
  by_cases hunit : Tag.kind (Tag.normalize e.tag) = .compileUnit
  · cases hsaw : l.sawCompileUnit
    · simpa [hunit, hsaw, recordUnit, unitFacts] using List.perm_middle.symm
    · simp [hunit, hsaw, recordUnit, unitFacts]
  · simp [hunit]

end WalkContext

end ElfFacts
