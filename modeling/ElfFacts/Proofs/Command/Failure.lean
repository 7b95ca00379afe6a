import ElfFacts.Command.Generate
import ElfFacts.Proofs.Generator.FailFast

/-!
# A command that fails

What the command does before the run only looks at the file tree. If the run fails, the command
fails with it and the tree is as it was, with the fact files and the summary of earlier runs.
-/
namespace ElfFacts

open Disk (Still)

theorem ElfReader.still_load (p : Path) : Still (ElfReader.load p) := by
  refine (Still.read p).bind fun contents => ?_
  cases contents <;> exact .pure _

namespace Command

variable {o : GenerateOptions} {environment : Environment} {t : FileTree}

theorem still_locate (p : Path) : Still (locate p) := by
  unfold locate
  split
  · exact .currentDirectory
  · refine (Still.canonical p).bind fun place => ?_
    cases place with
    | ok place => exact .pure place
    | error _ => exact Still.currentDirectory.bind fun here => .pure (here.join p)

theorem still_locateAll (paths : List Path) : Still (locateAll paths) := .mapM still_locate paths

theorem still_loadConfig (p : Option Path) : Still (loadConfig p) := by
  cases p with
  | none => exact .pure _
  | some p =>
    refine (still_locate p).bind fun place => (Still.read place).bind fun contents => ?_
    cases contents with
    | error _ => exact .pure _
    | ok contents =>
      dsimp only
      split
      · exact .pure _
      · split <;> exact .pure _

theorem still_loadManifest (p : Option Path) : Still (loadManifest p) := by
  cases p with
  | none => exact .pure _
  | some p =>
    refine (still_locate p).bind fun place => (Still.read place).bind fun contents => ?_
    cases contents <;> exact .pure _

theorem still_outputDirectory (o : GenerateOptions) (manifest : Manifest) :
    Still (outputDirectory o manifest) := by
  unfold outputDirectory
  split
  · exact still_locate _
  · exact .pure _
  · exact still_locate _

theorem still_plan (o : GenerateOptions) : Still (plan o) := by
  refine (still_loadManifest o.manifest).bind fun manifest => ?_
  cases manifest with
  | error fault => exact .pure _
  | ok manifest =>
    refine (still_locateAll o.mains).bind fun mains => (still_locateAll o.libraries).bind
      fun libraries => (still_locateAll o.compilers).bind fun compilers => ?_
    dsimp only
    split
    · exact .pure _
    · exact (still_outputDirectory o manifest).bind fun outDir => .pure _

def means (o : GenerateOptions) (config : Config) (environment : Environment) :
    Survey.Means Disk :=
  ⟨ElfReader.load, (linkerQuery o config environment).resolve⟩

variable {config : Config} {r : Request} {outDir : Path}

theorem generate_apply (o : GenerateOptions) (environment : Environment) (t : FileTree) :
    (generate o environment : Disk _) t =
      match ((loadConfig o.config : Disk _) t).1 with
      | .error fault => (.error fault, t)
      | .ok config =>
        match ((plan o : Disk _) t).1 with
        | .error fault => (.error fault, t)
        | .ok (r, outDir) =>
          let layout : Layout := ⟨outDir, config.extension⟩
          match (Generator.run (means o config environment) config r layout : Disk _) t with
          | (.error fault, t') => (.error (.generation fault), t')
          | (.ok files, t') =>
            (finish Disk.time (linkerQuery o config environment) r layout files : Disk _) t' := by
  rw [generate, Disk.bind_apply, Still.now.apply_eq, Disk.bind_apply,
    (still_loadConfig o.config).apply_eq]
  cases ((loadConfig o.config : Disk _) t).1 with
  | error fault => rfl
  | ok config =>
    dsimp only
    rw [Disk.bind_apply, (still_plan o).apply_eq]
    cases ((plan o : Disk _) t).1 with
    | error fault => rfl
    | ok x =>
      obtain ⟨r, outDir⟩ := x
      dsimp only
      cases hrun : (Generator.run (means o config environment) config r
        ⟨outDir, config.extension⟩ : Disk _) t with
      | mk result t' =>
        have hrun' : (Generator.run ⟨ElfReader.load, (linkerQuery o config environment).resolve⟩
          config r ⟨outDir, config.extension⟩ : Disk _) t = (result, t') := hrun
        rw [Disk.bind_apply, hrun']
        cases result <;> rfl

theorem generate_of_fails {fault : RunFault}
    (hconfig : ((loadConfig o.config : Disk _) t).1 = .ok config)
    (hplan : ((plan o : Disk _) t).1 = .ok (r, outDir))
    (h : Generator.Fails (t.sight (means o config environment)) r fault) :
    (generate o environment : Disk _) t = (.error (.generation fault), t) := by
  have hrun : (Generator.run (means o config environment) config r ⟨outDir, config.extension⟩ :
      Disk _) t = (.error fault, t) := Generator.run_of_fails ElfReader.still_load h
  rw [generate_apply, hconfig]
  dsimp only
  rw [hplan]
  dsimp only
  rw [hrun]

/-- The command changes nothing unless there are documents to write. -/
theorem exists_documents_of_changed (h : ((generate o environment : Disk _) t).2 ≠ t) :
    ∃ config r outDir ds, ((loadConfig o.config : Disk _) t).1 = .ok config ∧
      ((plan o : Disk _) t).1 = .ok (r, outDir) ∧
      Generator.documents (t.sight (means o config environment)) config r = .ok ds := by
  cases hconfig : ((loadConfig o.config : Disk _) t).1 with
  | error fault =>
    rw [generate_apply, hconfig] at h
    exact absurd rfl h
  | ok config =>
    cases hplan : ((plan o : Disk _) t).1 with
    | error fault =>
      rw [generate_apply, hconfig] at h
      dsimp only at h
      rw [hplan] at h
      exact absurd rfl h
    | ok x =>
      obtain ⟨r, outDir⟩ := x
      cases hds : Generator.documents (t.sight (means o config environment)) config r with
      | ok ds => exact ⟨config, r, outDir, ds, rfl, rfl, hds⟩
      | error fault =>
        have hfails := Generator.documents_eq_error_iff.1 hds
        exact absurd (congrArg Prod.snd (generate_of_fails hconfig hplan hfails)) h

/-- A run without a main binary fails as such, else the first input that is not a file makes it fail,
else the first one that cannot be read, and else there are documents. If it fails, nothing is
written by the run, whatever surroundings it has, nor does it change the file tree to look around,
and the command that starts the run leaves all of the tree as it is. -/
theorem generate_failFast :
    (∀ (s : Surroundings) (config : Config) (r : Request),
      (∀ fault, Generator.documents s config r = .error fault ↔ Generator.Fails s r fault) ∧
      ((∃ ds, Generator.documents s config r = .ok ds) ↔
        r.mains ≠ [] ∧ ∀ p ∈ r.inputs, s.isFile p = true ∧ Generator.Loadable s p) ∧
      ∀ (m : Type → Type) [Monad m] [Host m] (layout : Layout) (fault : RunFault),
        Generator.documents s config r = .error fault →
          (Generator.generate s config r layout : m _) = pure (.error fault)) ∧
    (∀ (means : Survey.Means Disk) (config : Config) (r : Request) (layout : Layout) (t : FileTree)
      (fault : RunFault), (∀ p, Still (means.load p)) →
        (Generator.documents ((Survey.take means config r : Disk _) t).1.surroundings config r =
            .error fault ↔ Generator.Fails (t.sight means) r fault) ∧
        (Generator.Fails (t.sight means) r fault →
          (Generator.run means config r layout : Disk _) t = (.error fault, t))) ∧
    ∀ (o : GenerateOptions) (environment : Environment) (t : FileTree),
      (∀ config r outDir fault, ((loadConfig o.config : Disk _) t).1 = .ok config →
        ((plan o : Disk _) t).1 = .ok (r, outDir) →
        Generator.Fails (t.sight (means o config environment)) r fault →
          (generate o environment : Disk _) t = (.error (.generation fault), t)) ∧
      (((generate o environment : Disk _) t).2 ≠ t →
        ∃ config r outDir ds, ((loadConfig o.config : Disk _) t).1 = .ok config ∧
          ((plan o : Disk _) t).1 = .ok (r, outDir) ∧
          Generator.documents (t.sight (means o config environment)) config r = .ok ds) := by
  refine ⟨fun s config r => ⟨fun fault => Generator.documents_eq_error_iff,
    Generator.exists_documents_iff, fun m _ _ layout fault h => Generator.generate_of_documents h⟩,
    fun means config r layout t fault hload => ⟨?_, Generator.run_of_fails hload⟩,
    fun o environment t => ⟨fun config r outDir fault => generate_of_fails,
      exists_documents_of_changed⟩⟩
  exact Survey.documents_take_eq_error_iff config hload

def absent : Path := ⟨[Path.slash, 97]⟩

theorem trace_absent : ({} : FileTree).trace .visit absent = .ok (.free [[97]]) := by
  simp [FileTree.trace, absent, FileTree.seek, Path.splitSlashes, Path.isFiller, Path.isAbsolute,
    FileTree.node?, FileTree.longestName, Path.slash, Path.dot]

theorem kindOf_absent : Disk.kindOf {} absent = none := by
  have hfind : ({} : FileTree).find .visit absent = .ok (.free [[97]]) := by
    rw [FileTree.find, if_neg (by decide), trace_absent]
  simp only [Disk.kindOf, FileTree.stat, FileTree.look, hfind]
  rfl

theorem locate_absent : (locate absent : Disk _) {} = (absent, {}) := by
  have hcanonical : (Host.canonical absent : Disk _) {} = (.error .missing, {}) := by
    change (({} : FileTree).canonical absent, ({} : FileTree)) = _
    rw [FileTree.canonical, trace_absent]
  rw [locate, if_neg (by decide), Disk.bind_apply, hcanonical]
  rfl

def absentMain : GenerateOptions where
  mains := [absent]
  outDir := some absent

theorem plan_absentMain : ((plan absentMain : Disk _) {}).1 = .ok (⟨[absent], [], []⟩, absent) := by
  have hmains : (locateAll [absent] : Disk _) {} = ([absent], {}) := by
    rw [locateAll, List.mapM_cons, Disk.bind_apply, locate_absent]
    rfl
  have hrest : (locateAll [] : Disk _) {} = ([], {}) := rfl
  simp [plan, loadManifest, absentMain, hmains, hrest, outputDirectory, locate_absent]

def withoutCompiler : Surroundings where
  isFile p := p == Path.ofString "/main"
  present _ := false
  load _ := .error (.parse "not an ELF file")
  resolve _ := .error (.spawn "ldd")

def withCompiler : Request where
  mains := [Path.ofString "/main"]
  compilers := [Path.ofString "/gcc"]

/-- The missing compiler comes before the main binary that cannot be read, and a main binary that is
not there makes the command fail with nothing written. -/
theorem generate_failFast_absent :
    Generator.documents withoutCompiler {} withCompiler =
        .error (.missingInput (Path.ofString "/gcc")) ∧
      (generate absentMain {} : Disk _) {} = (.error (.generation (.missingInput absent)), {}) := by
  obtain ⟨hdocuments, -, hcommand⟩ := generate_failFast
  constructor
  · refine ((hdocuments withoutCompiler {} withCompiler).1 _).2 (.missing (by decide) ?_)
    exact ⟨[Path.ofString "/main"], [], by decide +kernel, by decide, by decide⟩
  · refine (hcommand absentMain {} {}).1 {} _ _ _ rfl plan_absentMain (.missing (by decide) ?_)
    refine ⟨[], [], by decide, ?_, fun q hq => (List.not_mem_nil hq).elim⟩
    change decide (Disk.kindOf {} absent = some .file) = false
    rw [kindOf_absent]
    rfl

end Command

end ElfFacts
