import ElfFacts.Command.Inputs
import ElfFacts.Config
import ElfFacts.Proofs.Generator.Written
import ElfFacts.Proofs.Json.Written
import ElfFacts.Proofs.Text.Decoded

/-!
# Settings that are written and read

Settings come back from the object that they are written as. If some are left out of the object,
those have their defaults, and the others come back.
-/
namespace ElfFacts

namespace Json

theorem strings?_ofStrings (l : List String) : (ofStrings l).strings? = some l := by
  rw [ofStrings, strings?]
  induction l with
  | nil => rfl
  | cons s l ih =>
    rw [List.map_cons, List.mapM_cons, ih]
    rfl

theorem word?_ofNat (n : UInt64) : (ofNat n.toNat).word? = some n := by
  rw [ofNat, word?, natOfDigits?_toDigits]
  simp only [if_pos n.toNat_lt_size, UInt64.ofNat_toNat]

theorem writable_ofNat (n : Nat) : (ofNat n).Writable := by
  rw [ofNat, Writable]
  exact isNumber_of_natOfDigits (natOfDigits?_toDigits n)

theorem writable_ofString (s : String) : (ofString s).Writable := by
  rw [ofString, Writable]
  rfl

theorem writable_ofStrings (l : List String) : (ofStrings l).Writable := by
  rw [ofStrings, Writable]
  induction l with
  | nil => exact trivial
  | cons s l ih => exact ⟨writable_ofString s, ih⟩

theorem writable_bool (b : Bool) : (Json.bool b).Writable := by
  rw [Writable]
  trivial

theorem writable_ofMembers {members : List (String × Json)} (h : ∀ m ∈ members, m.2.Writable) :
    (ofMembers members).Writable := by
  rw [ofMembers, Writable]
  induction members with
  | nil => exact trivial
  | cons m members ih =>
    exact ⟨rfl, h m (List.mem_cons_self ..), ih fun x hx => h x (List.mem_cons_of_mem m hx)⟩

end Json

namespace Fields

variable {α β : Type} {names : List String} {members : List (String × α)} {name : String}

theorem ofMembers?_eq_some (hnames : ∀ m ∈ members, m.1 ∈ names)
    (hnodup : (members.map (·.1)).Nodup) :
    ofMembers? names (members.map fun m => (some m.1, m.2)) = some members := by
  induction members with
  | nil => rfl
  | cons m members ih =>
    rw [List.map_cons, List.nodup_cons] at hnodup
    have hrest := ih (fun x hx => hnames x (List.mem_cons_of_mem m hx)) hnodup.2
    have hname : names.contains m.1 = true :=
      List.contains_iff_mem.2 (hnames m (List.mem_cons_self ..))
    have hnone : members.lookup m.1 = none := by
      rw [List.lookup_eq_none_iff]
      intro x hx
      rw [bne_iff_ne]
      exact fun he => hnodup.1 (he ▸ List.mem_map_of_mem hx)
    rw [List.map_cons, ofMembers?, hrest]
    simp only [hname, hnone]
    rfl

theorem lookup_filter (keep : String → Bool) (members : List (String × α)) (name : String) :
    (members.filter fun m => keep m.1).lookup name =
      if keep name then members.lookup name else none := by
  induction members with
  | nil => rw [List.filter_nil, List.lookup_nil, ite_self]
  | cons m members ih =>
    rw [List.filter_cons, List.lookup_cons]
    cases hname : name == m.1 with
    | true =>
      obtain rfl := beq_iff_eq.1 hname
      split
      · rw [List.lookup_cons, hname]
      · next hkeep => rw [ih, if_neg hkeep]
    | false =>
      split
      · rw [List.lookup_cons, hname, ih]
      · rw [ih]

theorem getOr_filter (keep : String → Bool) {default v : β} {read : α → Option β}
    (h : getOr members name default read = some v) :
    getOr (members.filter fun m => keep m.1) name default read =
      some (if keep name then v else default) := by
  rw [getOr, lookup_filter]
  cases keep name with
  | true => exact h
  | false => rfl

end Fields

namespace Config

variable (c : Config) (keep : String → Bool)

/-- The settings of which some are left out: those have their defaults. -/
def keeping : Config where
  configVersion := if keep "config_version" then c.configVersion else ({} : Config).configVersion
  allowedTags := if keep "allowed_tags" then c.allowedTags else ({} : Config).allowedTags
  maxDepth := if keep "max_depth" then c.maxDepth else ({} : Config).maxDepth
  maxTypeChain := if keep "max_type_chain" then c.maxTypeChain else ({} : Config).maxTypeChain
  resolveNeeded :=
    if keep "resolve_needed_libraries" then c.resolveNeeded else ({} : Config).resolveNeeded
  lddPath := if keep "ldd_path" then c.lddPath else ({} : Config).lddPath
  extension := if keep "fact_file_extension" then c.extension else ({} : Config).extension

def keptJson : Json := .ofMembers (c.members.filter fun m => keep m.1)

theorem map_members_sublist : (c.members.map (·.1)).Sublist names := by
  have hldd : ((c.lddPath.toList.map fun p => ("ldd_path", Json.ofString p)).map (·.1)).Sublist
      ["ldd_path"] := by
    cases c.lddPath with
    | none => exact List.nil_sublist _
    | some p => exact List.Sublist.refl _
  rw [members, List.map_append, List.map_append]
  exact ((List.Sublist.refl _).append hldd).append (List.Sublist.refl _)

theorem ofJson?_keptJson : ofJson? (c.keptJson keep) = some (c.keeping keep) := by
  have hsublist : ((c.members.filter fun m => keep m.1).map (·.1)).Sublist names :=
    (List.filter_sublist.map _).trans c.map_members_sublist
  have hfields : (c.keptJson keep).fields? names = some (c.members.filter fun m => keep m.1) :=
    Fields.ofMembers?_eq_some (fun m hm => hsublist.subset (List.mem_map_of_mem hm))
      (hsublist.nodup (by decide))
  have hversion : Fields.getOr c.members "config_version" ({} : Config).configVersion
      Json.string? = some c.configVersion := rfl
  have htags : Fields.getOr c.members "allowed_tags" ({} : Config).allowedTags Json.strings? =
      some c.allowedTags := Json.strings?_ofStrings c.allowedTags
  have hdepth : Fields.getOr c.members "max_depth" ({} : Config).maxDepth Json.word? =
      some c.maxDepth := Json.word?_ofNat c.maxDepth
  have hchain : Fields.getOr c.members "max_type_chain" ({} : Config).maxTypeChain Json.word? =
      some c.maxTypeChain := Json.word?_ofNat c.maxTypeChain
  have hresolve : Fields.getOr c.members "resolve_needed_libraries" ({} : Config).resolveNeeded
      Json.bool? = some c.resolveNeeded := rfl
  have hldd : Fields.getOr c.members "ldd_path" ({} : Config).lddPath
      (Json.nullable? Json.string?) = some c.lddPath := by
    unfold members
    cases c.lddPath <;> rfl
  have hextension : Fields.getOr c.members "fact_file_extension" ({} : Config).extension
      Json.string? = some c.extension := by
    unfold members
    cases c.lddPath <;> rfl
  rw [ofJson?, hfields]
  simp only [Option.bind_eq_bind, Option.bind_some, Fields.getOr_filter keep hversion,
    Fields.getOr_filter keep htags, Fields.getOr_filter keep hdepth,
    Fields.getOr_filter keep hchain, Fields.getOr_filter keep hresolve,
    Fields.getOr_filter keep hldd, Fields.getOr_filter keep hextension]
  rfl

theorem writable_keptJson : (c.keptJson keep).Writable := by
  refine Json.writable_ofMembers fun m hm => ?_
  have hmem := List.mem_of_mem_filter hm
  simp only [members, List.mem_append, List.mem_cons, List.not_mem_nil, or_false,
    List.mem_map] at hmem
  rcases hmem with ((rfl | rfl | rfl | rfl | rfl) | ⟨p, -, rfl⟩) | rfl
  · exact Json.writable_ofString _
  · exact Json.writable_ofStrings _
  · exact Json.writable_ofNat _
  · exact Json.writable_ofNat _
  · exact Json.writable_bool _
  · exact Json.writable_ofString _
  · exact Json.writable_ofString _

theorem parse?_keptJson :
    parse? (c.keptJson keep).render.toList = some (c.keeping keep) := by
  rw [parse?, Json.render, String.toList_ofList, Json.parse?_chars (c.writable_keptJson keep)]
  exact c.ofJson?_keptJson keep

theorem keptJson_all : c.keptJson (fun _ => true) = c.toJson := by
  rw [keptJson, List.filter_true, toJson]

theorem load_of_read {t : FileTree} {p : Path} {s : String} (h : t.read p = .ok s.toUTF8)
    (hparse : parse? s.toList = some c) : (load p : Disk _) t = (.ok c, t) := by
  have hread : (Host.read p : Disk _) t = (.ok s.toUTF8, t) := congrArg (·, t) h
  have hstrict : Utf8.strict s.toUTF8.data.toList = some s.toList := Utf8.strict_encode s
  rw [load, Disk.bind_apply, hread]
  simp only [hstrict, hparse]
  rfl

/-- Settings in a file are those that were written to it, with defaults for the ones that have been
left out. -/
theorem load_written (t : FileTree) (p : Path) :
    (t.read p = .ok c.toJson.render.toUTF8 → (load p : Disk _) t = (.ok c, t)) ∧
      ∀ keep : String → Bool,
        t.read p = .ok (Json.ofMembers (c.members.filter fun m => keep m.1)).render.toUTF8 →
          (load p : Disk _) t = (.ok (c.keeping keep), t) := by
  have hkept (keep : String → Bool) (h : t.read p = .ok (c.keptJson keep).render.toUTF8) :
      (load p : Disk _) t = (.ok (c.keeping keep), t) :=
    load_of_read _ h (c.parse?_keptJson keep)
  refine ⟨fun h => ?_, hkept⟩
  rw [← keptJson_all] at h
  exact hkept _ h

def oneFile (content : ByteArray) : FileTree :=
  ({} : FileTree).put [Utf8.encode "c"] (.file content false)

theorem read_oneFile (content : ByteArray) :
    (oneFile content).read (.ofString "c") = .ok content := by
  have hnode : (oneFile content).node? [Utf8.encode "c"] = some (.file content false) := by
    rw [FileTree.node?, if_neg (List.cons_ne_nil _ _), oneFile, FileTree.put]
    exact Std.HashMap.getElem?_insert_self
  have hseek : (oneFile content).seek .visit FileTree.mostLinks [] [Utf8.encode "c"] =
      .ok (.present [Utf8.encode "c"] (.file content false)) :=
    FileTree.seek_name_of_some ⟨by decide, by decide, by decide⟩ hnode
      (.inr fun _ => Node.noConfusion) _
  have hfind : (oneFile content).find .visit (.ofString "c") =
      .ok (.present [Utf8.encode "c"] (.file content false)) := hseek
  rw [FileTree.read, FileTree.stat, FileTree.look, hfind]
  rfl

def quoted : Config where
  configVersion := "\"\\\n\x00"
  allowedTags := []
  maxDepth := 18446744073709551615
  lddPath := some "é"

theorem load_written_quoted :
    ((load (.ofString "c") : Disk _) (oneFile quoted.toJson.render.toUTF8)).1 = .ok quoted ∧
      ((load (.ofString "c") : Disk _) (oneFile
        (Json.ofMembers (quoted.members.filter fun m => m.1 == "ldd_path")).render.toUTF8)).1 =
        .ok { lddPath := some "é" } := by
  constructor
  · rw [(load_written quoted _ _).1 (read_oneFile _)]
  · rw [(load_written quoted _ _).2 (· == "ldd_path") (read_oneFile _)]
    decide

end Config

end ElfFacts
