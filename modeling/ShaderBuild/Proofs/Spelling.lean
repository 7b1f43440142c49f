import ShaderBuild.Proofs.FileChange

/-!
Paths with the same normal form over files in memory. Main statement: `spelling_is_immaterial`.
Normal forms go through joins, so that requests from two spellings of a directory look at the same
places, and a file is found under every spelling of the path that it was written to.
-/

namespace ShaderBuild

theorem MemoryFiles.read_eq (m : MemoryFiles) (p : Path) :
    m.files.read p = match m.get? p with
      | some data => .ok data
      | none => .error (.absent p) := rfl

namespace Path

theorem normal_join_congr {p p' : Path} (h : p.normal = p'.normal) (q : Path) :
    (p.join q).normal = (p'.join q).normal := by
  rw [normal_join p q, normal_join p' q, h]

end Path

namespace Finder

variable {dir dir' : Path} (hdir : dir.normal = dir'.normal)

include hdir

theorem value_beside_congr (m : MemoryFiles) (name : String) :
    (beside m.files dir name).value = (beside m.files dir' name).value := by
  rw [value_beside, value_beside]
  exact m.textAt?_congr (Path.normal_join_congr hdir ⟨name⟩)

theorem value_standard_congr (f : Finder) (m : MemoryFiles) (name : String) :
    (f.standard m.files dir name).value = (f.standard m.files dir' name).value := by
  simp only [standard, Traced.value_orElse, value_beside_congr hdir]

theorem value_relative_congr (f : Finder) (m : MemoryFiles) (name : String) :
    (f.relative m.files dir name).value = (f.relative m.files dir' name).value := by
  simp only [relative, Traced.value_orElse, value_beside_congr hdir]

end Finder

/-! ## Main statement -/

/-- In memory it makes no difference how a path is spelled: bringing paths into their normal form is
done once and for all, also below another path; requests from directories of the same normal form
find the same text at the same path; and a file holds what was last written to any path of its
normal form, unless it was removed since. -/
theorem spelling_is_immaterial (m : MemoryFiles) (finder : Finder) (p q dir dir' : Path)
    (name : String) (changes : List FileChange) :
    p.normal.normal = p.normal ∧ (p.join q).normal = (p.normal.join q).normal ∧
      (dir.normal = dir'.normal →
        (finder.standard m.files dir name).value = (finder.standard m.files dir' name).value ∧
        (finder.relative m.files dir name).value = (finder.relative m.files dir' name).value) ∧
      (FileChange.applyAll changes m).files.read p =
        match changes.reverse.find? fun change => change.path.normal = p.normal with
        | some (.write _ data) => .ok data
        | some (.remove _) => .error (.absent p)
        | none => m.files.read p := by
  refine ⟨p.normal_normal, Path.normal_join p q, ?_, ?_⟩
  · intro hdir
    exact ⟨finder.value_standard_congr hdir m name, finder.value_relative_congr hdir m name⟩
  · rw [MemoryFiles.read_eq, MemoryFiles.get?_applyAll, ← FileChange.lastAt?]
    cases hlast : FileChange.lastAt? p changes with
    | none => rfl
    | some change => cases change <;> rfl

namespace Spelling

def kept : MemoryFiles := .ofTexts [("s/a/x", "1"), ("../y", "2")]

def edits : List FileChange :=
  [.write ⟨"t/../../y"⟩ (Bytes.ofText "3"), .remove ⟨"s//a/x"⟩, .write ⟨"./z/"⟩ [],
    .write ⟨"../t/../y"⟩ (Bytes.ofText "4")]

/-- One directory in two spellings, and files that are changed under other spellings than they are
read. -/
theorem spelling_is_immaterial_detour :
    (⟨"s/./b/../a/"⟩ : Path).normal = (⟨"r/..//s/a"⟩ : Path).normal ∧
      (Finder.new.relative kept.files ⟨"s/./b/../a/"⟩ "x").value = some ⟨⟨"s/a/x"⟩, "1"⟩ ∧
      (Finder.new.relative kept.files ⟨"r/..//s/a"⟩ "x").value = some ⟨⟨"s/a/x"⟩, "1"⟩ ∧
      (FileChange.applyAll edits kept).files.read ⟨"u/../../y"⟩ = .ok (Bytes.ofText "4") ∧
      (FileChange.applyAll edits kept).files.read ⟨"s/a/x"⟩ = .error (.absent ⟨"s/a/x"⟩) := by
  have hdir : (⟨"s/./b/../a/"⟩ : Path).normal = (⟨"r/..//s/a"⟩ : Path).normal := by decide +kernel
  have hfound : (Finder.new.relative kept.files ⟨"s/./b/../a/"⟩ "x").value =
      some ⟨⟨"s/a/x"⟩, "1"⟩ := by
    decide +kernel
  obtain ⟨_, _, hrequests, hread⟩ :=
    spelling_is_immaterial kept Finder.new ⟨"u/../../y"⟩ ⟨"x"⟩ ⟨"s/./b/../a/"⟩
    ⟨"r/..//s/a"⟩ "x" edits
  obtain ⟨_, _, _, hread'⟩ :=
    spelling_is_immaterial kept Finder.new ⟨"s/a/x"⟩ ⟨"x"⟩ ⟨"s"⟩ ⟨"s"⟩ "x" edits
  refine ⟨hdir, hfound, (hrequests hdir).2.symm.trans hfound, hread.trans ?_, hread'.trans ?_⟩
  · decide +kernel
  · decide +kernel

end Spelling

end ShaderBuild
