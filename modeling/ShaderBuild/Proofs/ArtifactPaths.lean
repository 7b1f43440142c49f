import ShaderBuild.Project.Artifact
import ShaderBuild.Proofs.NormalPath

/-!
Where the compiled shaders of several files go. Main statement: `artifacts_apart_iff`. Next to their
sources they go to different places; in one directory they do so if and only if the sources have
different names.
-/

namespace ShaderBuild

namespace Path

/-! ## The first pieces of a path -/

theorem bytes_ofBytes (s : Bytes) : (Piece.ofBytes s).bytes = s := by
  unfold Piece.ofBytes
  split
  · rfl
  · split
    · rename_i hup
      exact hup.symm
    · rfl

theorem map_bytes_ofBytes (ts : List Bytes) : (ts.map Piece.ofBytes).map Piece.bytes = ts := by
  simp [Function.comp_def, bytes_ofBytes]

theorem map_bytes_cons (c : Component) (ts : List Bytes) :
    (Piece.part c :: ts.map Piece.ofBytes).map Piece.bytes = c.bytes :: ts :=
  congrArg _ (map_bytes_ofBytes ts)

theorem ofText_ne_root (s : Bytes) : Piece.ofBytes s ≠ .part .root := by
  unfold Piece.ofBytes
  split
  · simp
  · split <;> simp

theorem bytes_ofPieces {ps : List Piece} (h : ps ≠ [.part .root]) :
    (ofPieces ps).bytes = Text.join slash (ps.map Piece.bytes) := by
  unfold ofPieces
  split
  · exact absurd rfl h
  · rfl

section Take

variable {cs first : Bytes} {others : List Bytes}
    (hparts : Text.splitOn slash cs = first :: others) (n : Nat)

include hparts

/-- Parts between slashes stay the same parts when some at the end are left out. -/
theorem splitOn_join_take : Text.splitOn slash (Text.join slash (first :: others.take n)) =
    first :: others.take n := by
  apply Text.splitOn_join (List.cons_ne_nil _ _)
  intro part hpart
  have hmem : part ∈ Text.splitOn slash cs := by
    rw [hparts]
    rcases List.mem_cons.1 hpart with rfl | hpart
    · exact .head _
    · exact .tail _ (List.mem_of_mem_take hpart)
  exact Text.not_mem_of_mem_splitOn hmem

/-- No slash comes to the start that way. -/
theorem head?_join_take (hslash : cs.head? ≠ some slash) :
    (Text.join slash (first :: others.take n)).head? ≠ some slash := by
  have hcs : Text.join slash (first :: others) = cs := hparts ▸ Text.join_splitOn slash cs
  cases first with
  | nil =>
    cases others with
    | nil => simp [Text.join]
    | cons other others =>
      rw [← hcs] at hslash
      exact absurd rfl hslash
  | cons c first =>
    have hhead : ∀ more, (Text.join slash ((c :: first) :: more)).head? = some c := by
      intro more
      cases more <;> rfl
    rw [← hcs, hhead] at hslash
    rwa [hhead]

theorem pieces_take_rooted :
    (ofPieces (.part .root :: (first :: others.take n).map Piece.ofBytes)).pieces =
      .part .root :: (first :: others.take n).map Piece.ofBytes := by
  rw [pieces, bytes_ofPieces (by simp), map_bytes_cons]
  exact congrArg (fun ts => Piece.part .root :: ts.map Piece.ofBytes) (splitOn_join_take hparts n)

theorem pieces_take_relative (hslash : cs.head? ≠ some slash) (hdot : first ≠ [dot]) :
    (ofPieces ((first :: others.take n).map Piece.ofBytes)).pieces =
      (first :: others.take n).map Piece.ofBytes := by
  have hsplit := splitOn_join_take hparts n
  have hbytes := @bytes_ofPieces ((first :: others.take n).map Piece.ofBytes)
    fun hroot => ofText_ne_root first (List.cons.inj hroot).1
  rw [map_bytes_ofBytes] at hbytes
  rw [pieces, hbytes, piecesOf_relative (head?_join_take hparts n hslash)
    (by simpa [hsplit] using hdot), hsplit]

end Take

theorem pieces_take_here {cs : Bytes} {others : List Bytes}
    (hparts : Text.splitOn slash cs = [dot] :: others) (n : Nat) (hslash : cs.head? ≠ some slash) :
    (ofPieces (.part .here :: (others.take n).map Piece.ofBytes)).pieces =
      .part .here :: (others.take n).map Piece.ofBytes := by
  rw [pieces, bytes_ofPieces (by simp), map_bytes_cons]
  exact piecesOf_here (head?_join_take hparts n hslash) (splitOn_join_take hparts n)

/-- The first pieces of a path make up a path with their components. -/
theorem components_take (p : Path) (n : Nat) :
    (ofPieces (p.pieces.take n)).components = (p.pieces.take n).filterMap Piece.component? := by
  have hpieces : p.pieces = piecesOf p.bytes := rfl
  rw [hpieces]
  generalize p.bytes = cs
  cases n with
  | zero => rfl
  | succ n =>
    by_cases hslash : cs.head? = some slash
    · obtain ⟨rest, rfl⟩ := List.head?_eq_some_iff.1 hslash
      have hrooted : piecesOf (slash :: rest) =
          .part .root :: (Text.splitOn slash rest).map Piece.ofBytes := rfl
      cases hparts : Text.splitOn slash rest with
      | nil => exact absurd hparts (Text.splitOn_ne_nil _ _)
      | cons first others =>
        rw [hrooted, hparts, List.take_succ_cons, ← List.map_take]
        cases n with
        | zero =>
          rw [List.take_zero, List.map_nil]
          rfl
        | succ n => rw [List.take_succ_cons, components, pieces_take_rooted hparts]
    · cases hparts : Text.splitOn slash cs with
      | nil => exact absurd hparts (Text.splitOn_ne_nil _ _)
      | cons first others =>
        by_cases hdot : first = [dot]
        · subst hdot
          rw [piecesOf_here hslash hparts, List.take_succ_cons, ← List.map_take, components,
            pieces_take_here hparts n hslash]
        · rw [piecesOf_relative hslash (by simpa [hparts] using hdot), hparts, ← List.map_take,
            List.take_succ_cons, components, pieces_take_relative hparts n hslash hdot]

/-! ## File names -/

theorem filterMap_dropWhile_isSilent (ps : List Piece) :
    (ps.dropWhile Piece.isSilent).filterMap Piece.component? = ps.filterMap Piece.component? := by
  induction ps with
  | nil => rfl
  | cons piece ps ih =>
    cases piece <;> simp [List.dropWhile_cons, Piece.isSilent, Piece.component?,
      List.filterMap_cons, ih]

/-- The file name stands behind the components of the parent. -/
theorem components_of_fileName {p : Path} {s : Bytes} (h : p.fileName? = some s) :
    p.components = p.parentDir.components ++ [.name s] := by
  obtain ⟨rest, hreversed⟩ : ∃ rest, p.reversed = .part (.name s) :: rest := by
    unfold fileName? at h
    split at h
    · rename_i s' rest hreversed
      cases h
      exact ⟨rest, hreversed⟩
    · cases h
  have hparent : p.parentDir = ofPieces (rest.dropWhile Piece.isSilent).reverse := by
    rw [parentDir, parent?, hreversed]
    rfl
  have hsuffix : rest.dropWhile Piece.isSilent <:+ p.pieces.reverse := by
    have hrest : rest <:+ p.reversed := hreversed ▸ List.suffix_cons _ _
    exact (List.dropWhile_suffix _).trans (hrest.trans (List.dropWhile_suffix _))
  have hprefix : (rest.dropWhile Piece.isSilent).reverse <+: p.pieces := by
    rwa [← List.reverse_suffix, List.reverse_reverse]
  have htake := List.prefix_iff_eq_take.1 hprefix
  have hcomponents := p.components_take (rest.dropWhile Piece.isSilent).reverse.length
  rw [← htake, List.filterMap_reverse, filterMap_dropWhile_isSilent] at hcomponents
  have hreverse : p.components.reverse = .name s :: rest.filterMap Piece.component? := by
    rw [components, ← List.filterMap_reverse, ← filterMap_dropWhile_isSilent, ← reversed, hreversed]
    rfl
  rw [hparent, hcomponents, ← List.reverse_inj, hreverse]
  simp

theorem isName_of_mem_components {p : Path} {s : Bytes} (h : .name s ∈ p.components) :
    IsName s := by
  have hinner : ∀ cs, .name s ∈ innerComponents cs → IsName s := by
    intro cs hmem
    rcases isInner_of_mem_pieces cs hmem with hup | ⟨t, ht, heq⟩
    · cases hup
    · cases heq
      exact ht
  cases hrooted : p.isRooted with
  | false =>
    rcases components_eq_inner hrooted with hcomponents | hcomponents
    · exact hinner _ (hcomponents ▸ h)
    · rw [hcomponents] at h
      exact hinner _ (by simpa using h)
  | true =>
    have hslash : p.bytes.head? = some slash := by simpa [isRooted] using hrooted
    obtain ⟨rest, hrest⟩ := List.head?_eq_some_iff.1 hslash
    have hcomponents : p.components = .root :: innerComponents rest := by
      rw [components, pieces, hrest]
      rfl
    rw [hcomponents] at h
    exact hinner rest (by simpa using h)

theorem isName_of_fileName {p : Path} {s : Bytes} (h : p.fileName? = some s) : IsName s := by
  apply isName_of_mem_components (p := p)
  rw [components_of_fileName h]
  simp

theorem components_join_name (p : Path) {s : Bytes} (h : IsName s) :
    (p.join ⟨s⟩).components = p.components ++ [.name s] := by
  obtain ⟨hslash, hne, hdot, hup⟩ := h
  have hparts := Text.splitOn_of_not_mem hslash
  have hpiece : Piece.ofBytes s = .part (.name s) := by simp [Piece.ofBytes, hne, hdot, hup]
  have hhead : s.head? ≠ some slash := fun hhead => hslash (List.mem_of_head? hhead)
  have hrooted : Path.isRooted ⟨s⟩ = false := by simpa [isRooted] using hhead
  by_cases hp : p.bytes = []
  · have hname : (Path.mk s).components = [.name s] := by
      rw [components, pieces, piecesOf_relative hhead (by simpa [hparts] using hdot), hparts,
        List.map_singleton, hpiece]
      rfl
    rw [components_eq_nil_iff.2 hp, join, if_neg (by simp [hrooted]), if_pos (.inl hp), hp,
      List.nil_append]
    exact hname
  · rw [components_join hp hrooted, innerComponents, hparts, List.map_singleton, hpiece]
    rfl

end Path

/-! ## Artifacts -/

/-- The name of the compiled shader of a file. -/
def spirvName (s : Bytes) : Bytes := s ++ Bytes.ofText ".spv"

theorem isName_spirvName {s : Bytes} (h : Path.IsName s) : Path.IsName (spirvName s) := by
  have hslash : Path.slash ∉ Bytes.ofText ".spv" := by decide +kernel
  have hlength : 4 ≤ (spirvName s).length := by
    rw [spirvName, List.length_append]
    exact Nat.le_add_left _ _
  refine ⟨?_, ?_, ?_, ?_⟩
  · simpa [spirvName] using ⟨h.1, hslash⟩
  all_goals
    intro hshort
    rw [hshort] at hlength
    simp at hlength

/-- The directory that the compiled shader of a file goes to, if it is one of several. -/
def artifactDir (file : Path) (asked : Option Path) : Path := asked.getD file.parentDir

theorem components_artifactPath {file : Path} {s : Bytes} (h : file.fileName? = some s)
    (asked : Option Path) :
    (artifactPath file asked true).components =
      (artifactDir file asked).components ++ [.name (spirvName s)] := by
  have hname : artifactName file = spirvName s := by
    rw [artifactName, h, spirvName, Option.getD_some]
  have hartifact : artifactPath file asked true =
      (artifactDir file asked).join ⟨spirvName s⟩ := by
    cases asked with
    | none => simp [artifactPath, artifactDir, Path.withFileName, h, hname]
    | some out => simp [artifactPath, artifactDir, hname]
  rw [hartifact, Path.components_join_name _ (isName_spirvName (Path.isName_of_fileName h))]

/-- Of several files, two that have names get their compiled shaders at one place if and only if
they are one file, or a directory was asked for and they have one name. -/
theorem artifacts_apart_iff {p q : Path} (hp : p.fileName?.isSome) (hq : q.fileName?.isSome)
    (asked : Option Path) :
    (artifactPath p asked true).same (artifactPath q asked true) ↔
      match asked with
      | none => p.same q = true
      | some _ => p.fileName? = q.fileName? := by
  obtain ⟨s, hs⟩ := Option.isSome_iff_exists.1 hp
  obtain ⟨t, ht⟩ := Option.isSome_iff_exists.1 hq
  have hnames : spirvName s = spirvName t ↔ s = t := List.append_left_inj _
  rw [Path.same, beq_iff_eq, components_artifactPath hs, components_artifactPath ht]
  cases asked with
  | none =>
    simp only [artifactDir, Option.getD_none, Path.same, beq_iff_eq]
    rw [Path.components_of_fileName hs, Path.components_of_fileName ht]
    simp [← List.concat_eq_append, List.concat_inj, hnames]
  | some out => simp [artifactDir, hs, ht, hnames]

/-- Different spellings of a file, next to another one of the same name. -/
theorem artifacts_apart_iff_spellings :
    Path.fileName? ⟨"./s//x.frag"⟩ = some (Bytes.ofText "x.frag") ∧
      Path.fileName? ⟨"./s/./x.frag/"⟩ = some (Bytes.ofText "x.frag") ∧
      Path.fileName? ⟨"s/x.frag"⟩ = some (Bytes.ofText "x.frag") ∧
      (artifactPath ⟨"./s//x.frag"⟩ none true).same (artifactPath ⟨"./s/./x.frag/"⟩ none true) ∧
      ¬(artifactPath ⟨"./s//x.frag"⟩ none true).same (artifactPath ⟨"s/x.frag"⟩ none true) := by
  have hfirst : Path.fileName? ⟨"./s//x.frag"⟩ = some (Bytes.ofText "x.frag") := by decide +kernel
  have hsecond : Path.fileName? ⟨"./s/./x.frag/"⟩ = some (Bytes.ofText "x.frag") := by
    decide +kernel
  have hthird : Path.fileName? ⟨"s/x.frag"⟩ = some (Bytes.ofText "x.frag") := by decide +kernel
  have hone : Path.same ⟨"./s//x.frag"⟩ ⟨"./s/./x.frag/"⟩ = true := by decide +kernel
  have hother : ¬Path.same ⟨"./s//x.frag"⟩ ⟨"s/x.frag"⟩ = true := by decide +kernel
  refine ⟨hfirst, hsecond, hthird, ?_, ?_⟩
  · exact (artifacts_apart_iff (by simp [hfirst]) (by simp [hsecond]) none).2 hone
  · exact fun hsame =>
      hother ((artifacts_apart_iff (by simp [hfirst]) (by simp [hthird]) none).1 hsame)

/-- In one directory, the compiled shaders of two files of the same name take each other's place. -/
theorem artifacts_can_collide : ¬∀ (p q : Path) (asked : Option Path),
    p.fileName?.isSome → q.fileName?.isSome → ¬p.same q →
      ¬(artifactPath p asked true).same (artifactPath q asked true) := by
  intro hapart
  refine hapart ⟨"a/x.frag"⟩ ⟨"b/x.frag"⟩ (some ⟨"out"⟩) ?_ ?_ ?_ ?_ <;> decide +kernel

end ShaderBuild
