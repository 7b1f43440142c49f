import ShaderBuild.Path

/-!
The lexical normal form of paths. Main statements: `components_normal`, `normal_normal`,
`eq_of_same_normal`: normal paths with the same components are equal, `same_join`: what is
joined to paths with the same components has the same components, and `normal_join`: it makes no
difference to a normal form whether another path was brought into its own before the join.
-/

namespace ShaderBuild

namespace Path

/-! ## Normal components -/

/-- A name that stands for itself between slashes. -/
def IsName (s : Bytes) : Prop := slash ∉ s ∧ s ≠ [] ∧ s ≠ [dot] ∧ s ≠ [dot, dot]

/-- Components in reverse order that are in normal form: names over `..` over the root, if any. -/
inductive Normal : List Component → Prop
  | nil : Normal []
  | root : Normal [.root]
  | up {out : List Component} (h : Normal out) (head : ∀ s, out.head? ≠ some (.name s)) :
      Normal (.up :: out)
  | name {s : Bytes} {out : List Component} (isName : IsName s) (h : Normal out) :
      Normal (.name s :: out)

theorem Normal.step_up {out : List Component} (h : Normal out) : Normal (normalStep out .up) := by
  cases h with
  | nil => exact .up .nil (by simp)
  | root => exact .up .root (by simp)
  | up h head => exact .up (.up h head) (by simp)
  | name _ h => exact h

/-- The components that a path has behind its first. -/
def IsInner (c : Component) : Prop := c = .up ∨ ∃ s, IsName s ∧ c = .name s

theorem Normal.foldl {out : List Component} (h : Normal out) {cs : List Component}
    (hcs : ∀ c ∈ cs, IsInner c) : Normal (cs.foldl normalStep out) := by
  induction cs generalizing out with
  | nil => exact h
  | cons c cs ih =>
    refine ih ?_ fun d hd => hcs d (by simp [hd])
    rcases hcs c (by simp) with rfl | ⟨s, hs, rfl⟩
    · exact h.step_up
    · exact .name hs h

/-- Normal components are left as they are. -/
theorem Normal.foldl_reverse {out : List Component} (h : Normal out) :
    out.reverse.foldl normalStep [] = out := by
  induction h with
  | nil => rfl
  | root => rfl
  | @up out h head ih =>
    rw [List.reverse_cons, List.foldl_append, ih]
    cases out with
    | nil => rfl
    | cons c out =>
      cases c with
      | name s => exact absurd rfl (head s)
      | root => rfl
      | here => rfl
      | up => rfl
  | name _ _ ih =>
    rw [List.reverse_cons, List.foldl_append, ih]
    rfl

/-! ## Components of a path -/

theorem isInner_of_mem_pieces (cs : Bytes) {c : Component}
    (h : c ∈ ((Text.splitOn slash cs).map Piece.ofBytes).filterMap Piece.component?) :
    IsInner c := by
  obtain ⟨piece, hpiece, hc⟩ := List.mem_filterMap.1 h
  obtain ⟨s, hs, rfl⟩ := List.mem_map.1 hpiece
  unfold Piece.ofBytes at hc
  split at hc
  · cases hc
  · rename_i hsilent
    split at hc
    · cases hc
      exact .inl rfl
    · rename_i hup
      cases hc
      exact .inr ⟨s, ⟨Text.not_mem_of_mem_splitOn hs, fun h => hsilent (.inl h),
        fun h => hsilent (.inr h), hup⟩, rfl⟩

theorem relativePieces_of_ne {parts : List Bytes} (h : parts.head? ≠ some [dot]) :
    relativePieces parts = parts.map Piece.ofBytes := by
  cases parts with
  | nil => rfl
  | cons first rest =>
    rw [relativePieces, if_neg fun hdot => h (congrArg some hdot)]
    rfl

theorem normal_components (p : Path) : Normal (p.components.foldl normalStep []) := by
  unfold components pieces piecesOf
  split
  · exact Normal.root.foldl fun c hc => isInner_of_mem_pieces _ hc
  · by_cases hdot : (Text.splitOn slash p.bytes).head? = some [dot]
    · obtain ⟨rest, hsplit⟩ := List.head?_eq_some_iff.1 hdot
      rw [hsplit]
      show Normal (((rest.map Piece.ofBytes).filterMap Piece.component?).foldl normalStep [])
      refine Normal.nil.foldl fun c hc => isInner_of_mem_pieces p.bytes ?_
      rw [hsplit]
      exact hc
    · rw [relativePieces_of_ne hdot]
      exact Normal.nil.foldl fun c hc => isInner_of_mem_pieces _ hc

theorem ofBytes_bytes {c : Component} (h : IsInner c) : Piece.ofBytes c.bytes = .part c := by
  rcases h with rfl | ⟨s, ⟨-, hne, hdot, hup⟩, rfl⟩
  · rfl
  · simp [Piece.ofBytes, Component.bytes, hne, hdot, hup]

theorem components_of_pieces {cs : List Component} (h : ∀ c ∈ cs, IsInner c) :
    ((cs.map Component.bytes).map Piece.ofBytes).filterMap Piece.component? = cs := by
  induction cs with
  | nil => rfl
  | cons c cs ih =>
    have hrest := ih fun d hd => h d (by simp [hd])
    rw [List.map_cons, List.map_cons, ofBytes_bytes (h c (by simp)), List.filterMap_cons, hrest]
    rfl

theorem slash_not_mem_bytes {c : Component} (h : IsInner c) : slash ∉ c.bytes := by
  rcases h with rfl | ⟨s, hs, rfl⟩
  · decide
  · exact hs.1

theorem bytes_ne_nil {c : Component} (h : IsInner c) : c.bytes ≠ [] := by
  rcases h with rfl | ⟨s, hs, rfl⟩
  · decide
  · exact hs.2.1

theorem splitOn_join_bytes {cs : List Component} (hne : cs ≠ []) (h : ∀ c ∈ cs, IsInner c) :
    Text.splitOn slash (Text.join slash (cs.map Component.bytes)) = cs.map Component.bytes := by
  apply Text.splitOn_join (by simpa using hne)
  intro piece hpiece
  obtain ⟨c, hc, rfl⟩ := List.mem_map.1 hpiece
  exact slash_not_mem_bytes (h c hc)

theorem bytes_ofComponents {cs : List Component} (h : cs ≠ [.root]) :
    (ofComponents cs).bytes = Text.join slash (cs.map Component.bytes) := by
  unfold ofComponents ofPieces
  split
  · rename_i hroot
    cases cs with
    | nil => cases hroot
    | cons c rest =>
      cases rest with
      | nil =>
        cases hroot
        exact absurd rfl h
      | cons d rest => cases hroot
  · rw [List.map_map]
    rfl

theorem piecesOf_relative {cs : Bytes} (hslash : cs.head? ≠ some slash)
    (hdot : (Text.splitOn slash cs).head? ≠ some [dot]) :
    piecesOf cs = (Text.splitOn slash cs).map Piece.ofBytes := by
  rw [piecesOf, if_neg hslash, relativePieces_of_ne hdot]

theorem components_ofComponents_inner {cs : List Component} (h : ∀ c ∈ cs, IsInner c) :
    (ofComponents cs).components = cs := by
  cases cs with
  | nil => rfl
  | cons c rest =>
    have hc := h c (by simp)
    have hroot : c :: rest ≠ [.root] := by
      intro he
      rw [(List.cons.inj he).1] at hc
      rcases hc with hc | ⟨s, -, hc⟩ <;> cases hc
    have hsplit := splitOn_join_bytes (List.cons_ne_nil c rest) h
    have hslash : (Text.join slash ((c :: rest).map Component.bytes)).head? ≠ some slash := by
      have hne := bytes_ne_nil hc
      have hnot := slash_not_mem_bytes hc
      rw [List.map_cons]
      cases hbytes : c.bytes with
      | nil => exact absurd hbytes hne
      | cons x xs =>
        have hx : x ≠ slash := by
          rintro rfl
          simp [hbytes] at hnot
        cases rest.map Component.bytes <;> simp [Text.join, hx]
    have hdot : (Text.splitOn slash (Text.join slash ((c :: rest).map Component.bytes))).head? ≠
        some [dot] := by
      rw [hsplit]
      rcases hc with rfl | ⟨s, hs, rfl⟩
      · simp [Component.bytes]
      · simpa [Component.bytes] using hs.2.2.1
    rw [components, pieces, bytes_ofComponents hroot, piecesOf_relative hslash hdot, hsplit]
    exact components_of_pieces h

theorem components_ofComponents_root {cs : List Component} (h : ∀ c ∈ cs, IsInner c) :
    (ofComponents (.root :: cs)).components = .root :: cs := by
  cases cs with
  | nil => rfl
  | cons c rest =>
    have hbytes := @bytes_ofComponents (.root :: c :: rest) (by simp)
    rw [List.map_cons] at hbytes
    have hjoin : Text.join slash (Component.root.bytes :: (c :: rest).map Component.bytes) =
        slash :: Text.join slash ((c :: rest).map Component.bytes) := rfl
    rw [components, pieces, hbytes, hjoin]
    show Component.root ::
      ((Text.splitOn slash (Text.join slash ((c :: rest).map Component.bytes))).map
        Piece.ofBytes).filterMap Piece.component? = _
    rw [splitOn_join_bytes (List.cons_ne_nil c rest) h, components_of_pieces h]

/-- Normal components are inner ones, behind the root or not. -/
theorem Normal.shape {out : List Component} (h : Normal out) :
    ∃ cs, (∀ c ∈ cs, IsInner c) ∧ (out.reverse = cs ∨ out.reverse = .root :: cs) := by
  induction h with
  | nil => exact ⟨[], by simp, .inl rfl⟩
  | root => exact ⟨[], by simp, .inr rfl⟩
  | up _ _ ih =>
    obtain ⟨cs, hcs, hout⟩ := ih
    refine ⟨cs ++ [.up], fun c hc => ?_, ?_⟩
    · rcases List.mem_append.1 hc with hc | hc
      · exact hcs c hc
      · exact .inl (List.mem_singleton.1 hc)
    · rcases hout with hout | hout <;> simp [hout]
  | @name s out isName _ ih =>
    obtain ⟨cs, hcs, hout⟩ := ih
    refine ⟨cs ++ [.name s], fun c hc => ?_, ?_⟩
    · rcases List.mem_append.1 hc with hc | hc
      · exact hcs c hc
      · exact .inr ⟨s, isName, List.mem_singleton.1 hc⟩
    · rcases hout with hout | hout <;> simp [hout]

/-! ## Main statements -/

theorem components_normal (p : Path) :
    p.normal.components = (p.components.foldl normalStep []).reverse := by
  obtain ⟨cs, hcs, hout | hout⟩ := (normal_components p).shape
  · rw [normal, hout, components_ofComponents_inner hcs]
  · rw [normal, hout, components_ofComponents_root hcs]

/-- The components of a normal form are left as they are. -/
theorem foldl_components_normal (p : Path) :
    p.normal.components.foldl normalStep [] = p.components.foldl normalStep [] := by
  rw [components_normal]
  exact (normal_components p).foldl_reverse

theorem normal_eq_of_foldl {p q : Path}
    (h : p.components.foldl normalStep [] = q.components.foldl normalStep []) :
    p.normal = q.normal := by
  unfold normal
  rw [h]

theorem normal_normal (p : Path) : p.normal.normal = p.normal :=
  normal_eq_of_foldl (foldl_components_normal p)

theorem normal_eq_of_same {p q : Path} (h : p.same q) : p.normal = q.normal := by
  have : p.components = q.components := by simpa [same] using h
  exact normal_eq_of_foldl (by rw [this])

theorem eq_of_same_normal {p q : Path} (h : p.normal.same q.normal) : p.normal = q.normal := by
  have h := normal_eq_of_same h
  rwa [normal_normal, normal_normal] at h

/-! ## Joining -/

theorem piecesOf_here {cs : Bytes} {pieces : List Bytes} (hslash : cs.head? ≠ some slash)
    (hdot : Text.splitOn slash cs = [dot] :: pieces) :
    piecesOf cs = .part .here :: pieces.map Piece.ofBytes := by
  rw [piecesOf, if_neg hslash, hdot]
  rfl

theorem piecesOf_append_slash {cs : Bytes} (hne : cs ≠ []) (rest : Bytes) :
    piecesOf (cs ++ slash :: rest) =
      piecesOf cs ++ (Text.splitOn slash rest).map Piece.ofBytes := by
  have hsplit := Text.splitOn_append slash cs rest
  cases cs with
  | nil => exact absurd rfl hne
  | cons c cs =>
    by_cases hc : c = slash
    · subst hc
      simp [piecesOf, Text.splitOn_append]
    · have hslash : ∀ more, (c :: more).head? ≠ some slash := by simp [hc]
      cases hpieces : Text.splitOn slash (c :: cs) with
      | nil => exact absurd hpieces (Text.splitOn_ne_nil _ _)
      | cons first others =>
        rw [hpieces] at hsplit
        by_cases hdot : first = [dot]
        · subst hdot
          rw [List.cons_append] at hsplit ⊢
          rw [piecesOf_here (hslash _) hsplit, piecesOf_here (hslash _) hpieces]
          simp
        · rw [List.cons_append] at hsplit ⊢
          rw [piecesOf_relative (hslash _) (by simp [hsplit, hdot]),
            piecesOf_relative (hslash _) (by simp [hpieces, hdot]), hsplit, hpieces]
          simp

/-- The components of what stands behind a slash. -/
def innerComponents (cs : Bytes) : List Component :=
  ((Text.splitOn slash cs).map Piece.ofBytes).filterMap Piece.component?

theorem components_append_slash {cs : Bytes} (hne : cs ≠ []) (rest : Bytes) :
    (piecesOf (cs ++ slash :: rest)).filterMap Piece.component? =
      (piecesOf cs).filterMap Piece.component? ++ innerComponents rest := by
  rw [piecesOf_append_slash hne, List.filterMap_append]
  rfl

/-- What is joined to a path adds its own components, whether the path ends in a slash or not. -/
theorem components_join {p q : Path} (hp : p.bytes ≠ []) (hq : q.isRooted = false) :
    (p.join q).components = p.components ++ innerComponents q.bytes := by
  rw [join, if_neg (by simp [hq])]
  by_cases hslash : p.bytes.getLast? = some slash
  · obtain ⟨before, hbefore⟩ := List.getLast?_eq_some_iff.1 hslash
    rw [if_pos (.inr hslash)]
    simp only [components, pieces, hbefore, List.append_assoc,
      List.singleton_append]
    cases before with
    | nil => rfl
    | cons c before =>
      have hend : innerComponents [] = [] := rfl
      have hne := List.cons_ne_nil c before
      rw [components_append_slash hne, components_append_slash hne, hend, List.append_nil]
  · rw [if_neg (by simp [hp, hslash])]
    rw [components, pieces, components_append_slash hp]
    rfl

theorem components_eq_nil_iff {p : Path} : p.components = [] ↔ p.bytes = [] := by
  rw [components, pieces]
  cases p.bytes with
  | nil => exact ⟨fun _ => rfl, fun _ => rfl⟩
  | cons c cs =>
    by_cases hc : c = slash
    · subst hc
      simp [piecesOf, Piece.component?]
    · have hslash : (c :: cs).head? ≠ some slash := by simp [hc]
      cases hpieces : Text.splitOn slash cs with
      | nil => exact absurd hpieces (Text.splitOn_ne_nil _ _)
      | cons first others =>
        have hsplit := Text.splitOn_cons_ne hc hpieces
        by_cases hdot : c :: first = [dot]
        · rw [hdot] at hsplit
          simp [piecesOf_here hslash hsplit, Piece.component?]
        · rw [piecesOf_relative hslash (by simpa [hsplit] using hdot), hsplit]
          by_cases hup : c :: first = [dot, dot]
          · simp [Piece.ofBytes, hup, Piece.component?]
          · simp [Piece.ofBytes, hdot, hup, Piece.component?]

/-- Behind a slash, a path that is not rooted has the same components, up to a dot in front of
them. -/
theorem components_eq_inner {q : Path} (hq : q.isRooted = false) :
    q.components = innerComponents q.bytes ∨
      q.components = .here :: innerComponents q.bytes := by
  have hslash : q.bytes.head? ≠ some slash := by simpa [isRooted] using hq
  unfold components pieces innerComponents
  cases hpieces : Text.splitOn slash q.bytes with
  | nil => exact absurd hpieces (Text.splitOn_ne_nil _ _)
  | cons first rest =>
    by_cases hdot : first = [dot]
    · right
      subst hdot
      rw [piecesOf_here hslash hpieces]
      rfl
    · left
      rw [piecesOf_relative hslash (by simpa [hpieces] using hdot), hpieces]

/-- What is joined to a path goes on where the components of the path end. -/
theorem foldl_components_join (p : Path) {q : Path} (hq : q.isRooted = false) :
    (p.join q).components.foldl normalStep [] =
      (innerComponents q.bytes).foldl normalStep (p.components.foldl normalStep []) := by
  by_cases hp : p.bytes = []
  · have hjoin : p.join q = q := by simp [join, hq, hp]
    have hnone : p.components = [] := components_eq_nil_iff.2 hp
    rw [hjoin, hnone]
    rcases components_eq_inner hq with h | h
    · rw [h]
      rfl
    · rw [h]
      rfl
  · rw [components_join hp hq, List.foldl_append]

theorem normal_join (p q : Path) : (p.join q).normal = (p.normal.join q).normal := by
  cases hq : q.isRooted with
  | true => simp [join, hq]
  | false =>
    apply normal_eq_of_foldl
    rw [foldl_components_join p hq, foldl_components_join p.normal hq, foldl_components_normal]

/-- Paths with the same components lead to the same places. -/
theorem same_join {p p' : Path} (h : p.same p') (q : Path) : (p.join q).same (p'.join q) := by
  have hcomponents : p.components = p'.components := by simpa [same] using h
  have hempty : p.bytes = [] ↔ p'.bytes = [] := by
    rw [← components_eq_nil_iff, ← components_eq_nil_iff, hcomponents]
  suffices hjoin : (p.join q).components = (p'.join q).components by simp [same, hjoin]
  cases hq : q.isRooted with
  | true => simp [join, hq]
  | false =>
    by_cases hp : p.bytes = []
    · rw [join, join, hp, hempty.1 hp]
    · rw [components_join hp hq, components_join (fun h => hp (hempty.2 h)) hq, hcomponents]

end Path

end ShaderBuild
