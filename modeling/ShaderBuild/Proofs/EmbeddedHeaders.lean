import ShaderBuild.Proofs.Answering
import ShaderBuild.Proofs.EscapedText
import ShaderBuild.Proofs.Matching

/-!
Headers served under a directory. Main statement: `embedded_header_found`, by which every header is
found under its name, unless the last dot of the name is one of the directory's.
-/

namespace ShaderBuild

namespace Builtin

/-! ## The directory -/

theorem getLast?_dropSlashes (s : String) : (dropSlashes s).toList.getLast? ≠ some '/' := by
  rw [dropSlashes, String.toList_ofList, List.getLast?_reverse]
  intro hslash
  have hhead := List.head?_dropWhile_not (fun c => decide (c = '/')) s.toList.reverse
  rw [hslash] at hhead
  simp at hhead

theorem home_embedded (home : String) (headers : List (String × String)) :
    standardHome (embedded home headers).home = dropSlashes home :=
  standardHome_of_getLast? (getLast?_dropSlashes home)

/-! ## Names of headers -/

def headerName (home relative : String) : String := home ++ "/" ++ relative

theorem toList_headerName (home relative : String) :
    (headerName home relative).toList = home.toList ++ '/' :: relative.toList := by
  simp [headerName, String.toList_append]

theorem headerName_inj {home relative relative' : String} :
    headerName home relative = headerName home relative' ↔ relative = relative' := by
  rw [← String.toList_inj, toList_headerName, toList_headerName, List.append_cancel_left_eq,
    List.cons_inj_right, String.toList_inj]

/-- The directory is asked if the name is cut behind it: at a dot of the relative path, or
nowhere. -/
theorem mem_homesOf_headerName {home relative : String} (hne : home ≠ "")
    (hrooted : home.toList.head? ≠ some '/') :
    home ∈ homesOf (headerName home relative) ↔ '.' ∈ relative.toList ∨ '.' ∉ home.toList := by
  rw [mem_homesOf_iff, toList_headerName]
  by_cases hrelative : '.' ∈ relative.toList
  · obtain ⟨stem, extension, hsplit, hextension⟩ := Text.exists_last hrelative
    have hstem : stemOf (home.toList ++ '/' :: relative.toList) = home.toList ++ '/' :: stem := by
      rw [hsplit, ← stemOf_append (home.toList ++ '/' :: stem) hextension]
      simp
    simp [hne, hrooted, hrelative, hstem]
  · by_cases hhome : '.' ∈ home.toList
    · obtain ⟨stem, extension, hsplit, hextension⟩ := Text.exists_last hhome
      have hstem : stemOf (home.toList ++ '/' :: relative.toList) = stem := by
        rw [hsplit, List.append_assoc, List.cons_append]
        exact stemOf_append stem (by simp [hextension, hrelative])
      have hlonger : ¬ home.toList ++ ['/'] <+: stem := by
        intro hdir
        have hlength := hdir.length_le
        simp only [hsplit, List.length_append, List.length_cons] at hlength
        omega
      simp [hrelative, hhome, hstem, hlonger]
    · have hstem : stemOf (home.toList ++ '/' :: relative.toList) =
        home.toList ++ '/' :: relative.toList :=
        stemOf_of_not_mem (by simp [hhome, hrelative])
      simp [hne, hrooted, hhome, hstem]

/-! ## Texts of headers -/

theorem value_embedded (home : String) (headers : List (String × String)) (name : String) :
    ((embedded home headers).answer name).value = headers.findSome? fun header =>
      if name = headerName (dropSlashes home) header.1 ∧ header.2 ≠ "" then some ⟨⟨name⟩, header.2⟩
      else none := by
  rw [embedded, Generator.ofMappings, Generator.value_firstMatch, List.findSome?_map]
  congr 1
  funext header
  exact if_congr (and_congr_left' (Pattern.accepts_exactly_iff _ name)) rfl rfl

section Header

variable {home : String} {before after : List (String × String)} {relative text : String}

theorem value_embedded_headerName (htext : text ≠ "")
    (hfirst : ∀ earlier ∈ before, earlier.1 = relative → earlier.2 = "") :
    let name := headerName (dropSlashes home) relative
    ((embedded home (before ++ (relative, text) :: after)).answer name).value =
      some ⟨⟨name⟩, text⟩ := by
  intro name
  have hbefore : before.findSome? (fun header =>
      if name = headerName (dropSlashes home) header.1 ∧ header.2 ≠ "" then
        some (⟨⟨name⟩, header.2⟩ : IncludeText)
      else none) = none := by
    rw [List.findSome?_eq_none_iff]
    intro earlier hearlier
    apply if_neg
    rintro ⟨hname, hne⟩
    exact hne (hfirst earlier hearlier (headerName_inj.1 hname).symm)
  rw [value_embedded, List.findSome?_append, hbefore, Option.none_or, List.findSome?_cons,
    if_pos ⟨rfl, htext⟩]

/-- Where only these headers are registered, the first text of a relative path that is not empty is
found under the name, with the name as its path; the pattern for the name is what its escaped text
is compiled to. But where the directory has a dot and the relative path has none, nothing is found:
the name is cut at its last dot, and the directory is lost with what is behind. -/
theorem embedded_header_found {changes : List Finder.Change}
    (honly : Finder.registered false changes =
      [embedded home (before ++ (relative, text) :: after)]) (hne : dropSlashes home ≠ "")
    (hrooted : (dropSlashes home).toList.head? ≠ some '/') (htext : text ≠ "")
    (hfirst : ∀ earlier ∈ before, earlier.1 = relative → earlier.2 = "") :
    let name := headerName (dropSlashes home) relative
    (∀ properties, Pattern.compile? properties (String.ofList (Regex.escape name.toList)) =
        if (Pattern.exactly name).regex.fits then some (.exactly name) else none) ∧
      ((Finder.setUp changes).generated name).value =
        if '.' ∈ relative.toList ∨ '.' ∉ (dropSlashes home).toList then some ⟨⟨name⟩, text⟩
        else none := by
  intro name
  constructor
  · intro properties
    apply Pattern.compile?_escape
    rw [ne_eq, ← String.toList_eq_nil_iff, toList_headerName]
    simp
  · rw [Finder.value_generated_of_only honly, home_embedded, value_embedded_headerName htext hfirst]
    exact if_congr (mem_homesOf_headerName hne hrooted)
      (IncludeText.nonEmpty_eq_some_iff.2 ⟨rfl, htext⟩) rfl

end Header

namespace EmbeddedHeaders

/-- The second text is the first of its path that is not empty. -/
def table : List (String × String) :=
  [("x.glsl", ""), ("x.glsl", "int x;"), ("x.glsl", "int y;"), ("x", "int z;")]

theorem embedded_header_found_below_dot :
    let changes := [Finder.Change.generator (embedded "my.lib//" table)]
    Finder.registered false changes = [embedded "my.lib//" table] ∧
      dropSlashes "my.lib//" = "my.lib" ∧ ((Finder.setUp changes).generated "my.lib/x.glsl").value =
        some ⟨⟨"my.lib/x.glsl"⟩, "int x;"⟩ := by
  intro changes
  have hdirectory : dropSlashes "my.lib//" = "my.lib" := by decide
  have honly : Finder.registered false changes =
      [embedded "my.lib//" ([("x.glsl", "")] ++ ("x.glsl", "int x;") ::
        [("x.glsl", "int y;"), ("x", "int z;")])] := rfl
  have hne : dropSlashes "my.lib//" ≠ "" := by decide
  have hrooted : (dropSlashes "my.lib//").toList.head? ≠ some '/' := by decide
  have hfirst : ∀ earlier ∈ [("x.glsl", "")], earlier.1 = "x.glsl" → earlier.2 = "" := by simp
  obtain ⟨_, hfound⟩ := embedded_header_found honly hne hrooted (by decide) hfirst
  rw [hdirectory] at hfound
  exact ⟨rfl, hdirectory, hfound⟩

/-- Not every header is found: under a directory with a dot, one without a dot is not. -/
theorem headers_can_be_lost :
    ¬ ∀ (changes : List Finder.Change) (home : String) (before after : List (String × String))
    (relative text : String),
    Finder.registered false changes = [embedded home (before ++ (relative, text) :: after)] →
    dropSlashes home ≠ "" → (dropSlashes home).toList.head? ≠ some '/' → text ≠ "" →
    (∀ earlier ∈ before, earlier.1 = relative → earlier.2 = "") →
    (((Finder.setUp changes).generated (dropSlashes home ++ "/" ++ relative)).value.map
      IncludeText.contents) = some text := by
  intro hfound
  have hlost :=
    hfound [.generator (embedded "my.lib" [("x", "int a;\n")])] "my.lib" [] [] "x" "int a;\n" rfl
    (by decide) (by decide +kernel) (by decide) nofun
  revert hlost
  decide +kernel

end EmbeddedHeaders

end Builtin

end ShaderBuild
