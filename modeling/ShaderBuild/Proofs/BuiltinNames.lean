import ShaderBuild.Proofs.EmbeddedHeaders
import ShaderBuild.Proofs.JsonText
import ShaderBuild.Proofs.NumbersText

/-!
The identifiers that the generators that come with the program answer. Main statement:
`builtins_generated_iff`, by which these are the names of the fixed headers and, below the virtual
texturing directory, a file name with as many numerals behind it as the file takes, whose values
suit it.
-/

namespace ShaderBuild

/-! ## Numerals -/

/-- Decimal digits, at least one. Zeros in front are allowed. -/
def IsDigits (s : String) : Prop := s ≠ "" ∧ ∀ c ∈ s.toList, c.isDigit = true

/-- A decimal numeral for a value below 2^32. -/
structure IsNumeral (s : String) (n : Nat) : Prop where
  digits : IsDigits s
  value : Nat.ofDigitChars 10 s.toList 0 = n
  small : n < 0x100000000

/-- The shortest decimal numeral of a value. -/
structure IsCanonical (s : String) (n : Nat) : Prop where
  digits : IsDigits s
  value : Nat.ofDigitChars 10 s.toList 0 = n
  /-- Only zero itself starts with a zero. -/
  leading : s.toList.head? = some '0' → s = "0"

theorem IsDigits.not_mem {s : String} (h : IsDigits s) {c : Char} (hc : c.isDigit = false) :
    c ∉ s.toList :=
  fun hmem => Bool.false_ne_true (hc.symm.trans (h.2 c hmem))

theorem isCanonical_toString (n : Nat) : IsCanonical (toString n) n := by
  have hdigits : (toString n).toList = Nat.toDigits 10 n := by
    rw [Nat.toString_eq_ofList_toDigits, String.toList_ofList]
  refine ⟨⟨?_, ?_⟩, ?_, ?_⟩
  · rw [ne_eq, ← String.toList_eq_nil_iff, hdigits]
    exact Nat.toDigits_ne_nil
  · intro c hc
    rw [hdigits] at hc
    exact Nat.isDigit_of_mem_toDigits (by decide) (by decide) hc
  · rw [hdigits, Nat.ofDigitChars_ten_toDigits]
  · intro hhead
    rw [hdigits] at hhead
    obtain ⟨ds, hds⟩ := List.head?_eq_some_iff.1 hhead
    obtain ⟨rfl, _⟩ := Json.eq_zero_of_toDigits hds
    rfl

namespace Builtin

theorem number?_eq_some_iff {s : String} {n : Nat} : number? s.toList = some n ↔ IsNumeral s n := by
  have hrefused : (s.toList = [] ∨ (!s.toList.all Char.isDigit) = true) ↔ ¬ IsDigits s := by
    simp only [IsDigits, not_and_or, ne_eq, not_not, String.toList_eq_nil_iff, Bool.not_eq_true',
      ← Bool.not_eq_true, List.all_eq_true]
  have hvalue : s.toList.foldl (fun n c => 10 * n + (c.toNat - '0'.toNat)) 0 =
      Nat.ofDigitChars 10 s.toList 0 :=
    Nat.ofDigitChars_eq_foldl.symm
  rw [number?, hvalue]
  constructor
  · intro h
    split at h
    · cases h
    · rename_i hread
      have hdigits : IsDigits s := not_not.1 (mt hrefused.2 hread)
      simp only at h
      split at h
      · obtain rfl := Option.some.inj h
        exact ⟨hdigits, rfl, ‹_›⟩
      · cases h
  · rintro ⟨hdigits, rfl, hsmall⟩
    rw [if_neg fun hread => hrefused.1 hread hdigits]
    exact if_pos hsmall

theorem log2?_eq_some_iff {n k : Nat} : log2? n = some k ↔ Nat.pow 2 k = n := by
  show _ ↔ 2 ^ k = n
  rw [log2?]
  constructor
  · intro h
    split at h
    · rename_i hpower
      obtain rfl := Option.some.inj h
      rw [← Nat.one_shiftLeft, hpower.2]
    · cases h
  · rintro rfl
    rw [Nat.log2_two_pow, Nat.one_shiftLeft, if_pos ⟨(Nat.two_pow_pos k).ne', rfl⟩]

/-! ## Names with numerals -/

/-- A file below the virtual texturing directory, and numerals behind it, each behind a slash. -/
def texturingName (file : String) (numerals : List String) : String :=
  texturingHome ++ "/" ++ file ++ String.join (numerals.map fun n => "/" ++ n)

theorem toList_texturingName (file : String) (numerals : List String) :
    (texturingName file numerals).toList =
      (texturingHome ++ "/").toList ++
        (file.toList ++ numerals.flatMap fun n => '/' :: n.toList) := by
  rw [texturingName, String.toList_append, String.toList_append, String.toList_join,
    List.flatMap_map, List.append_assoc]
  simp only [String.toList_append]
  rfl

theorem contains_digits (c : Char) : (CharSet.ofRange 0x30 0x39).contains c = c.isDigit := by
  rw [Bool.eq_iff_iff, Char.isDigit_iff_toNat]
  simp [CharSet.contains, CharSet.containsCode, CharSet.ofRange, CharSet.within]

theorem reads_numbers (count : Nat) :
    Regex.Reads
      (fun text => Regex.SpansAll text (List.replicate count [.literal ['/'], digits]).flatten)
      fun part => ∃ ns : List String, ns.length = count ∧ (∀ n ∈ ns, IsDigits n) ∧
        part = ns.flatMap fun n => '/' :: n.toList := by
  induction count with
  | zero => exact Regex.Reads.nothing.congr fun part => by simp [List.length_eq_zero_iff]
  | succ count ih =>
    have hdigits := Regex.Reads.someOf (.ofRange 0x30 0x39) false true
    refine ((Regex.Reads.literal ['/']).comp (hdigits.comp ih)).congr fun part => ?_
    simp only [contains_digits]
    constructor
    · rintro ⟨_, _, rfl, ⟨n, _, ⟨hne, hall⟩, ⟨ns, rfl, hns, rfl⟩, rfl⟩, rfl⟩
      have hn : IsDigits (String.ofList n) := by
        rw [IsDigits, ne_eq, ← String.toList_eq_nil_iff, String.toList_ofList]
        exact ⟨hne, hall⟩
      exact ⟨String.ofList n :: ns, rfl, List.forall_mem_cons.2 ⟨hn, hns⟩, by simp⟩
    · rintro ⟨ns, hlength, hns, rfl⟩
      obtain ⟨n, ns, rfl⟩ := List.exists_cons_of_length_eq_add_one hlength
      obtain ⟨⟨hne, hall⟩, hns⟩ := List.forall_mem_cons.1 hns
      exact ⟨['/'], _, rfl, ⟨n.toList, _, ⟨mt String.toList_eq_nil_iff.1 hne, hall⟩,
        ⟨ns, Nat.succ.inj hlength, hns, rfl⟩, rfl⟩, rfl⟩

theorem accepts_numbersPattern {file : String} {count : Nat} {name : String} :
    (Pattern.whole (numbersPattern file count)).accepts name = true ↔
      ∃ ns, ns.length = count ∧ (∀ n ∈ ns, IsDigits n) ∧ name = texturingName file ns := by
  have hreads : Regex.Reads (fun text => Regex.Spans text (numbersPattern file count)) fun part =>
      ∃ ns, ns.length = count ∧ (∀ n ∈ ns, IsDigits n) ∧ part = (texturingName file ns).toList := by
    refine ((Regex.Reads.literal _).comp (reads_numbers count)).congr fun part => ?_
    constructor
    · rintro ⟨_, _, rfl, ⟨ns, rfl, hns, rfl⟩, rfl⟩
      exact ⟨ns, rfl, hns, by simp [toList_texturingName]⟩
    · rintro ⟨ns, rfl, hns, rfl⟩
      exact ⟨_, _, rfl, ⟨ns, rfl, hns, rfl⟩, by simp [toList_texturingName]⟩
  rw [Pattern.accepts_whole_of_reads hreads]
  simp only [String.toList_inj]

/-! ## Numbers in a name -/

theorem join_numerals (file : List Char) (ns : List (List Char)) :
    Text.join '/' (file :: ns) = file ++ ns.flatMap fun n => '/' :: n := by
  induction ns generalizing file with
  | nil => simp [Text.join]
  | cons n ns ih => rw [Text.join, ih, List.flatMap_cons, List.cons_append]; simp

/-- Parts without slashes, the last of them not empty, are found again. -/
theorem pathArguments_join {parts : List String} (hne : parts ≠ [])
    (hslash : ∀ p ∈ parts, '/' ∉ p.toList) (hlast : parts.getLast? ≠ some "") :
    pathArguments (String.ofList (Text.join '/' (parts.map String.toList))) = parts := by
  have hsplit : Text.splitOn '/' (Text.join '/' (parts.map String.toList)) =
      parts.map String.toList :=
    Text.splitOn_join (by simpa using hne) (by simpa using hslash)
  have hmore : ¬ (parts.map String.toList).getLast? = some [] := by
    rw [List.getLast?_map, Option.map_eq_some_iff]
    rintro ⟨p, hp, hempty⟩
    exact hlast (hp.trans (congrArg some (String.toList_eq_nil_iff.1 hempty)))
  rw [pathArguments, String.toList_ofList, hsplit, if_neg hmore, List.map_map]
  simp [Function.comp_def]

theorem numbers?_texturingName {file : String} {ns : List String} (hslash : '/' ∉ file.toList)
    (hne : file ≠ "") (hns : ∀ n ∈ ns, IsDigits n) :
    numbers? file (texturingName file ns) = ns.mapM fun n => number? n.toList := by
  have hrest : (texturingName file ns).toList = (texturingHome ++ "/").toList ++
      Text.join '/' ((file :: ns).map String.toList) := by
    rw [toList_texturingName, List.map_cons, join_numerals, List.flatMap_map]
  have hparts : pathArguments (String.ofList (Text.join '/' ((file :: ns).map String.toList))) =
      file :: ns := by
    apply pathArguments_join (List.cons_ne_nil _ _)
    · exact List.forall_mem_cons.2 ⟨hslash, fun n hn => (hns n hn).not_mem (by decide)⟩
    · intro hlast
      rcases List.mem_cons.1 (List.mem_of_getLast? hlast) with hfile | hn
      · exact hne hfile.symm
      · exact (hns "" hn).1 rfl
  have hstarts : (texturingHome ++ "/").toList.isPrefixOf (texturingName file ns).toList =
      true := by
    rw [hrest]
    exact List.isPrefixOf_iff_prefix.2 (List.prefix_append _ _)
  rw [numbers?]
  simp only [hstarts, if_true]
  rw [hrest, List.drop_left, hparts]
  simp only [if_true]

/-! ## Texts -/

/-- The name of a fixed header, and its text. -/
def IsHeader (name text : String) : Prop :=
  ∃ header ∈ headers, name = headerName home header.1 ∧ text = header.2

/-- The name of a header that declares the descriptors, with numerals for the set and for the two
bindings, which differ, and its text. -/
def IsDescriptors (name text : String) : Prop :=
  ∃ ns set pageTable physicalTiles, name = texturingName "descriptors.glsl" ns ∧
    List.Forall₂ IsNumeral ns [set, pageTable, physicalTiles] ∧ pageTable ≠ physicalTiles ∧
    text = descriptors set pageTable physicalTiles

/-- The name of a header that defines the sizes, with numerals for that of the page table, which is
not zero, and for that of a tile, which is a power of two, and its text. -/
def IsExtensions (name text : String) : Prop :=
  ∃ ns pageTableSize tileSize k, name = texturingName "extensions.glsl" ns ∧
    List.Forall₂ IsNumeral ns [pageTableSize, tileSize] ∧ pageTableSize ≠ 0 ∧
      Nat.pow 2 k = tileSize ∧
    text = extensions pageTableSize tileSize k

theorem descriptors_ne (set pageTable physicalTiles : Nat) :
    descriptors set pageTable physicalTiles ≠ "" :=
  fun h => absurd (String.append_eq_empty_iff.1 h).2 (by decide)

theorem extensions_ne (pageTableSize tileSize k : Nat) : extensions pageTableSize tileSize k ≠ "" :=
  fun h => absurd (String.append_eq_empty_iff.1 h).2 (by decide)

theorem mapM_number? {ns : List String} {vs : List Nat} :
    (ns.mapM fun n => number? n.toList) = some vs ↔ List.Forall₂ IsNumeral ns vs := by
  induction ns generalizing vs with
  | nil => cases vs <;> simp
  | cons n ns ih =>
    simp only [List.mapM_cons, Option.bind_eq_bind, Option.bind_eq_some_iff,
      number?_eq_some_iff, ih, Option.pure_def, Option.some.injEq]
    constructor
    · rintro ⟨v, hv, rest, hrest, rfl⟩
      exact .cons hv hrest
    · rintro (_ | ⟨hv, hrest⟩)
      exact ⟨_, hv, _, hrest, rfl⟩

theorem isDigits_of_isNumeral {ns : List String} {vs : List Nat}
    (h : List.Forall₂ IsNumeral ns vs) :
    ∀ n ∈ ns, IsDigits n := by
  induction h with
  | nil => exact nofun
  | cons hn _ ih => exact List.forall_mem_cons.2 ⟨hn.digits, ih⟩

/-- The names that a pattern accepts and whose numbers are `vs`. -/
theorem accepts_and_numbers_iff {file name : String} (hslash : '/' ∉ file.toList) (hne : file ≠ "")
    (vs : List Nat) :
    (Pattern.whole (numbersPattern file vs.length)).accepts name = true ∧
      numbers? file name = some vs ↔
        ∃ ns, name = texturingName file ns ∧ List.Forall₂ IsNumeral ns vs := by
  rw [accepts_numbersPattern]
  constructor
  · rintro ⟨⟨ns, _, hns, rfl⟩, hnumbers⟩
    rw [numbers?_texturingName hslash hne hns, mapM_number?] at hnumbers
    exact ⟨ns, rfl, hnumbers⟩
  · rintro ⟨ns, rfl, hnumbers⟩
    have hns := isDigits_of_isNumeral hnumbers
    refine ⟨⟨ns, hnumbers.length_eq, hns, rfl⟩, ?_⟩
    rw [numbers?_texturingName hslash hne hns, mapM_number?]
    exact hnumbers

theorem descriptorsText_iff {name text : String} : descriptorsText name = text ∧ text ≠ "" ↔
    ∃ set pageTable physicalTiles, numbers? "descriptors.glsl" name =
      some [set, pageTable, physicalTiles] ∧ pageTable ≠ physicalTiles ∧
        text = descriptors set pageTable physicalTiles := by
  constructor
  · rintro ⟨rfl, hne⟩
    unfold descriptorsText at hne ⊢
    split at hne
    · rename_i set pageTable physicalTiles hnumbers
      split at hne
      · exact absurd rfl hne
      · rename_i hbindings
        exact ⟨set, pageTable, physicalTiles, hnumbers, hbindings, if_neg hbindings⟩
    · exact absurd rfl hne
  · rintro ⟨set, pageTable, physicalTiles, hnumbers, hbindings, rfl⟩
    rw [descriptorsText, hnumbers]
    exact ⟨if_neg hbindings, descriptors_ne _ _ _⟩

theorem extensionsText_iff {name text : String} : extensionsText name = text ∧ text ≠ "" ↔
    ∃ pageTableSize tileSize k, numbers? "extensions.glsl" name = some [pageTableSize, tileSize] ∧
      pageTableSize ≠ 0 ∧ Nat.pow 2 k = tileSize ∧ text = extensions pageTableSize tileSize k := by
  constructor
  · rintro ⟨rfl, hne⟩
    unfold extensionsText at hne ⊢
    split at hne
    · rename_i pageTableSize tileSize hnumbers
      split at hne
      · rename_i k hlog
        split at hne
        · exact absurd rfl hne
        · rename_i hsize
          exact ⟨pageTableSize, tileSize, k, hnumbers, hsize, log2?_eq_some_iff.1 hlog,
            if_neg hsize⟩
      · exact absurd rfl hne
    · exact absurd rfl hne
  · rintro ⟨pageTableSize, tileSize, k, hnumbers, hsize, hpower, rfl⟩
    rw [extensionsText, hnumbers]
    simp only [log2?_eq_some_iff.2 hpower]
    exact ⟨if_neg hsize, extensions_ne _ _ _⟩

theorem isDescriptors_iff {name text : String} : IsDescriptors name text ↔
    (Pattern.whole (numbersPattern "descriptors.glsl" 3)).accepts name = true ∧
    descriptorsText name = text ∧ text ≠ "" := by
  rw [descriptorsText_iff]
  constructor
  · rintro ⟨ns, set, pageTable, physicalTiles, hname, hns, hrest⟩
    obtain ⟨haccepts, hnumbers⟩ :=
      (accepts_and_numbers_iff (by decide) (by decide) _).2 ⟨ns, hname, hns⟩
    exact ⟨haccepts, set, pageTable, physicalTiles, hnumbers, hrest⟩
  · rintro ⟨haccepts, set, pageTable, physicalTiles, hnumbers, hrest⟩
    obtain ⟨ns, hname, hns⟩ :=
      (accepts_and_numbers_iff (by decide) (by decide) [set, pageTable, physicalTiles]).1
        ⟨haccepts, hnumbers⟩
    exact ⟨ns, set, pageTable, physicalTiles, hname, hns, hrest⟩

theorem isExtensions_iff {name text : String} : IsExtensions name text ↔
    (Pattern.whole (numbersPattern "extensions.glsl" 2)).accepts name = true ∧
    extensionsText name = text ∧ text ≠ "" := by
  rw [extensionsText_iff]
  constructor
  · rintro ⟨ns, pageTableSize, tileSize, k, hname, hns, hrest⟩
    obtain ⟨haccepts, hnumbers⟩ :=
      (accepts_and_numbers_iff (by decide) (by decide) _).2 ⟨ns, hname, hns⟩
    exact ⟨haccepts, pageTableSize, tileSize, k, hnumbers, hrest⟩
  · rintro ⟨haccepts, pageTableSize, tileSize, k, hnumbers, hrest⟩
    obtain ⟨ns, hname, hns⟩ :=
      (accepts_and_numbers_iff (by decide) (by decide) [pageTableSize, tileSize]).1
        ⟨haccepts, hnumbers⟩
    exact ⟨ns, pageTableSize, tileSize, k, hname, hns, hrest⟩

/-! ## Answers -/

theorem not_isExtensions_of_isDescriptors {name text text' : String} (h : IsDescriptors name text) :
    ¬ IsExtensions name text' := by
  obtain ⟨ns, _, _, _, hname, _⟩ := h
  rintro ⟨ns', _, _, _, hname', _⟩
  rw [hname, ← String.toList_inj, toList_texturingName, toList_texturingName] at hname'
  have hfile := congrArg List.head? (List.append_cancel_left hname')
  simp at hfile

theorem value_texturing {name : String} {t : IncludeText} :
    (texturing.answer name).value = some t ↔
      t.path = ⟨name⟩ ∧ (IsDescriptors name t.contents ∨ IsExtensions name t.contents) := by
  rw [texturing, Generator.ofMappings, Generator.firstMatch_eq_some_iff]
  · simp only [List.mem_pair, exists_eq_or_imp, exists_eq_left, isDescriptors_iff, isExtensions_iff]
    rfl
  · intro m hm m' hm' text text' hmakes hmakes'
    rcases List.mem_pair.1 hm with rfl | rfl <;> rcases List.mem_pair.1 hm' with rfl | rfl
    · exact hmakes.unique hmakes'
    · exact absurd (isExtensions_iff.2 hmakes')
        (not_isExtensions_of_isDescriptors (isDescriptors_iff.2 hmakes))
    · exact absurd (isExtensions_iff.2 hmakes)
        (not_isExtensions_of_isDescriptors (isDescriptors_iff.2 hmakes'))
    · exact hmakes.unique hmakes'

theorem dropSlashes_home : dropSlashes home = home := by decide

theorem header_ne : ∀ header ∈ headers, header.2 ≠ "" := by decide +kernel

/-- There is one header for a path. -/
theorem header_unique {header other : String × String} (h : header ∈ headers) (h' : other ∈ headers)
    (hpath : header.1 = other.1) : header = other := by
  rcases List.mem_pair.1 h with rfl | rfl <;> rcases List.mem_pair.1 h' with rfl | rfl
  · rfl
  · exact absurd hpath (by decide)
  · exact absurd hpath (by decide)
  · rfl

theorem value_header {name : String} {t : IncludeText} :
    ((embedded home headers).answer name).value = some t ↔
      t.path = ⟨name⟩ ∧ IsHeader name t.contents := by
  have hanswer : ∀ header : String × String, ∀ t : IncludeText,
      (if name = headerName home header.1 ∧
        header.2 ≠ "" then some (⟨⟨name⟩, header.2⟩ : IncludeText) else none) = some t ↔
          (name = headerName home header.1 ∧ header.2 ≠ "") ∧ ⟨⟨name⟩, header.2⟩ = t := by
    intro header t
    rw [Option.ite_none_right_eq_some, Option.some.injEq]
  rw [value_embedded, dropSlashes_home, findSome?_eq_some_iff_of_agree]
  · simp only [hanswer]
    constructor
    · rintro ⟨header, hheader, ⟨hname, _⟩, rfl⟩
      exact ⟨rfl, header, hheader, hname, rfl⟩
    · obtain ⟨path, contents⟩ := t
      rintro ⟨rfl, header, hheader, hname, rfl⟩
      exact ⟨header, hheader, ⟨hname, header_ne header hheader⟩, rfl⟩
  · intro header hheader other hother t t' ht ht'
    obtain ⟨⟨hname, _⟩, rfl⟩ := (hanswer header t).1 ht
    obtain ⟨⟨hname', _⟩, rfl⟩ := (hanswer other t').1 ht'
    rw [header_unique hheader hother (headerName_inj.1 (hname.symm.trans hname'))]

/-! ## Directories -/

theorem home_mem_homesOf {name text : String} (h : IsHeader name text) : home ∈ homesOf name := by
  obtain ⟨header, hheader, rfl, _⟩ := h
  have hdot : ∀ header ∈ headers, '.' ∈ header.1.toList := by decide
  exact (mem_homesOf_headerName (by decide) (by decide)).2 (.inl (hdot header hheader))

theorem texturingHome_mem_homesOf {file : String} (h : '.' ∈ file.toList) (ns : List String) :
    texturingHome ∈ homesOf (texturingName file ns) := by
  have hname : texturingName file ns =
      headerName texturingHome (file ++ String.join (ns.map fun n => "/" ++ n)) := by
    rw [texturingName, headerName, String.append_assoc]
  rw [hname, mem_homesOf_headerName (by decide) (by decide)]
  left
  rw [String.toList_append]
  exact List.mem_append_left _ h

/-- The fixed headers are not below the virtual texturing directory. -/
theorem not_isHeader_texturingName (file : String) (ns : List String) (text : String) :
    ¬ IsHeader (texturingName file ns) text := by
  rintro ⟨header, hheader, hname, _⟩
  have hbeside : ∀ header ∈
    headers, ¬ texturingHome.toList <+: (headerName home header.1).toList := by decide
  apply hbeside header hheader
  rw [← hname, toList_texturingName, String.toList_append, List.append_assoc]
  exact List.prefix_append _ _

theorem not_isHeader_of_isTexturing {name text text' : String}
    (h : IsDescriptors name text ∨ IsExtensions name text) :
    ¬ IsHeader name text' := by
  rcases h with ⟨ns, _, _, _, rfl, _⟩ | ⟨ns, _, _, _, rfl, _⟩
  · exact not_isHeader_texturingName _ ns text'
  · exact not_isHeader_texturingName _ ns text'

theorem texturingHome_mem_homesOf_of_isTexturing {name text : String}
    (h : IsDescriptors name text ∨ IsExtensions name text) : texturingHome ∈ homesOf name := by
  rcases h with ⟨ns, _, _, _, rfl, _⟩ | ⟨ns, _, _, _, rfl, _⟩
  · exact texturingHome_mem_homesOf (by decide) ns
  · exact texturingHome_mem_homesOf (by decide) ns

theorem answers_iff {changes : List Finder.Change}
    (h : Finder.registered false changes = generators) {name : String} {t : IncludeText} :
    Finder.Answers changes name t ↔ t.path = ⟨name⟩ ∧ (IsHeader name t.contents ∨
      IsDescriptors name t.contents ∨ IsExtensions name t.contents) := by
  have hembedded : standardHome (embedded home headers).home = home :=
    (home_embedded home headers).trans dropSlashes_home
  have htexturing : standardHome texturing.home = texturingHome :=
    standardHome_of_getLast? (by decide)
  simp only [Finder.Answers, h, generators, List.mem_pair, exists_eq_or_imp, exists_eq_left,
    hembedded, htexturing, value_header, value_texturing]
  constructor
  · rintro (⟨_, ⟨hpath, hheader⟩, _⟩ | ⟨_, ⟨hpath, htexturing⟩, _⟩)
    · exact ⟨hpath, .inl hheader⟩
    · exact ⟨hpath, .inr htexturing⟩
  · rintro ⟨hpath, hheader | htexturing⟩
    · have hne : t.contents ≠ "" := by
        obtain ⟨header, hheader, _, htext⟩ := hheader
        rw [htext]
        exact header_ne header hheader
      exact .inl ⟨home_mem_homesOf hheader, ⟨hpath, hheader⟩, hne⟩
    · have hne : t.contents ≠ "" := by
        rcases htexturing with hdescriptors | hextensions
        · exact (isDescriptors_iff.1 hdescriptors).2.2
        · exact (isExtensions_iff.1 hextensions).2.2
      exact .inr ⟨texturingHome_mem_homesOf_of_isTexturing htexturing, ⟨hpath, htexturing⟩, hne⟩

theorem answers_unique {changes : List Finder.Change}
    (h : Finder.registered false changes = generators) {name : String} (t t' : IncludeText)
    (ht : Finder.Answers changes name t) (ht' : Finder.Answers changes name t') : t = t' := by
  obtain ⟨hpath, hkind⟩ := (answers_iff h).1 ht
  obtain ⟨hpath', hkind'⟩ := (answers_iff h).1 ht'
  rcases hkind with hheader | htexturing
  · rcases hkind' with hheader' | htexturing'
    · have hanswer := value_header.2 ⟨hpath, hheader⟩
      have hanswer' := value_header.2 ⟨hpath', hheader'⟩
      exact Option.some.inj (hanswer.symm.trans hanswer')
    · exact absurd hheader (not_isHeader_of_isTexturing htexturing')
  · rcases hkind' with hheader' | htexturing'
    · exact absurd hheader' (not_isHeader_of_isTexturing htexturing)
    · have hanswer := value_texturing.2 ⟨hpath, htexturing⟩
      have hanswer' := value_texturing.2 ⟨hpath', htexturing'⟩
      exact Option.some.inj (hanswer.symm.trans hanswer')

namespace BuiltinNames

end BuiltinNames

end Builtin

end ShaderBuild
