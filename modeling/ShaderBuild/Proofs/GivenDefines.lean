import Mathlib.Data.List.Induction
import ShaderBuild.Project.Overrides
import ShaderBuild.Proofs.ByteOrder

/-!
Defines given on the command line. Main statement: `definesWith_overrides`, by which an argument
without a name is refused, and otherwise every name has one place and the value that was given to it
last.
-/

namespace ShaderBuild

/-! ## Arguments -/

/-- The text before the first equals sign, without the blanks around it. -/
def givenName (argument : String) : String :=
  String.ofList (Text.trim (argument.toList.takeWhile (· != '=')))

/-- Everything behind the first equals sign. -/
def givenValue (argument : String) : String :=
  String.ofList (argument.toList.dropWhile (· != '=')).tail

theorem readDefine_eq (argument : String) :
    readDefine argument =
      if givenName argument = "" then .error ⟨argument⟩
      else .ok (givenName argument, givenValue argument) := by
  have hsplit : (Text.splitFirst? '=' argument.toList).getD (argument.toList, []) =
      (argument.toList.takeWhile (· != '='), (argument.toList.dropWhile (· != '=')).tail) := by
    rw [Text.splitFirst?]
    split
    · rename_i hnone
      have hwhole := List.takeWhile_append_dropWhile (p := (· != '=')) (l := argument.toList)
      rw [hnone, List.append_nil] at hwhole
      rw [hnone, hwhole]
      rfl
    · rename_i hsome
      rw [hsome]
      rfl
  simp only [readDefine, hsplit, givenName, givenValue, String.ofList_eq_empty_iff]

/-- The names of the arguments that are not known yet, in the order in which they first come up. -/
def newNames (known arguments : List String) : List String :=
  (arguments.map givenName).eraseDups.filter fun name => name ∉ known

/-- The value of the last argument with the name. -/
def LastGiven (arguments : List String) (name value : String) : Prop :=
  ∃ before argument after, arguments = before ++ argument :: after ∧ givenName argument = name ∧
    givenValue argument = value ∧ ∀ later ∈ after, givenName later ≠ name

/-- The defines that are left when arguments override configured ones: the configured names in
ascending order of their bytes, then the new names, each of them once. A name has the value given to
it last, or its configured value if no argument names it. -/
structure Overrides (configured : List (String × String)) (arguments : List String)
    (merged : List (String × String)) : Prop where
  ascending : (configured.map fun d => Bytes.ofText d.1).Pairwise (· < ·)
  names :
    merged.map Prod.fst = configured.map Prod.fst ++ newNames (configured.map Prod.fst) arguments
  distinct : (merged.map Prod.fst).Nodup
  mem_iff : ∀ name value, (name, value) ∈ merged ↔ LastGiven arguments name value ∨
    (∀ argument ∈ arguments, givenName argument ≠ name) ∧ (name, value) ∈ configured

/-! ## One define more -/

theorem names_override (defines : List (String × String)) (name value : String) :
    (override defines name value).map Prod.fst =
      if name ∈ defines.map Prod.fst then defines.map Prod.fst
      else defines.map Prod.fst ++ [name] := by
  induction defines with
  | nil => rfl
  | cons d rest ih =>
    obtain ⟨n, v⟩ := d
    by_cases hn : n = name
    · simp [override, hn]
    · simp only [override, if_neg hn, List.map_cons, ih, List.mem_cons, Ne.symm hn, false_or]
      split <;> rfl

theorem mem_override {defines : List (String × String)} (hdistinct : (defines.map Prod.fst).Nodup)
    {name value n v : String} :
    (n, v) ∈ override defines name value ↔ n = name ∧ v = value ∨ n ≠ name ∧ (n, v) ∈ defines := by
  induction defines with
  | nil => simp [override]
  | cons d rest ih =>
    obtain ⟨n', v'⟩ := d
    rw [List.map_cons, List.nodup_cons] at hdistinct
    by_cases hn : n' = name
    · have hrest : (n, v) ∈ rest → n ≠ name := by
        rintro hmem rfl
        exact hdistinct.1 (List.mem_map.2 ⟨(n, v), hmem, hn.symm⟩)
      simp only [override, if_pos hn, List.mem_cons, Prod.mk.injEq]
      grind
    · simp only [override, if_neg hn, List.mem_cons, ih hdistinct.2, Prod.mk.injEq]
      grind

/-! ## All arguments -/

theorem overrideAll_eq (defines : List (String × String)) (arguments : List String) :
    overrideAll defines arguments =
      match arguments.find? fun a => givenName a = "" with
      | some a => .error ⟨a⟩
      | none =>
        .ok (arguments.foldl (fun ds a => override ds (givenName a) (givenValue a)) defines) := by
  induction arguments generalizing defines with
  | nil => rfl
  | cons a arguments ih =>
    have hcons : overrideAll defines (a :: arguments) =
        (readDefine a).bind fun d => overrideAll (override defines d.1 d.2) arguments := by
      rw [overrideAll, List.foldlM_cons]
      cases readDefine a <;> rfl
    rw [hcons, readDefine_eq]
    by_cases ha : givenName a = ""
    · simp [ha, Except.bind]
    · simp [ha, Except.bind, ih]

theorem eraseDups_concat (names : List String) (name : String) :
    (names ++ [name]).eraseDups = names.eraseDups ++ if name ∈ names then [] else [name] := by
  rw [List.eraseDups_append]
  by_cases h : name ∈ names
  · simp [List.removeAll, h]
  · simp [List.removeAll, h, List.eraseDups_cons]

theorem mem_newNames {known arguments : List String} {name : String} :
    name ∈ newNames known arguments ↔ name ∈ arguments.map givenName ∧ name ∉ known := by
  simp [newNames]

theorem newNames_concat (known arguments : List String) (a : String) :
    newNames known (arguments ++ [a]) = newNames known arguments ++
      if givenName a ∈ known ++ newNames known arguments then [] else [givenName a] := by
  have hsplit : newNames known (arguments ++ [a]) = newNames known arguments ++
      (if givenName a ∈ arguments.map givenName then [] else [givenName a]).filter fun name =>
        name ∉ known := by
    rw [newNames, List.map_append, List.map_singleton, eraseDups_concat, List.filter_append]
    rfl
  rw [hsplit]
  simp only [List.mem_append, mem_newNames]
  by_cases hknown : givenName a ∈ known
  · simp [hknown, apply_ite]
  · by_cases hgiven : givenName a ∈ arguments.map givenName
    · rw [if_pos hgiven, if_pos (.inr ⟨hgiven, hknown⟩), List.filter_nil]
    · rw [if_neg hgiven, if_neg (not_or.2 ⟨hknown, fun h => hgiven h.1⟩)]
      simp [hknown]

theorem lastGiven_concat {arguments : List String} {a name value : String} :
    LastGiven (arguments ++ [a]) name value ↔
      givenName a = name ∧ givenValue a = value ∨ givenName a ≠ name ∧
        LastGiven arguments name value := by
  constructor
  · rintro ⟨before, argument, after, heq, hname, hvalue, hlater⟩
    rcases after.eq_nil_or_concat with rfl | ⟨after, last, rfl⟩
    · obtain ⟨_, hlast⟩ := List.append_inj' heq rfl
      obtain rfl := List.singleton_inj.1 hlast
      exact .inl ⟨hname, hvalue⟩
    · rw [List.concat_eq_append] at heq hlater
      rw [← List.cons_append, ← List.append_assoc] at heq
      obtain ⟨hbefore, hlast⟩ := List.append_inj' heq rfl
      obtain rfl := List.singleton_inj.1 hlast
      obtain ⟨hlater, hne⟩ := List.forall_mem_append.1 hlater
      exact .inr ⟨hne a (List.mem_singleton_self a), before, argument, after, hbefore, hname,
        hvalue, hlater⟩
  · rintro (⟨hname, hvalue⟩ | ⟨hne, before, argument, after, rfl, hname, hvalue, hlater⟩)
    · exact ⟨arguments, a, [], rfl, hname, hvalue, nofun⟩
    · refine ⟨before, argument, after ++ [a], by simp, hname, hvalue, ?_⟩
      exact List.forall_mem_append.2 ⟨hlater, List.forall_mem_singleton.2 hne⟩

theorem overrides_foldl {configured : List (String × String)}
    (hascending : (configured.map fun d => Bytes.ofText d.1).Pairwise (· < ·))
    (hdistinct : (configured.map Prod.fst).Nodup) (arguments : List String) :
    Overrides configured arguments
      (arguments.foldl (fun ds a => override ds (givenName a) (givenValue a)) configured) := by
  induction arguments using List.reverseRecOn with
  | nil =>
    refine ⟨hascending, by simp [newNames], hdistinct, fun name value => ?_⟩
    simp [LastGiven]
  | append_singleton arguments a ih =>
    rw [List.foldl_append, List.foldl_cons, List.foldl_nil]
    have hnames :=
      names_override
        (arguments.foldl (fun ds a => override ds (givenName a) (givenValue a)) configured)
      (givenName a) (givenValue a)
    refine ⟨hascending, ?_, ?_, fun name value => ?_⟩
    · rw [hnames, ih.names, newNames_concat]
      split <;> simp
    · rw [hnames]
      split
      · exact ih.distinct
      · rename_i hnew
        exact List.nodup_append.2 ⟨ih.distinct, by simp, by grind⟩
    · rw [mem_override ih.distinct, ih.mem_iff, lastGiven_concat, List.forall_mem_append,
        List.forall_mem_singleton]
      grind

/-- Lists with the same names in the same order are equal if what is in one is in the other. -/
theorem eq_of_names {ps qs : List (String × String)} (hnames : ps.map Prod.fst = qs.map Prod.fst)
    (hdistinct : (qs.map Prod.fst).Nodup) (hmem : ∀ p ∈ ps, p ∈ qs) : ps = qs := by
  induction ps generalizing qs with
  | nil => exact (List.map_eq_nil_iff.1 hnames.symm).symm
  | cons p ps ih =>
    cases qs with
    | nil => cases hnames
    | cons q qs =>
      rw [List.map_cons, List.map_cons] at hnames
      obtain ⟨hname, hnames⟩ := List.cons_eq_cons.1 hnames
      obtain ⟨hq, hdistinct⟩ := List.nodup_cons.1 hdistinct
      obtain ⟨hp, hps⟩ := List.forall_mem_cons.1 hmem
      have hhead : p = q := by
        rcases List.mem_cons.1 hp with heq | hp
        · exact heq
        · exact absurd (List.mem_map.2 ⟨p, hp, hname⟩) hq
      have htail : ∀ x ∈ ps, x ∈ qs := by
        intro x hx
        rcases List.mem_cons.1 (hps x hx) with heq | hmem
        · rw [← hnames, ← heq] at hq
          exact absurd (List.mem_map_of_mem hx) hq
        · exact hmem
      rw [hhead, ih hnames hdistinct htail]

theorem Overrides.unique {configured ps qs : List (String × String)} {arguments : List String}
    (hps : Overrides configured arguments ps) (hqs : Overrides configured arguments qs) : ps = qs :=
  eq_of_names (hps.names.trans hqs.names.symm) hqs.distinct fun p hp =>
    (hqs.mem_iff p.1 p.2).2 ((hps.mem_iff p.1 p.2).1 hp)

/-! ## Configured defines -/

theorem DefineTable.ascending_bytes (t : DefineTable) :
    (t.pairs.map fun d => Bytes.ofText d.1).Pairwise (· < ·) := by
  have hnames := t.ascending
  rw [List.pairwise_map] at hnames ⊢
  exact hnames.imp Bytes.ofText_lt_ofText

theorem DefineTable.names_nodup (t : DefineTable) : (t.pairs.map Prod.fst).Nodup :=
  t.ascending.imp fun h => String.ne_of_lt h

/-- Arguments fail exactly if one has no name, and the first of these is the one that is reported.
Otherwise the defines are the configured ones overridden by the arguments. -/
theorem Settings.definesWith_overrides (s : Settings) (arguments : List String) :
    (∀ e, s.definesWith arguments = .error e ↔
      arguments.find? (fun a => givenName a = "") = some e.argument) ∧ ∀ merged,
        s.definesWith arguments = .ok merged ↔
          (∀ a ∈ arguments, givenName a ≠ "") ∧ Overrides s.defines.pairs arguments merged := by
  have hmerged := overrides_foldl s.defines.ascending_bytes s.defines.names_nodup arguments
  rw [definesWith, overrideAll_eq]
  cases hfind : arguments.find? fun a => givenName a = "" with
  | some a =>
    have hnameless : ¬ ∀ a ∈ arguments, givenName a ≠ "" := by
      intro hall
      have hname := List.find?_some hfind
      exact hall a (List.mem_of_find?_eq_some hfind) (of_decide_eq_true hname)
    refine ⟨fun e => ?_, fun merged => ?_⟩
    · obtain ⟨argument⟩ := e
      simp
    · simp [hnameless]
  | none =>
    have hall : ∀ a ∈ arguments, givenName a ≠ "" := by simpa using hfind
    refine ⟨fun e => by simp, fun merged => ?_⟩
    constructor
    · intro h
      obtain rfl := Except.ok.inj h
      exact ⟨hall, hmerged⟩
    · rintro ⟨_, h⟩
      rw [hmerged.unique h]

example : overrideAll [("A", "1"), ("B", "2")] ["C=x=y", " A ", "D= 4", "C"] =
    .ok [("A", ""), ("B", "2"), ("C", ""), ("D", " 4")] := by rfl

end ShaderBuild
