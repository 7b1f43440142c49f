import Mathlib.Data.List.DropRight
import ShaderBuild.Cache.File

/-!
What file operations leave on a disk. Main statements: `grows_of_makeDirectories`, by which creating
directories changes nothing that was there, and `Cache.wrote_of_save`, by which a cache that was
saved is read back.
-/

namespace ShaderBuild

def DiskEntry.isLink : DiskEntry → Bool
  | link _ => true
  | _ => false

namespace Disk

variable {d d' : Disk} {p : Path}

/-! ## Entries -/

theorem lookup_filter_ne (entries : List (Place × DiskEntry)) (p q : Place) :
    (entries.filter fun x => x.1 ≠ p).lookup q = if q = p then none else entries.lookup q := by
  induction entries with
  | nil => simp
  | cons entry rest ih =>
    obtain ⟨place, e⟩ := entry
    by_cases hp : place = p
    · subst hp
      rw [List.filter_cons_of_neg (by simp), ih]
      by_cases hq : q = place
      · simp [hq]
      · rw [if_neg hq, if_neg hq, List.lookup_cons, beq_false_of_ne hq]
    · rw [List.filter_cons_of_pos (by simpa using hp), List.lookup_cons, List.lookup_cons, ih]
      by_cases hq : q = place
      · simp [hq, hp]
      · rw [beq_false_of_ne hq]

/-- What is put at a place is there, and everything else is where it was. -/
theorem entryAt?_put (d : Disk) {p : Place} (hp : p ≠ []) (e : DiskEntry) (q : Place) :
    (d.put p e).entryAt? q = if q = p then some e else d.entryAt? q := by
  by_cases hroot : q = []
  · simp [entryAt?, hroot, hp.symm]
  · rw [entryAt?, entryAt?, put, if_neg hroot, if_neg hroot, List.lookup_append, lookup_filter_ne]
    by_cases hq : q = p
    · simp [hq]
    · rw [if_neg hq, if_neg hq, List.lookup_cons, beq_false_of_ne hq, List.lookup_nil,
        Option.or_none]

/-! ## Look-up -/

def Target.place : Target → Place
  | found place _ => place
  | free place _ => place

/-- What stands where a path leads. -/
def Target.entry? : Target → Option DiskEntry
  | found _ e => some e
  | free _ _ => none

/-- Where a look-up leads, unless that is a directory, it has seen what stands there. -/
theorem entryAt?_of_walk {follow : Bool} {links : Nat} {here : Place} {todo : List Bytes}
    {t : Target} (h : d.walk follow links here todo = .ok t) (hfile : t.entry? ≠ some .directory) :
    t.place ≠ [] ∧ d.entryAt? t.place = t.entry? := by
  fun_induction walk d follow links here todo with
  | case1 => cases h; simp [Target.entry?] at hfile
  | case2 _ _ _ _ _ ih | case3 _ _ _ _ ih | case8 _ _ _ _ _ _ _ _ _ ih => exact ih h
  | case13 _ _ _ _ _ _ _ _ _ _ _ ih => exact ih h
  | case4 | case7 | case10 | case12 => cases h
  | case5 _ here name | case6 _ here name | case9 _ here name | case11 _ here name =>
    cases h
    exact ⟨List.append_ne_nil_of_right_ne_nil here (List.cons_ne_nil name []), by assumption⟩

/-- One step of a look-up at a name that is a place's own. -/
theorem walk_name {follow : Bool} {links : Nat} {here : Place} {name : Bytes}
    {rest : List Bytes} (hname : ¬(name = [] ∨ name = [Path.dot]))
    (hup : name ≠ [Path.dot, Path.dot]) (hlength : ¬maxName < name.length) :
    d.walk follow links here (name :: rest) =
      match d.entryAt? (here ++ [name]) with
      | none =>
        if rest = [] then .ok (.free (here ++ [name]) false)
        else if rest = [[]] then .ok (.free (here ++ [name]) true)
        else .error .noEntry
      | some .directory => d.walk follow links (here ++ [name]) rest
      | some (.file data) =>
        if rest = [] then .ok (.found (here ++ [name]) (.file data)) else .error .notDirectory
      | some (.link target) =>
        if rest = [] ∧ !follow then .ok (.found (here ++ [name]) (.link target))
        else match links with
          | 0 => .error .linkLoop
          | links + 1 =>
            d.walk follow links (if target.isRooted then [] else here) (parts target ++ rest) := by
  rw [walk, if_neg hname, if_neg hup]
  exact if_neg hlength

/-- At a file a look-up ends, or it fails. -/
theorem walk_file {follow : Bool} {links : Nat} {here : Place} {name : Bytes} {data : Bytes}
    (hname : ¬(name = [] ∨ name = [Path.dot])) (hup : name ≠ [Path.dot, Path.dot])
    (hlength : ¬maxName < name.length)
    (h : d.entryAt? (here ++ [name]) = some (.file data)) (rest : List Bytes) :
    d.walk follow links here (name :: rest) =
      if rest = [] then .ok (.found (here ++ [name]) (.file data)) else .error .notDirectory := by
  rw [walk_name hname hup hlength, h]

theorem getLast?_ne_of_cons {name last : Bytes} {rest : List Bytes}
    (h : (name :: rest).getLast? ≠ some last) : rest.getLast? ≠ some last := by
  cases rest with
  | nil => simp
  | cons => simpa using h

/-- A look-up that led somewhere finds the file that was put there, unless it goes on from there,
which it can do only if there was a link. -/
theorem walk_put {links : Nat} {here : Place} {todo : List Bytes} {t : Target} (data : Bytes)
    (h : d.walk false links here todo = .ok t) (hfile : t.entry? ≠ some .directory)
    (hlast : todo.getLast? ≠ some []) :
    (d.put t.place (.file data)).walk true links here todo = .ok (.found t.place (.file data)) ∨
      (d.put t.place (.file data)).walk true links here todo = .error .notDirectory ∧
        ∃ target, t.entry? = some (.link target) := by
  obtain ⟨hplace, hentry⟩ := entryAt?_of_walk h hfile
  have hput : (d.put t.place (.file data)).entryAt? t.place = some (.file data) := by
    rw [entryAt?_put d hplace, if_pos rfl]
  -- On both disks the same names are passed, up to the first that is the place itself.
  fun_induction walk d false links here todo with
  | case1 => cases h; simp [Target.entry?] at hfile
  | case2 _ _ name _ hname ih =>
    rw [walk, if_pos hname]
    exact ih h (getLast?_ne_of_cons hlast)
  | case3 _ _ _ hname ih =>
    rw [walk, if_neg hname, if_pos rfl]
    exact ih h (getLast?_ne_of_cons hlast)
  | case4 | case7 | case10 | case12 => cases h
  | case6 => simp at hlast
  | case5 _ _ _ hname hup hlength | case9 _ _ _ hname hup hlength =>
    cases h
    exact .inl ((walk_file hname hup hlength hput []).trans (if_pos rfl))
  | case11 _ _ _ rest hname hup hlength _ _ _ hend =>
    cases h
    exact .inl ((walk_file hname hup hlength hput rest).trans (if_pos hend.1))
  | case8 _ here name rest hname hup hlength place hdirectory ih =>
    have hother : here ++ [name] ≠ t.place := by
      intro heq
      rw [← hentry, ← heq] at hfile
      exact hfile hdirectory
    rw [walk_name hname hup hlength, entryAt?_put d hplace, if_neg hother, hdirectory]
    exact ih h (getLast?_ne_of_cons hlast)
  | case13 here name rest hname hup hlength place target hlink hgoes links ih =>
    have hrest : rest ≠ [] := by simpa using hgoes
    by_cases hthere : here ++ [name] = t.place
    · rw [← hthere] at hput hentry ⊢
      exact .inr ⟨(walk_file hname hup hlength hput rest).trans (if_neg hrest), target,
        hentry.symm.trans hlink⟩
    · rw [walk_name hname hup hlength, entryAt?_put d hplace, if_neg hthere, hlink]
      simp only [hrest, false_and, if_false]
      refine ih h ?_
      rw [List.getLast?_append_of_ne_nil _ hrest]
      exact getLast?_ne_of_cons hlast

/-! ## Paths that can be looked up -/

/-- Where the look-up of a path starts. -/
def start (d : Disk) (p : Path) : Place := if p.isRooted then [] else d.working

/-- The parts without the empty ones at the end. -/
def bareParts (p : Path) : List Bytes := (parts p).rdropWhile (· = [])

structure Lookable (p : Path) : Prop where
  zero : ¬ p.bytes.contains 0
  ne_nil : p.bytes ≠ []
  size : ¬ maxPath ≤ p.bytes.length

theorem find_of_lookable (h : Lookable p) (follow : Bool) :
    d.find follow p = d.walk follow maxLinks (d.start p) (parts p) := by
  rw [find, if_neg h.zero, if_neg h.ne_nil, if_neg h.size, start]

/-- What is located is found by following the parts in front of the slashes at the end. -/
theorem locate_ok {t : Target} {slash : Bool} (h : d.locate p = .ok (t, slash)) :
    Lookable p ∧ d.walk false maxLinks (d.start p) (bareParts p) = .ok t ∧
      slash = decide ((parts p).getLast? = some []) := by
  rw [locate] at h
  split at h
  · cases h
  · rename_i hzero
    split at h
    · cases h
    · rename_i hbytes
      split at h
      · cases h
      · rename_i hsize
        change (d.walk false maxLinks (d.start p) (bareParts p)).map _ = _ at h
        cases hwalk : d.walk false maxLinks (d.start p) (bareParts p) with
        | error e => simp [hwalk, Except.map] at h
        | ok found =>
          rw [hwalk] at h
          cases h
          exact ⟨⟨hzero, hbytes, hsize⟩, rfl, rfl⟩

/-- There is nothing to leave out of a path that does not end in a slash. -/
theorem bareParts_eq (h : (parts p).getLast? ≠ some []) : bareParts p = parts p := by
  rw [bareParts, List.rdropWhile_eq_self_iff]
  intro hparts hlast
  rw [List.getLast?_eq_some_getLast hparts, of_decide_eq_true hlast] at h
  exact h rfl

/-! ## Directories -/

/-- All that was there is still there, and what is new are directories. -/
def Grows (d d' : Disk) : Prop :=
  ∀ place, d'.entryAt? place = d.entryAt? place ∨ d.entryAt? place = none ∧ d'.entryAt? place =
    some .directory

theorem Grows.refl (d : Disk) : d.Grows d := fun _ => .inl rfl

theorem Grows.trans {d'' : Disk} (h : d.Grows d') (h' : d'.Grows d'') : d.Grows d'' := by
  intro place
  rcases h place with hsame | ⟨hnone, hnew⟩
  · rw [← hsame]
    exact h' place
  · rcases h' place with hsame' | ⟨hnone', _⟩
    · exact .inr ⟨hnone, hsame'.trans hnew⟩
    · simp [hnew] at hnone'

/-- A link was there before. -/
theorem Grows.link {place : Place} {target : Path} (h : d.Grows d')
    (hlink : d'.entryAt? place = some (.link target)) : d.entryAt? place = some (.link target) := by
  rcases h place with hsame | ⟨_, hnew⟩
  · exact hsame ▸ hlink
  · simp [hlink] at hnew

theorem grows_of_makeDirectory (h : d.makeDirectory p = .ok d') : d.Grows d' := by
  rw [makeDirectory] at h
  split at h
  · cases h
  · cases h
  · rename_i place _ _ hlocate
    cases h
    obtain ⟨_, hwalk, _⟩ := locate_ok hlocate
    obtain ⟨hplace, hfree⟩ := entryAt?_of_walk hwalk (by simp [Target.entry?])
    intro other
    change place ≠ [] at hplace
    rw [entryAt?_put d hplace]
    split
    · rename_i heq
      exact .inr ⟨heq ▸ hfree, rfl⟩
    · exact .inl rfl

theorem grows_of_go {fuel : Nat} (h : makeDirectories.go fuel d p = .ok d') : d.Grows d' := by
  fun_induction makeDirectories.go fuel d p generalizing d' with
  | case1 | case2 | case9 =>
    cases h
    exact .refl _
  | case3 _ _ _ _ _ hmade =>
    cases h
    exact grows_of_makeDirectory hmade
  | case6 _ _ _ _ _ _ _ _ hparent _ hmade ih =>
    cases h
    exact (ih hparent).trans (grows_of_makeDirectory hmade)
  | case7 _ _ _ _ _ _ _ _ hparent _ _ _ ih =>
    cases h
    exact ih hparent
  | case4 | case5 | case8 | case10 => cases h

/-- Creating directories changes nothing that was there. -/
theorem grows_of_makeDirectories (h : d.makeDirectories p = .ok d') : d.Grows d' := grows_of_go h

/-! ## Writing -/

theorem replace_ok {data : Bytes} (h : d.replace p data = .ok d') :
    ∃ t, d.locate p = .ok (t, false) ∧ t.entry? ≠ some .directory ∧
      d' = d.put t.place (.file data) := by
  rw [replace] at h
  split at h
  · cases h
  · split at h
    · cases h
    · split at h
      · cases h
      · cases h
      · cases h
      · rename_i place e slash hslash hdirectory hlocate
        obtain rfl : slash = false := eq_false_of_ne_true hslash
        cases h
        exact ⟨_, hlocate, fun he => hdirectory (Option.some.inj he), rfl⟩
      · rename_i place _ slash hslash hlocate
        obtain rfl : slash = false := eq_false_of_ne_true hslash
        cases h
        exact ⟨_, hlocate, nofun, rfl⟩

/-- Data was written at a path: it is in a file, and it is read there, unless the path goes on
behind the place of that file, which was then the place of a link. -/
def Wrote (d d' : Disk) (p : Path) (data : Bytes) : Prop :=
  ∃ place, d'.entryAt? place = some (.file data) ∧
    (d'.read p = .ok data ∨ d'.read p = .error .notDirectory ∧ ∃ target,
      d.entryAt? place = some (.link target))

theorem Wrote.of_grows {d'' : Disk} {data : Bytes} (h : d.Grows d') (hwrote : d'.Wrote d'' p data) :
    d.Wrote d'' p data := by
  obtain ⟨place, hplace, hread⟩ := hwrote
  refine ⟨place, hplace, hread.imp id ?_⟩
  rintro ⟨hthrough, target, hlink⟩
  exact ⟨hthrough, target, h.link hlink⟩

theorem wrote_of_replace {data : Bytes} (h : d.replace p data = .ok d') : d.Wrote d' p data := by
  obtain ⟨t, hlocate, hfile, rfl⟩ := replace_ok h
  obtain ⟨hlookable, hwalk, hslash⟩ := locate_ok hlocate
  have hlast : (parts p).getLast? ≠ some [] := of_decide_eq_false hslash.symm
  rw [bareParts_eq hlast] at hwalk
  obtain ⟨hplace, hentry⟩ := entryAt?_of_walk hwalk hfile
  refine ⟨t.place, by rw [entryAt?_put d hplace, if_pos rfl], ?_⟩
  have hstart : (d.put t.place (.file data)).start p = d.start p := rfl
  rw [read, find_of_lookable hlookable, hstart]
  rcases walk_put data hwalk hfile hlast with hfound | ⟨hthrough, target, hlink⟩
  · rw [hfound]
    exact .inl rfl
  · rw [hthrough]
    exact .inr ⟨rfl, target, hentry.trans hlink⟩

/-! ## Disks without links -/

def Linkless (d : Disk) : Prop := ∀ place target, d.entryAt? place ≠ some (.link target)

theorem linkless_of_entries (h : ∀ e ∈ d.entries, e.2.isLink = false) : d.Linkless := by
  intro place target hlink
  rw [entryAt?] at hlink
  split at hlink
  · cases hlink
  · obtain ⟨before, after, hentries⟩ := List.lookup_eq_some_iff.1 hlink
    exact Bool.noConfusion (h (place, .link target) (by simp [hentries]))

theorem Linkless.put {place : Place} (h : d.Linkless) (hplace : place ≠ []) (data : Bytes) :
    (d.put place (.file data)).Linkless := by
  intro other target
  rw [entryAt?_put d hplace]
  split
  · nofun
  · exact h other target

/-- A look-up that meets no links. -/
def walkDirectly (d : Disk) (here : Place) : List Bytes → Except SystemError Target
  | [] => .ok (.found here .directory)
  | name :: rest =>
    if name = [] ∨ name = [Path.dot] then d.walkDirectly here rest
    else if name = [Path.dot, Path.dot] then d.walkDirectly here.dropLast rest
    else if maxName < name.length then .error .nameTooLong
    else match d.entryAt? (here ++ [name]) with
      | none =>
        if rest = [] then .ok (.free (here ++ [name]) false)
        else if rest = [[]] then .ok (.free (here ++ [name]) true)
        else .error .noEntry
      | some .directory => d.walkDirectly (here ++ [name]) rest
      | some (.file data) =>
        if rest = [] then .ok (.found (here ++ [name]) (.file data)) else .error .notDirectory
      | some (.link _) => .error .linkLoop

/-- Without links it is immaterial whether they are followed, and how often. -/
theorem walk_eq_walkDirectly (h : d.Linkless) (follow : Bool) (links : Nat) (here : Place)
    (todo : List Bytes) :
    d.walk follow links here todo = d.walkDirectly here todo := by
  induction todo generalizing here with
  | nil => rw [walk, walkDirectly]
  | cons name rest ih =>
    rw [walkDirectly]
    split
    · rename_i hsilent
      rw [walk, if_pos hsilent, ih]
    · rename_i hname
      split
      · rename_i hup
        rw [walk, if_neg hname, if_pos hup, ih]
      · rename_i hup
        split
        · rename_i hlength
          rw [walk, if_neg hname, if_neg hup, if_pos hlength]
        · rename_i hlength
          rw [walk_name hname hup hlength]
          rcases hentry : d.entryAt? (here ++ [name]) with _ | ⟨_ | _ | target⟩
          · rfl
          · rfl
          · exact ih _
          · exact absurd hentry (h _ target)

end Disk

/-! ## Saving a cache -/

namespace Cache

variable {fingerprint : ShaderKey → Hash128} {c : Cache fingerprint} {d d' : Disk} {file : Path}

/-- A cache is saved if its directory can be had, it has a stored form, and the file can be put
there. -/
theorem save_ok_iff : (c.save d file).value = (d', .ok ()) ↔
    ∃ ready data, (if file.parentDir.bytes = [] then .ok d else d.makeDirectories file.parentDir) =
      .ok ready ∧ c.serialize = .ok data ∧ ready.replace file data = .ok d' := by
  rw [save]
  cases hready :
      (if file.parentDir.bytes = [] then .ok d else d.makeDirectories file.parentDir) with
  | error e => simp
  | ok ready =>
    cases hstored : c.serialize with
    | error e => simp
    | ok data =>
      cases hreplaced : ready.replace file data with
      | error e => simp [hreplaced]
      | ok replaced => simp [hreplaced]

theorem wrote_of_save (h : (c.save d file).value = (d', .ok ())) :
    ∃ data, c.serialize = .ok data ∧ d.Wrote d' file data := by
  obtain ⟨ready, data, hready, hstored, hreplaced⟩ := save_ok_iff.1 h
  have hgrows : d.Grows ready := by
    split at hready
    · cases hready
      exact .refl d
    · exact Disk.grows_of_makeDirectories hready
  exact ⟨data, hstored, .of_grows hgrows (Disk.wrote_of_replace hreplaced)⟩

end Cache

end ShaderBuild
