/-!
Tables of defines: a value for each name, in ascending order of the names.
-/

namespace ShaderBuild

/-- The names ascend, so no name is there twice. -/
structure DefineTable where
  pairs : List (String × String)
  ascending : (pairs.map Prod.fst).Pairwise (· < ·)

namespace DefineTable

def empty : DefineTable := ⟨[], .nil⟩

def names (t : DefineTable) : List String := t.pairs.map Prod.fst

/-- Puts a pair in its place, instead of one with its name. -/
def insertPair (name value : String) : List (String × String) → List (String × String)
  | [] => [(name, value)]
  | (n, v) :: rest =>
    if name < n then (name, value) :: (n, v) :: rest
    else if n < name then (n, v) :: insertPair name value rest
    else (name, value) :: rest

theorem mem_names_insertPair {name value : String} {ps : List (String × String)} {a : String}
    (h : a ∈ (insertPair name value ps).map Prod.fst) : a = name ∨ a ∈ ps.map Prod.fst := by
  induction ps with
  | nil => simpa [insertPair] using h
  | cons p rest ih =>
    obtain ⟨n, v⟩ := p
    simp only [insertPair] at h
    split at h
    · simpa using h
    · split at h
      · rcases List.mem_cons.1 h with rfl | h
        · exact .inr (by simp)
        · rcases ih h with h | h
          · exact .inl h
          · exact .inr (by simp_all)
      · rcases List.mem_cons.1 h with rfl | h
        · exact .inl rfl
        · exact .inr (by simp_all)

theorem eq_of_not_lt {a b : String} (h : ¬a < b) (h' : ¬b < a) : a = b :=
  String.le_antisymm (String.not_lt.1 h') (String.not_lt.1 h)

theorem ascending_insertPair (name value : String) {ps : List (String × String)}
    (h : (ps.map Prod.fst).Pairwise (· < ·)) :
    ((insertPair name value ps).map Prod.fst).Pairwise (· < ·) := by
  induction ps with
  | nil => simp [insertPair]
  | cons p rest ih =>
    obtain ⟨n, v⟩ := p
    have hn := List.pairwise_cons.1 h
    simp only [insertPair]
    split
    · rename_i hlt
      refine List.pairwise_cons.2 ⟨fun a ha => ?_, h⟩
      rcases List.mem_cons.1 ha with rfl | ha
      · exact hlt
      · exact String.lt_trans hlt (hn.1 a ha)
    · rename_i hge
      split
      · rename_i hlt
        refine List.pairwise_cons.2 ⟨fun a ha => ?_, ih hn.2⟩
        rcases mem_names_insertPair ha with rfl | ha
        · exact hlt
        · exact hn.1 a ha
      · rename_i hle
        rw [eq_of_not_lt hge hle]
        exact h

def insert (t : DefineTable) (name value : String) : DefineTable :=
  ⟨insertPair name value t.pairs, ascending_insertPair name value t.ascending⟩

/-- A table of pairs; of two with one name the later counts. -/
def ofList (ps : List (String × String)) : DefineTable :=
  ps.foldl (fun t p => t.insert p.1 p.2) empty

end DefineTable

end ShaderBuild
