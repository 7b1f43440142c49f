import ShaderBuild.Proofs.Expansion
import ShaderBuild.Proofs.Resolution

/-!
An expansion under other files. What it records is all that it depends on: where every recorded
include resolves to the same text at the same path, the expansion is the same. Main statements:
`Expands.replay`, `preprocess_replay`.
-/

namespace ShaderBuild

/-! ## Recorded includes -/

/-- The include was found, and what is recorded is what was found. -/
structure Dependency.RecordedBy (d : Dependency) (r : Resolver) : Prop where
  exists_text : ∃ t, (d.resolve r).value = some t
  digest_eq : d.digest = (d.resolve r).value.digest
  contents_eq : d.contents = (d.resolve r).value.contents

theorem Dependency.recordedBy_record {r : Resolver} {kind : IncludeKind} {dir : Path}
    {name : String} {t : IncludeText} (h : (r.request kind dir name).value = some t) :
    (Dependency.record name dir kind (some t)).RecordedBy r := by
  have hresolve : ((Dependency.record name dir kind (some t)).resolve r).value = some t := h
  exact ⟨⟨t, hresolve⟩, by rw [hresolve]; rfl, by rw [hresolve]; rfl⟩

theorem Expands.recorded {r : Resolver} {room : Nat} {f : Frame} {lines : List (List Char)}
    {once : List Path} {e : Expansion} (h : Expands r room f lines once e) :
    ∀ d ∈ e.dependencies, d.RecordedBy r := by
  induction h with
  | nil => exact nofun
  | pragma _ _ _ ih => exact ih
  | copy _ _ _ ih => exact ih
  | skip _ found _ _ _ ih => exact List.forall_mem_cons.2 ⟨Dependency.recordedBy_record found, ih⟩
  | enter _ found _ _ _ _ ihBody ihTail =>
    exact List.forall_mem_cons.2
      ⟨Dependency.recordedBy_record found, List.forall_mem_append.2 ⟨ihBody, ihTail⟩⟩

/-! ## Paths in a list -/

namespace Path

/-- Lists in which the same paths are found. -/
def Alike (ps qs : List Path) : Prop := ∀ p : Path, p.mem ps = p.mem qs

theorem Alike.refl (ps : List Path) : Alike ps ps := fun _ => rfl

theorem Alike.cons {ps qs : List Path} (h : Alike ps qs) {p q : Path} (hpq : p.same q) :
    Alike (p :: ps) (q :: qs) := by
  intro x
  have hcomponents : p.components = q.components := by simpa [same] using hpq
  have hrest := h x
  simp only [mem, List.any_cons, same, hcomponents] at hrest ⊢
  rw [hrest]

theorem same_refl (p : Path) : p.same p := by simp [same]

theorem Alike.onceAfter {ps qs : List Path} (h : Alike ps qs) {p q : Path} (hpq : p.same q)
    (text : List Char) : Alike (onceAfter p text ps) (onceAfter q text qs) := by
  rw [ShaderBuild.onceAfter, ShaderBuild.onceAfter]
  split
  · exact h.cons hpq
  · exact h

end Path

/-! ## Replay -/

/-- The include resolves to the same text at the same path. -/
def Dependency.Agrees (r s : Resolver) (d : Dependency) : Prop :=
  (d.resolve s).value = (d.resolve r).value

/-- Expansions with the same lines and the same record, which keep the same files from another
one. -/
structure Expansion.Repeats (e' e : Expansion) : Prop where
  lines : e'.lines = e.lines
  dependencies : e'.dependencies = e.dependencies
  once : Path.Alike e'.once e.once

theorem Expansion.Repeats.prepend {e' e : Expansion} (h : e'.Repeats e) (lines : List (List Char))
    (dependencies : List Dependency) :
    (e'.prepend lines dependencies).Repeats (e.prepend lines dependencies) where
  lines := congrArg (lines ++ ·) h.lines
  dependencies := congrArg (dependencies ++ ·) h.dependencies
  once := h.once

/-- An expansion whose recorded includes resolve alike is made again. Of the open files and those
that are not to be expanded again it matters only which paths are found among them, and the name
that the file goes by in messages is of no account. -/
theorem Expands.replay {r s : Resolver} {room : Nat} {f : Frame} {lines : List (List Char)}
    {once : List Path} {e : Expansion} (h : Expands r room f lines once e)
    (hagrees : ∀ d ∈ e.dependencies, d.Agrees r s) (f' : Frame) (once' : List Path)
    (hdir : f'.dir = f.dir) (hstack : Path.Alike f'.stack f.stack) (honce : Path.Alike once' once) :
    ∃ e', Expands s room f' lines once' e' ∧ e'.Repeats e := by
  induction h generalizing f' once' with
  | nil => exact ⟨_, .nil, rfl, rfl, honce⟩
  | pragma other once? _ ih =>
    obtain ⟨e', htail, hrepeats⟩ := ih hagrees f' once' hdir hstack honce
    exact ⟨e', .pragma other once? htail, hrepeats⟩
  | copy other plain _ ih =>
    obtain ⟨e', htail, hrepeats⟩ := ih hagrees f' once' hdir hstack honce
    exact ⟨_, .copy other plain htail, hrepeats.prepend _ _⟩
  | skip request found fresh seen _ ih =>
    obtain ⟨hhead, hrest⟩ := List.forall_mem_cons.1 hagrees
    obtain ⟨e', htail, hrepeats⟩ := ih hrest f' once' hdir hstack honce
    have hfound := hhead.trans found
    rw [← hdir] at hfound ⊢
    rw [← hstack] at fresh
    rw [← honce] at seen
    exact ⟨_, .skip request hfound fresh seen htail, hrepeats.prepend _ _⟩
  | @enter _ _ _ _ _ inner _ _ _ text request found fresh new _ _ ihBody ihTail =>
    obtain ⟨hhead, hrest⟩ := List.forall_mem_cons.1 hagrees
    obtain ⟨hbody, htail⟩ := List.forall_mem_append.1 hrest
    have hsame := text.path.same_refl
    obtain ⟨inner', hinner', hinner⟩ := ihBody hbody (f'.enter text.path) _ rfl (hstack.cons hsame)
      (honce.onceAfter hsame _)
    obtain ⟨e', htail', hrepeats⟩ := ihTail htail f' inner'.once hdir hstack hinner.once
    have hfound := hhead.trans found
    rw [← hdir] at hfound ⊢
    rw [← hstack] at fresh
    rw [← honce] at new
    refine ⟨_, .enter request hfound fresh new hinner' htail', ?_⟩
    rw [hinner.lines, hinner.dependencies]
    exact hrepeats.prepend _ _

/-- The outcome of preprocessing is the same under another resolver that resolves what was recorded
alike and knows the source text by the same path, even if it was read from another one in the same
directory. -/
theorem preprocess_replay {r s : Resolver} {limit : Nat} {defines : List Define} {source : String}
    {path path' : Path} {out : Preprocessed}
    (h : (preprocess r limit defines source path).value = .ok out)
    (hagrees : ∀ d ∈ out.dependencies, d.Agrees r s) (hdir : path'.parentDir = path.parentDir)
    (hresolved : (s.resolved path').same (r.resolved path)) :
    (preprocess s limit defines source path').value = .ok out := by
  obtain ⟨e, code, hexpansion, hinject, rfl⟩ := preprocess_ok_iff.1 h
  have hexpands : Expands r _ _ _ _ e := expand_ok_iff.1 hexpansion
  obtain ⟨e', hreplay, hrepeats⟩ := hexpands.replay hagrees (s.frame path') _ hdir
    ((Path.Alike.refl []).cons hresolved) ((Path.Alike.refl []).onceAfter hresolved _)
  have hagain : s.expansion limit source path' = .ok e' := expand_ok_iff.2 hreplay
  have hcode : e'.code = e.code := by rw [Expansion.code, Expansion.code, hrepeats.lines]
  rw [← hcode] at hinject
  exact preprocess_ok_iff.2 ⟨e', code, hagain, hinject, by rw [hrepeats.dependencies]⟩

theorem recordedBy_of_preprocess {r : Resolver} {limit : Nat} {defines : List Define}
    {source : String} {path : Path} {out : Preprocessed}
    (h : (preprocess r limit defines source path).value = .ok out) :
    ∀ d ∈ out.dependencies, d.RecordedBy r := by
  obtain ⟨e, code, hexpansion, _, rfl⟩ := preprocess_ok_iff.1 h
  have hexpands : Expands r _ _ _ _ e := expand_ok_iff.1 hexpansion
  exact hexpands.recorded

/-! ## Unchanged includes -/

namespace Dependency

/-- An include that resolves to the same contents at the same path resolves to the same text, unless
these contents are empty. -/
theorem agrees_of_path_contents {d : Dependency} {r s : Resolver} (hrecorded : d.RecordedBy r)
    (hne : ∀ t, (d.resolve r).value = some t → t.contents ≠ "")
    (hpath : (d.resolve s).value.path = (d.resolve r).value.path)
    (hcontents : (d.resolve s).value.contents = (d.resolve r).value.contents) : d.Agrees r s := by
  obtain ⟨t, ht⟩ := hrecorded.exists_text
  rw [ht] at hpath hcontents
  rw [Agrees, ht]
  cases hs : (d.resolve s).value with
  | none =>
    rw [hs] at hcontents
    exact absurd hcontents.symm (hne t ht)
  | some t' =>
    rw [hs] at hcontents hpath
    obtain ⟨path, contents⟩ := t'
    obtain rfl : contents = t.contents := hcontents
    obtain rfl : path = t.path := hpath
    rfl

/-- An unchanged include of which the path is unchanged as well resolves to the same text. -/
theorem agrees_of_unchanged {d : Dependency} {r s : Resolver} (hrecorded : d.RecordedBy r)
    (hne : ∀ t, (d.resolve r).value = some t → t.contents ≠ "")
    (hunchanged : (d.isUnchanged s).value = true)
    (hpath : (d.resolve s).value.path = (d.resolve r).value.path) : d.Agrees r s := by
  refine agrees_of_path_contents hrecorded hne hpath ?_
  rw [(isUnchanged_iff.1 hunchanged).2, hrecorded.contents_eq]

/-- What resolves to what was recorded is unchanged. -/
theorem unchanged_of_contents {d : Dependency} {r s : Resolver} (hrecorded : d.RecordedBy r)
    (hcontents : (d.resolve s).value.contents = (d.resolve r).value.contents) :
    (d.isUnchanged s).value = true := by
  rw [isUnchanged_iff, hrecorded.digest_eq, hrecorded.contents_eq]
  exact ⟨congrArg Digest.ofText hcontents, hcontents⟩

end Dependency

end ShaderBuild
