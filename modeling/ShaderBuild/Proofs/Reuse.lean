import ShaderBuild.Proofs.Soundness

/-!
Compiling the same again. Main statement: `compile_again`, by which the cache that a success leaves,
or what is read back of it if it has a stored form, serves the same call: what the expansion records
resolves as it did, and the entry that holds it is the first valid one of its key.
-/

namespace ShaderBuild

variable {fingerprint : ShaderKey → Hash128}

/-- A new entry is found behind others that are not valid. -/
theorem Cache.find_insert {cache : Cache fingerprint} {e : CacheEntry} {r : Resolver}
    (hmiss : (cache.find e.key r).value = none) (hvalid : isValid r e = true) :
    ((cache.insert e).find e.key r).value = some e.shader := by
  rw [value_find, Option.map_eq_none_iff] at hmiss
  rw [value_find, entries_insert, List.filter_append, List.find?_append, hmiss]
  simp [hvalid]

namespace Compiler

/-! ## Hits -/

/-- The cache alone answers the call: it stays as it is, nothing happens but the look-up, and
whatever the backend does is of no consequence. -/
structure ServedBy (c : Compiler) (cache : Cache fingerprint) (job : CompileJob) (shader : Shader) :
    Prop where
  value_eq : (c.compile cache job).value = (cache, .ok ⟨shader, true⟩)
  events_eq : (c.compile cache job).events = (cache.find job.key c.resolver).events
  any_backend : ∀ b, (Compiler.mk c.resolver c.depth b).compile cache job = c.compile cache job

theorem compile_of_find {c : Compiler} {cache : Cache fingerprint} {job : CompileJob}
    {shader : Shader} (h : (cache.find job.key c.resolver).value = some shader) :
    c.compile cache job =
      ⟨(cache, .ok ⟨shader, true⟩), (cache.find job.key c.resolver).events⟩ := by
  have hevents : (c.compile cache job).events = (cache.find job.key c.resolver).events := by
    rw [compile, Traced.events_bind, h]
    exact List.append_nil _
  have hvalue : (c.compile cache job).value = (cache, .ok ⟨shader, true⟩) := by
    rw [value_compile, h]
  rw [← hvalue, ← hevents]

theorem servedBy_of_find {c : Compiler} {cache : Cache fingerprint} {job : CompileJob}
    {shader : Shader} (h : (cache.find job.key c.resolver).value = some shader) :
    c.ServedBy cache job shader := by
  have hcompile := compile_of_find h
  refine ⟨by rw [hcompile], by rw [hcompile], fun b => ?_⟩
  rw [hcompile]
  exact compile_of_find h

/-! ## After a success -/

variable {c : Compiler} {job : CompileJob}

/-- Everything that was just recorded is unchanged. -/
theorem isValid_of_fresh {e : CacheEntry} (h : (c.compileFresh job).value = .ok e) :
    Cache.isValid c.resolver e = true := by
  apply List.all_eq_true.2
  intro d hd
  exact Dependency.unchanged_of_contents (recordedBy_of_fresh h d hd) rfl

/-- The cache that a success leaves has the shader, whether it was there before or not. -/
theorem find_of_success {cache cache' : Cache fingerprint} {shader : Shader} {hit : Bool}
    (h : (c.compile cache job).value = (cache', .ok ⟨shader, hit⟩)) :
    (cache'.find job.key c.resolver).value = some shader := by
  rcases c.compile_cases cache job with ⟨_, hfind, hvalue⟩ | ⟨_, _, _, hvalue⟩ |
    ⟨_, _, hvalue⟩ | ⟨e, hfind, hfresh, hvalue⟩
  · rw [hvalue] at h
    cases h
    exact hfind
  · rw [hvalue] at h
    cases h
  · rw [hvalue] at h
    cases h
  · rw [hvalue] at h
    cases h
    have hkey := key_of_fresh hfresh
    rw [← hkey] at hfind ⊢
    exact Cache.find_insert hfind (isValid_of_fresh hfresh)

/-- After a success, the same call is served by the cache that it left. That cache has a stored form
exactly if the directories in it are texts, and what is read back of it serves the call too. -/
theorem compile_again (c : Compiler) (cache cache' : Cache fingerprint) (job : CompileJob)
    (shader : Shader) (hit : Bool) (h : (c.compile cache job).value = (cache', .ok ⟨shader, hit⟩)) :
    c.ServedBy cache' job shader ∧
    ((∃ b, cache'.serialize = .ok b) ↔ cache'.DirsAreTexts) ∧
    ∀ b, cache'.serialize = .ok b → cache'.InWords →
      ∃ d : Cache fingerprint, Cache.deserialize b = .ok d ∧ d.entries = cache'.entries ∧
        c.ServedBy d job shader := by
  have hserved := servedBy_of_find (find_of_success h)
  exact ⟨hserved, Cache.exists_serialize_iff, fun b hb hwords =>
    ⟨cache', Cache.deserialize_serialize hb hwords, rfl, hserved⟩⟩

/-! ## A header that is included twice -/

open Session

/-- The header includes another one, and asks to be read once only. -/
def headers : MemoryFiles :=
  .ofTexts [("lib/x", "#pragma once\n#include \"y\"\n"), ("lib/y", "1\n")]

def visiting : CompileJob := ⟨"#include <x>\n#include <x>\n", ⟨"m"⟩, .ofStage .fragment⟩

/-- What was made of the same text when the header was another one. -/
def outdated : CacheEntry :=
  ⟨visiting.key, [⟨"x", ⟨""⟩, .standard, ⟨List.replicate 32 0, rfl⟩, "0\n"⟩],
    ⟨.fragment, .glsl, "m", []⟩⟩

def before : ShaderCache := Cache.empty.insert outdated

def overHeaders : Compiler := (searching ["lib"]).compiler headers

theorem compile_again_beside_outdated : ∃ (after : ShaderCache) (shader : Shader),
    (overHeaders.compile before visiting).value = (after, .ok ⟨shader, false⟩) ∧ after.InWords ∧
      overHeaders.ServedBy after visiting shader ∧
      ∃ (b : Bytes) (d : ShaderCache), after.serialize = .ok b ∧ Cache.deserialize b = .ok d ∧
        d.entries = after.entries ∧ overHeaders.ServedBy d visiting shader := by
  have hmiss : (before.find visiting.key overHeaders.resolver).value = none := by
    rw [Cache.value_find]
    decide +kernel
  have hmakes : makes (searching ["lib"]) headers visiting (fun e =>
      ((Metadata.ofEntries [outdated, e]).json?.any fun text =>
        4 * text.length < Cache.wordLimit) && e.shader.code.length < Cache.wordLimit) = true := by
    decide +kernel
  obtain ⟨e, hfresh, hsizes⟩ := makes_iff.1 hmakes
  simp only [Bool.and_eq_true, decide_eq_true_eq] at hsizes
  obtain ⟨hmetadata, hcode⟩ := hsizes
  have hsuccess : (overHeaders.compile before visiting).value =
      (before.insert e, .ok ⟨e.shader, false⟩) := by
    rw [value_compile, hmiss, overHeaders, hfresh]
  obtain ⟨json, hjson, hlength⟩ := (Option.any_eq_true _ _).1 hmetadata
  have hwords : (before.insert e).InWords := by
    refine Cache.inWords_of_entries (Cache.entries_insert _ _) (fun text htext => ?_) ?_
    · obtain rfl : json = text := Option.some.inj (hjson.symm.trans htext)
      exact of_decide_eq_true hlength
    · simpa [Cache.codeOf, before, outdated] using hcode
  obtain ⟨hserved, -, hread⟩ := compile_again overHeaders before _ visiting _ _ hsuccess
  obtain ⟨b, hb⟩ : ∃ b, (before.insert e).serialize = .ok b :=
    ⟨_, Cache.serialize_ok_iff.2 ⟨_, congrArg (Option.map String.ofList) hjson, rfl⟩⟩
  obtain ⟨d, hd⟩ := hread b hb hwords
  exact ⟨_, _, hsuccess, hwords, hserved, b, d, hb, hd⟩

/-! ## A source in a directory whose name is no text -/

def strayedJob : CompileJob :=
  ⟨"#include \"x\"\n", ⟨[0xFF, Path.slash, 0x6D]⟩, .ofStage .fragment⟩

/-- The header beside the source. -/
def strayedHeader : MemoryFiles := MemoryFiles.empty.insert ⟨[0xFF, Path.slash, 0x78]⟩ [0x0A]

def overStrayed : Compiler := (searching []).compiler strayedHeader

/-- The cache that a success leaves need not have a stored form. -/
theorem success_without_stored_form : ∃ (after : ShaderCache) (shader : Shader),
    (overStrayed.compile Cache.empty strayedJob).value = (after, .ok ⟨shader, false⟩) ∧
      after.InWords ∧ after.serialize = .error Cache.notEncodable := by
  have hmakes : makes (searching []) strayedHeader strayedJob (fun e =>
      (Metadata.ofEntries [e]).json?.isNone && e.shader.code.length < Cache.wordLimit) = true := by
    decide +kernel
  obtain ⟨e, hfresh, hentry⟩ := makes_iff.1 hmakes
  simp only [Bool.and_eq_true, decide_eq_true_eq, Option.isNone_iff_eq_none] at hentry
  obtain ⟨hnone, hcode⟩ := hentry
  have hsuccess : (overStrayed.compile (Cache.empty : ShaderCache) strayedJob).value =
      (Cache.empty.insert e, .ok ⟨e.shader, false⟩) := by
    rw [value_compile, Cache.find_empty, overStrayed, hfresh]
  have htextless : (Cache.empty.insert e : ShaderCache).metadataText? = none :=
    congrArg (Option.map String.ofList) hnone
  refine ⟨_, _, hsuccess, ⟨fun text htext => ?_, ?_⟩, ?_⟩
  · rw [htextless] at htext
    cases htext
  · simpa [Cache.region] using hcode
  · rw [Cache.serialize, htextless]

end Compiler

end ShaderBuild
