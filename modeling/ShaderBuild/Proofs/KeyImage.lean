import ShaderBuild.Cache.Image
import ShaderBuild.Proofs.LittleEndian

/-!
The bytes that the fingerprint of a key is taken of. Main statement: `image_determines_key`, by
which keys with the same bytes are equal, so that two keys share a fingerprint only if the hash
itself collides.
-/

namespace ShaderBuild

theorem Stage.shortName_injective {s t : Stage} (h : s.shortName = t.shortName) : s = t := by
  revert h
  cases s <;> cases t <;> decide

namespace ShaderKey

/-! ## Fields -/

/-- The length of the text can be put in front of it. -/
def IsMeasured (s : String) : Prop := (Bytes.ofText s).length < Cache.wordLimit

theorem isMeasured_shortName (s : Stage) : IsMeasured s.shortName := by
  unfold IsMeasured
  cases s <;> decide

/-- A field says itself where it ends, whatever stands behind. -/
theorem field_append_inj {s t : String} (hs : IsMeasured s) (ht : IsMeasured t) {rest rest' : Bytes}
    (h : field s ++ rest = field t ++ rest') : s = t ∧ rest = rest' := by
  simp only [field, List.append_assoc] at h
  obtain ⟨hfront, hbehind⟩ := List.append_inj h (by simp)
  have hlength : (Bytes.ofText s).length = (Bytes.ofText t).length := by
    have hcount : (Bytes.littleEndian 8 (Bytes.ofText s).length).toNat = (Bytes.ofText s).length :=
      Bytes.toNat_littleEndian hs
    rw [← hcount, hfront]
    exact Bytes.toNat_littleEndian ht
  obtain ⟨htext, hrest⟩ := List.append_inj hbehind hlength
  exact ⟨Bytes.ofText_injective htext, hrest⟩

theorem field_ne_nil (s : String) : field s ≠ [] := by
  intro h
  have hlength := congrArg List.length h
  simp [field] at hlength

theorem flag_injective {b c : Bool} (h : flag b = flag c) : b = c := by
  revert h
  cases b <;> cases c <;> decide

/-! ## Defines -/

def definesImage (defines : List (String × String)) : Bytes :=
  defines.flatMap fun d => field d.1 ++ field d.2

def AreMeasured (defines : List (String × String)) : Prop :=
  ∀ d ∈ defines, IsMeasured d.1 ∧ IsMeasured d.2

/-- The defines are not counted; they go on to the end. -/
theorem definesImage_inj {ds es : List (String × String)} (hds : AreMeasured ds)
    (hes : AreMeasured es) (h : definesImage ds = definesImage es) : ds = es := by
  induction ds generalizing es with
  | nil =>
    cases es with
    | nil => rfl
    | cons e es =>
      rw [definesImage, definesImage, List.flatMap_nil, List.flatMap_cons,
        List.append_assoc, List.nil_eq, List.append_eq_nil_iff] at h
      exact absurd h.1 (field_ne_nil e.1)
  | cons d ds ih =>
    cases es with
    | nil =>
      rw [definesImage, definesImage, List.flatMap_nil, List.flatMap_cons, List.append_assoc,
        List.append_eq_nil_iff] at h
      exact absurd h.1 (field_ne_nil d.1)
    | cons e es =>
      obtain ⟨hd, hds⟩ := List.forall_mem_cons.1 hds
      obtain ⟨he, hes⟩ := List.forall_mem_cons.1 hes
      simp only [definesImage, List.flatMap_cons, List.append_assoc] at h
      obtain ⟨hname, h⟩ := field_append_inj hd.1 he.1 h
      obtain ⟨hvalue, h⟩ := field_append_inj hd.2 he.2 h
      rw [Prod.ext hname hvalue, ih hds hes h]

/-! ## Keys -/

/-- Every text of the key takes fewer than 2^64 bytes. -/
structure Measured (k : ShaderKey) : Prop where
  source : IsMeasured k.source
  identifier : IsMeasured k.identifier
  target : IsMeasured k.options.target
  defines : AreMeasured k.options.defines

theorem image_eq (k : ShaderKey) : k.image =
    field k.source ++
    (field k.identifier ++
    (field k.options.stage.shortName ++
    (field k.options.target ++
    (flag k.options.debugInfo :: flag k.options.optimize :: definesImage k.options.defines)))) := by
  simp [image, definesImage]

theorem image_inj {k k' : ShaderKey} (hk : k.Measured) (hk' : k'.Measured)
    (h : k.image = k'.image) : k = k' := by
  rw [image_eq, image_eq] at h
  obtain ⟨hsource, h⟩ := field_append_inj hk.source hk'.source h
  obtain ⟨hidentifier, h⟩ := field_append_inj hk.identifier hk'.identifier h
  obtain ⟨hstage, h⟩ := field_append_inj (isMeasured_shortName _) (isMeasured_shortName _) h
  obtain ⟨htarget, h⟩ := field_append_inj hk.target hk'.target h
  obtain ⟨hdebug, h⟩ := List.cons_eq_cons.1 h
  obtain ⟨hoptimize, h⟩ := List.cons_eq_cons.1 h
  have hdefines := definesImage_inj hk.defines hk'.defines h
  obtain ⟨source, identifier, stage, target, debugInfo, optimize, defines⟩ := k
  obtain ⟨source', identifier', stage', target', debugInfo', optimize', defines'⟩ := k'
  obtain rfl := Stage.shortName_injective hstage
  obtain rfl := flag_injective hdebug
  obtain rfl := flag_injective hoptimize
  cases hsource
  cases hidentifier
  cases htarget
  cases hdefines
  rfl

/-- Two keys whose texts can be measured have the same bytes only if they are equal. So they share a
fingerprint exactly if they are equal or their bytes differ and the hash takes both to one value. -/
theorem image_determines_key {k k' : ShaderKey} (hk : k.Measured) (hk' : k'.Measured) :
    (k.image = k'.image ↔ k = k') ∧
      (k.fingerprint = k'.fingerprint ↔
        k = k' ∨ k.image ≠ k'.image ∧ Xxh3.hash k.image = Xxh3.hash k'.image) := by
  have himage : k.image = k'.image ↔ k = k' := ⟨image_inj hk hk', congrArg image⟩
  refine ⟨himage, ?_⟩
  constructor
  · intro h
    by_cases heq : k = k'
    · exact .inl heq
    · exact .inr ⟨fun h => heq (himage.1 h), h⟩
  · rintro (rfl | ⟨_, h⟩)
    · rfl
    · exact h

namespace KeyImage

def keyWith (defines : List (String × String)) : ShaderKey :=
  ⟨"ab", "c", ⟨.vertex, "", false, true, defines⟩⟩

/-- A name and a value that are empty. -/
def counted : ShaderKey := keyWith [("A", "1"), ("", "")]

/-- A value that goes on like the lengths of two empty texts. -/
def imitating : ShaderKey :=
  keyWith [("A", "1" ++ String.ofList (List.replicate 16 (Char.ofNat 0)))]

theorem image_determines_key_imitating :
    counted.Measured ∧ imitating.Measured ∧ counted.image.length = imitating.image.length ∧
      counted.image ≠ imitating.image := by
  have hcounted : counted.Measured := by
    constructor <;> simp only [AreMeasured, IsMeasured] <;> decide
  have himitating : imitating.Measured := by
    constructor <;> simp only [AreMeasured, IsMeasured] <;> decide
  have hkeys : counted ≠ imitating := by decide
  exact ⟨hcounted, himitating, by decide, mt (image_determines_key hcounted himitating).1.1 hkeys⟩

end KeyImage

end ShaderKey

end ShaderBuild
