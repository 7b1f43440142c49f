import ShaderBuild.Proofs.IncludeGraph
import ShaderBuild.Proofs.Resumption

/-!
What the limit on the depth of includes decides. An expansion under a greater limit takes the same
turns, up to the one at which the smaller limit stops it. Main statement: `preprocess_of_le_limit`,
by which a greater limit changes nothing unless the smaller one is exceeded.
-/

namespace ShaderBuild

open Relation (ReflTransGen)

variable {r : Resolver} {limit limit' : Nat}

/-! ## Turns under a greater limit -/

/-- A text asks for the same, or for an include that the smaller limit forbids. -/
theorem OpenText.Asks.of_le_limit {stack once : List Path} {t : OpenText} {turn : Turn}
    (hle : limit ≤ limit') (h : t.Asks r limit stack once turn) : t.Asks r limit' stack once turn ∨
      ∃ name, turn = .stop (.tooDeep name t.file t.number limit) := by
  cases h with
  | leave finished => exact .inl (.leave finished)
  | drop more other once? => exact .inl (.drop more other once?)
  | copy more other plain => exact .inl (.copy more other plain)
  | malformed more malformed => exact .inl (.malformed more malformed)
  | notFound more request missing => exact .inl (.notFound more request missing)
  | recursive meets hopen => exact .inl (.recursive meets hopen)
  | skip meets fresh seen => exact .inl (.skip meets fresh seen)
  | tooDeep _ _ _ _ => exact .inr ⟨_, rfl⟩
  | enter meets fresh new room => exact .inl (.enter meets fresh new (Nat.le_trans room hle))

namespace Snapshot

variable {s s' : Snapshot}

theorem next_of_le_limit (hle : limit ≤ limit') (h : s.next r limit = some s') :
    s.next r limit' = some s' := by
  rw [next] at h
  split at h
  · cases h
  rename_i t outer hlevels
  rcases (t.asks_turn r limit s.stack s.sofar.once).of_le_limit hle with hasks | ⟨name, hdeep⟩
  · rw [next_eq hlevels hasks, h]
  · rw [hdeep] at h
    cases h

theorem Leads.of_le_limit (hle : limit ≤ limit') (h : Leads r limit s s') : Leads r limit' s s' :=
  ReflTransGen.mono (fun _ _ hnext => next_of_le_limit hle hnext) _ _ h

end Snapshot

/-! ## Expansions under a greater limit -/

theorem expansion_of_le_limit (hle : limit ≤ limit') (source : String) (path : Path) :
    (∃ name file number, r.expansion limit source path = .error (.tooDeep name file number limit)) ∨
      r.expansion limit' source path = r.expansion limit source path := by
  have hstart := Snapshot.outcome_start r limit' source path
  cases hexpansion : r.expansion limit source path with
  | ok e =>
    obtain ⟨begun, hleads⟩ := Snapshot.exists_finished hexpansion
    rw [← hstart, ← (hleads.of_le_limit hle).outcome_eq]
    exact .inr rfl
  | error e =>
    obtain ⟨s, hleads, hstop⟩ := Snapshot.exists_stopped hexpansion
    obtain ⟨t, outer, hlevels, hasks⟩ := Snapshot.asks_of_turn hstop
    rcases hasks.of_le_limit hle with hasks' | ⟨name, hdeep⟩
    · have hwide := hleads.of_le_limit hle
      have hdepth : s.stack.length ≤ limit' + 1 :=
        hwide.invariant (fun _ _ hs hstep => hstep.length_stack hs) (Nat.le_add_left 1 limit')
      rw [← hstart, ← hwide.outcome_eq,
        Snapshot.outcome_stop (Snapshot.turn_eq hlevels hasks') hdepth]
      exact .inr rfl
    · cases hdeep
      exact .inl ⟨_, _, _, rfl⟩

/-- A greater limit on the depth of includes changes nothing about the result, unless the smaller
one is exceeded. -/
theorem preprocess_of_le_limit (r : Resolver) (limit limit' : Nat) (hle : limit ≤ limit')
    (defines : List Define) (source : String) (path : Path) :
    (∃ name file number, (preprocess r limit defines source path).value =
      .error (.tooDeep name file number limit)) ∨ (preprocess r limit' defines source path).value =
        (preprocess r limit defines source path).value := by
  rw [value_preprocess, value_preprocess]
  rcases expansion_of_le_limit hle source path with ⟨name, file, number, hdeep⟩ | hsame
  · rw [hdeep]
    exact .inl ⟨name, file, number, rfl⟩
  · rw [hsame]
    exact .inr rfl

namespace IncludeGraph

/-- Two levels are enough for a file that is included by an included file. -/
theorem preprocess_of_le_limit_diamond : 2 ≤ 64 ∧ (diamond.preprocess 2).isOk = true ∧
    diamond.preprocess 64 = diamond.preprocess 2 := by
  have hle : 2 ≤ 64 := by decide
  have hok : (diamond.preprocess 2).isOk = true := by decide +kernel
  rcases preprocess_of_le_limit diamond.resolver 2 64 hle [] diamond.source diamond.path with
    ⟨name, file, number, hdeep⟩ | hsame
  · rw [preprocess, hdeep] at hok
    cases hok
  · exact ⟨hle, hok, hsame⟩

example : (diamond.preprocess 1).isOk = false := by decide +kernel

end IncludeGraph

end ShaderBuild
