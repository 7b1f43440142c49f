import ShaderBuild.Text.Utf8

/-!
Bytes as a text, whatever they are.
-/

namespace ShaderBuild.Text

/-- The text in `b` with a replacement character for every sequence that is not UTF-8. -/
def lossyFrom : (fuel : Nat) → (b : Bytes) → String
  | 0, _ => ""
  | fuel + 1, b =>
    match Bytes.text? b with
    | some s => s
    | none =>
      match Utf8Fault.first? b with
      | none => ""
      | some fault =>
        let good := (Bytes.text? (b.take fault.valid)).getD ""
        let rest := match fault.wrong with
          | some n => b.drop (fault.valid + n)
          | none => []
        good ++ "\uFFFD" ++ lossyFrom fuel rest

def lossy (b : Bytes) : String := lossyFrom (b.length + 1) b

theorem lossy_of_text? {b : Bytes} {s : String} (h : Bytes.text? b = some s) : lossy b = s := by
  rw [lossy, lossyFrom, h]

@[simp] theorem lossy_ofText (s : String) : lossy (Bytes.ofText s) = s :=
  lossy_of_text? (Bytes.text?_ofText s)

end ShaderBuild.Text
