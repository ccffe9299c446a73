import PostSlots.Proofs.Dialogue.Refinement

/-!
# What is asked at all

Which questions a dialogue comes to depends on the answers. What holds of every question that can
come up, whatever is answered, holds of all that is asked in a run.

Results:
1. `Dialogue.Asks.refine`: the questions of a refined dialogue are those of its parts.
2. `Dialogue.Asks.of_mem_run`: what is asked in a run can be asked.
-/

namespace PostSlots.Dialogue

variable {α β γ δ ρ σ : Type}

/-- Every question that can come up has a property. -/
def Asks (p : α → Prop) : Dialogue α β ρ → Prop
  | done _ => True
  | ask question next => p question ∧ ∀ answer, (next answer).Asks p

namespace Asks

variable {p : α → Prop}

theorem bind {d : Dialogue α β ρ} {f : ρ → Dialogue α β σ} (hd : d.Asks p)
    (hf : ∀ result, (f result).Asks p) : (d.bind f).Asks p := by
  induction d with
  | done result => exact hf result
  | ask question next ih => exact ⟨hd.1, fun answer => ih answer (hd.2 answer)⟩

/-- The questions of a refined dialogue are those of the dialogues that its own questions lead
to. -/
theorem refine {q : γ → Prop} {answer : α → Dialogue γ δ β} {d : Dialogue α β ρ} (hd : d.Asks p)
    (hanswer : ∀ question, p question → (answer question).Asks q) : (d.refine answer).Asks q := by
  induction d with
  | done result => trivial
  | ask question next ih => exact (hanswer question hd.1).bind fun a => ih a (hd.2 a)

/-- What is asked in a run has been asked before it or can be asked. -/
theorem of_mem_run {d : Dialogue α β ρ} (hd : d.Asks p) (oracle : Oracle α β) {asked : List α}
    {question : α} (h : question ∈ (d.run oracle asked).2) : question ∈ asked ∨ p question := by
  induction d generalizing asked with
  | done result => exact .inl h
  | ask first next ih =>
    rcases ih _ (hd.2 _) h with hmem | hp
    · rcases List.mem_append.1 hmem with hmem | hmem
      · exact .inl hmem
      · exact .inr (List.mem_singleton.1 hmem ▸ hd.1)
    · exact .inr hp

end Asks

end PostSlots.Dialogue
