/-!
# Dialogues

A computation that asks questions of the outside and goes on with the answers. What it asks can
depend on earlier answers only, so that a dialogue shows how many questions there can be and in
which order. `Dialogue.run` answers them by a function of all questions asked so far.
-/

namespace PostSlots

/-- A computation of a `ρ` that asks questions `α` and receives answers `β`. -/
inductive Dialogue (α β ρ : Type) where
  | done (result : ρ)
  | ask (question : α) (next : β → Dialogue α β ρ)

namespace Dialogue

variable {α β ρ σ : Type}

def bind : Dialogue α β ρ → (ρ → Dialogue α β σ) → Dialogue α β σ
  | done result, f => f result
  | ask question next, f => ask question fun answer => (next answer).bind f

instance : Monad (Dialogue α β) where
  pure := done
  bind := bind

/-- Answers that depend on the questions so far, the present one last. -/
abbrev Oracle (α β : Type) := List α → β

/-- Runs a dialogue after some questions; the result comes with all questions asked. -/
def run (oracle : Oracle α β) : Dialogue α β ρ → List α → ρ × List α
  | done result, asked => (result, asked)
  | ask question next, asked =>
    let asked := asked ++ [question]
    (next (oracle asked)).run oracle asked

/-- Runs a dialogue whose questions are answered by actions. -/
def perform {m : Type → Type} [Monad m] (answer : α → m β) : Dialogue α β ρ → m ρ
  | done result => pure result
  | ask question next => do (next (← answer question)).perform answer

/-- Puts a dialogue of its own in the place of each question. -/
def refine {γ δ : Type} (answer : α → Dialogue γ δ β) : Dialogue α β ρ → Dialogue γ δ ρ
  | done result => done result
  | ask question next => (answer question).bind fun a => (next a).refine answer

theorem run_bind (oracle : Oracle α β) (d : Dialogue α β ρ) (f : ρ → Dialogue α β σ)
    (asked : List α) :
    (d.bind f).run oracle asked = (f (d.run oracle asked).1).run oracle (d.run oracle asked).2 := by
  induction d generalizing asked with
  | done result => rfl
  | ask question next ih => exact ih _ _

/-- Questions of the past stay in front, and what is asked behind them depends on them only through
the answers. -/
theorem run_append (oracle : Oracle α β) (d : Dialogue α β ρ) (past asked : List α) :
    d.run oracle (past ++ asked) =
      let later := d.run (fun questions => oracle (past ++ questions)) asked
      (later.1, past ++ later.2) := by
  induction d generalizing asked with
  | done result => rfl
  | ask question next ih =>
    rw [run, run, List.append_assoc]
    exact ih _ _

end Dialogue

end PostSlots
