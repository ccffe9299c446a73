import Mathlib.Data.List.Induction
import PostSlots.Dialogue

/-!
# Questions that lead to questions

A dialogue is refined by a dialogue for each of its questions. Whoever answers the questions of the
refined dialogue also answers those of the first one: its answer to a question is what the dialogue
for that question comes to, after the dialogues for the questions before it.

Results:
1. `Dialogue.refine_bind`: dialogues one after the other are refined one after the other.
2. `Dialogue.run_refine`: a refined dialogue runs like the first one with these answers.
3. `Dialogue.length_served_le`: how much is asked for a number of questions.
-/

namespace PostSlots.Dialogue

variable {α β γ δ ρ σ τ : Type}

theorem bind_assoc (d : Dialogue α β ρ) (f : ρ → Dialogue α β σ) (g : σ → Dialogue α β τ) :
    (d.bind f).bind g = d.bind fun result => (f result).bind g := by
  induction d with
  | done result => rfl
  | ask question next ih => exact congrArg (ask question) (funext ih)

variable (answer : α → Dialogue γ δ β) (oracle : Oracle γ δ)

/-- What a refined dialogue goes on with is refined as well. -/
theorem refine_bind (d : Dialogue α β ρ) (f : ρ → Dialogue α β σ) :
    (d.bind f).refine answer = (d.refine answer).bind fun result => (f result).refine answer := by
  induction d with
  | done result => rfl
  | ask question next ih =>
    rw [bind, refine, refine, bind_assoc]
    exact congrArg (Dialogue.bind (answer question)) (funext ih)

/-- All that has been asked when some questions are answered, one after the other. -/
def served (asked : List γ) (questions : List α) : List γ :=
  questions.foldl (fun asked question => ((answer question).run oracle asked).2) asked

/-- The answers that dialogues come to. Where nothing is asked, any answer will do. -/
def through (nothing : β) (asked : List γ) : Oracle α β := fun questions =>
  match questions.getLast? with
  | none => nothing
  | some question =>
    ((answer question).run oracle (served answer oracle asked questions.dropLast)).1

theorem served_concat (asked : List γ) (questions : List α) (question : α) :
    served answer oracle asked (questions ++ [question]) =
      ((answer question).run oracle (served answer oracle asked questions)).2 := by
  rw [served, List.foldl_append]
  rfl

theorem through_concat (nothing : β) (asked : List γ) (questions : List α) (question : α) :
    through answer oracle nothing asked (questions ++ [question]) =
      ((answer question).run oracle (served answer oracle asked questions)).1 := by
  rw [through, List.getLast?_concat, List.dropLast_concat]

/-- A refined dialogue runs like the first one with the answers that dialogues come to, also where
it goes on after some questions. -/
theorem run_refine_served (nothing : β) (d : Dialogue α β ρ) (asked : List γ) (past : List α) :
    (d.refine answer).run oracle (served answer oracle asked past) =
      let outer := d.run (through answer oracle nothing asked) past
      (outer.1, served answer oracle asked outer.2) := by
  induction d generalizing past with
  | done result => rfl
  | ask question next ih =>
    rw [refine, run_bind, ← served_concat, run, through_concat]
    exact ih _ _

theorem run_refine (nothing : β) (d : Dialogue α β ρ) (asked : List γ) :
    (d.refine answer).run oracle asked =
      let outer := d.run (through answer oracle nothing asked) []
      (outer.1, served answer oracle asked outer.2) :=
  run_refine_served answer oracle nothing d asked []

/-- How much is asked for a number of questions, if there is a limit for each of them. -/
theorem length_served_le {limit : Nat}
    (h : ∀ question asked, ((answer question).run oracle asked).2.length ≤ asked.length + limit)
    (asked : List γ) (questions : List α) :
    (served answer oracle asked questions).length ≤ asked.length + limit * questions.length := by
  induction questions using List.reverseRecOn with
  | nil => exact Nat.le_refl _
  | append_singleton questions question ih =>
    rw [served_concat, List.length_append, List.length_singleton, Nat.mul_succ]
    have hstep := h question (served answer oracle asked questions)
    omega

end PostSlots.Dialogue
