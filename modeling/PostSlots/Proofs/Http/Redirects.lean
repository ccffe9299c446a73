import PostSlots.Http.Client

/-!
# How often a client asks

A client asks once for a query and once more for each redirect that it follows. However servers
send it around, it stops after a few of them.

Results:
1. `Http.Client.length_follow_le`: following redirects takes one request more than redirects.
2. `Http.Client.length_fetch_le`: a query takes six requests at most.
-/

namespace PostSlots.Http.Client

variable (c : Client) (servers : Dialogue.Oracle Get Reply)

/-- Settling a query takes no more than going on to another place. -/
theorem length_settle_le {method start : String} {place : Reference}
    {redirected : Reference → Url → Exchange (Except Error Json)} {bound : Nat} {asked : List Get}
    (hasked : asked.length ≤ bound)
    (h : ∀ next url, ((redirected next url).run servers asked).2.length ≤ bound) (reply : Reply) :
    ((settle method start place redirected reply).run servers asked).2.length ≤ bound := by
  cases reply with
  | lost => exact hasked
  | answer status location body =>
    rw [settle]
    split
    · exact hasked
    · split
      · exact hasked
      · exact h _ _

/-- Following redirects takes one request more than there may be redirects. -/
theorem length_follow_le (method start : String) (left : Nat) (place : Reference)
    (asked : List Get) :
    ((c.follow method start left place).run servers asked).2.length ≤ asked.length + left + 1 := by
  induction left generalizing place asked with
  | zero =>
    -- the last reply may be a redirect, which is then not followed
    rw [follow, Dialogue.run]
    refine length_settle_le servers ?_ (fun next url => ?_) _
    · rw [List.length_append]
      exact Nat.le_refl _
    · rw [stop, Dialogue.run, List.length_append]
      exact Nat.le_refl _
  | succ left ih =>
    rw [follow, Dialogue.run]
    have hlength : (asked ++ [Get.mk place c.userAgent]).length = asked.length + 1 :=
      List.length_append
    have hasked : (asked ++ [Get.mk place c.userAgent]).length ≤ asked.length + (left + 1) + 1 := by
      omega
    refine length_settle_le servers hasked (fun next url => ?_) _
    split
    · exact hasked
    · split
      · exact hasked
      · have hnext := ih next (asked ++ [Get.mk place c.userAgent])
        omega

/-- A query takes six requests at most. -/
theorem length_fetch_le (r : Request) (asked : List Get) :
    ((c.fetch r).run servers asked).2.length ≤ asked.length + 6 := by
  unfold fetch
  dsimp only
  split
  · exact c.length_follow_le servers _ _ redirectLimit _ asked
  · exact Nat.le_add_right _ _

end PostSlots.Http.Client
