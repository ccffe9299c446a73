import Mathlib.Algebra.GroupWithZero.Nat
import Mathlib.Data.List.Forall2
import PostSlots.Proofs.Binding.Idempotent

/-!
# What a report counts

A binding counts slots while it changes the fragment that it walks through, and what it takes out
of the fragment is not counted. Its report can be read off the result: the slots that were visited
are the marked elements that are left, in the same order. Their keys can be read off them as well,
unless the marker is an attribute that records are written into.

Results:
1. `Slot.report_eq`: the counts of a report as sums over the slots that were visited.
2. `Node.slots_rewrite`: the marked elements of a rewritten node are the slots that were reached.
3. `Fragment.report_of_bound`: the report of a binding by the fragment that it leaves.
-/

namespace PostSlots

/-- The keys that the marker of an element lists. -/
def Element.keys (e : Element) (marker : String) : List String :=
  ((e.attr? marker).map Slot.parseKeys).getD []

namespace Slot

variable (R : Record)

theorem report_eq (slots : List Slot) :
    report R slots = ⟨slots.length, (slots.map fun s => s.keys.length).sum,
      (slots.map fun s => s.misses R).sum⟩ := by
  induction slots with
  | nil => rfl
  | cons s slots ih => simp [report, ih, BindReport.add, Nat.add_comm]

/-- The marker of a slot stays, though its value may not. -/
theorem contains_boundAttrs (s : Slot) {marker : String} {attrs : Attributes}
    (h : attrs.contains marker = true) : (s.boundAttrs R attrs).contains marker = true := by
  have hinsert (name value : String) : (attrs.insert name value).contains marker = true := by
    rw [FieldMap.contains, FieldMap.get?_insert]
    split
    · rfl
    · exact h
  unfold boundAttrs
  cases s.lastAddress? R with
  | none => cases s.role <;> exact h
  | some address =>
    cases s.role with
    | image => exact hinsert "src" address
    | link => exact hinsert "href" address
    | text => exact h

/-- An element that a binding has left is what there is to see of a slot. -/
def LeftBy (marker : String) (e : Element) (s : Slot) : Prop :=
  IsUnwritten marker → ofElement? e marker = some s

theorem LeftBy.keys_eq {marker : String} {e : Element} {s : Slot} (h : LeftBy marker e s)
    (hmarker : IsUnwritten marker) : e.keys marker = s.keys := by
  obtain ⟨keys, hkeys, rfl⟩ := Option.map_eq_some_iff.1 (h hmarker)
  rw [Element.keys, hkeys]
  rfl

/-- What is counted at every slot that was reached can be counted at the elements that are left. -/
theorem sum_eq_of_leftBy {marker : String} {es : List Element} {ss : List Slot} {m : Element → Nat}
    {n : Slot → Nat} (h : List.Forall₂ (LeftBy marker) es ss)
    (hcount : ∀ e s, LeftBy marker e s → n s = m e) : (ss.map n).sum = (es.map m).sum := by
  have hmap : List.Forall₂ (· = ·) (ss.map n) (es.map m) := by
    rw [List.forall₂_map_left_iff, List.forall₂_map_right_iff]
    exact h.flip.imp fun s e hleft => hcount e s hleft
  rw [List.forall₂_eq_eq_eq] at hmap
  rw [hmap]

end Slot

/-! ## Marked elements before and after -/

namespace Node

variable (R : Record) (marker : String)

mutual
/-- The marked elements of a rewritten node are the slots that were reached. -/
theorem slots_rewrite : (n : Node) →
    List.Forall₂ (Slot.LeftBy marker) ((n.rewrite R marker).marked marker) (n.reached R marker)
  | .text _ => .nil
  | .raw _ => .nil
  | .element tag attrs children => by
    have hchildren := slots_rewriteAll children
    rw [rewrite, reached]
    cases hslot : Slot.ofAttrs? marker attrs with
    | none =>
      have hcontains : attrs.contains marker = false := by rw [Slot.contains_eq, hslot]; rfl
      rw [marked, hcontains]
      exact hchildren
    | some s =>
      have hcontains : (s.boundAttrs R attrs).contains marker = true :=
        s.contains_boundAttrs R (by rw [Slot.contains_eq, hslot]; rfl)
      dsimp only
      rw [marked, if_pos hcontains]
      refine .cons (fun h => (s.ofAttrs?_boundAttrs R h attrs).trans hslot) ?_
      cases hlast : s.lastContent? R with
      | none => exact hchildren
      | some node =>
        -- nothing below the new child is marked, and nothing below the old ones was reached
        cases node with
        | element _ _ _ => exact absurd (Slot.element?_lastContent hlast) (by simp [element?])
        | text _ => exact .nil
        | raw _ => exact .nil

theorem slots_rewriteAll : (ns : List Node) →
    List.Forall₂ (Slot.LeftBy marker) (markedAll marker (rewriteAll R marker ns))
      (reachedAll R marker ns)
  | [] => .nil
  | n :: ns => List.rel_append (slots_rewrite n) (slots_rewriteAll ns)
end

mutual
/-- A slot that is reached was marked before. -/
theorem length_reached_le : (n : Node) → (n.reached R marker).length ≤ (n.marked marker).length
  | .text _ => Nat.le_refl 0
  | .raw _ => Nat.le_refl 0
  | .element tag attrs children => by
    have hchildren := length_reachedAll_le children
    rw [reached, marked, Slot.contains_eq]
    cases Slot.ofAttrs? marker attrs with
    | none => exact hchildren
    | some s =>
      refine Nat.succ_le_succ ?_
      split
      · exact Nat.zero_le _
      · exact hchildren

theorem length_reachedAll_le : (ns : List Node) →
    (reachedAll R marker ns).length ≤ (markedAll marker ns).length
  | [] => Nat.le_refl 0
  | n :: ns => by
    rw [reachedAll, markedAll, List.length_append, List.length_append]
    exact Nat.add_le_add (length_reached_le n) (length_reachedAll_le ns)
end

end Node

namespace Fragment

variable (f : Fragment) (marker : String) (R : Record)

/-- A report counts the marked elements of the bound fragment, which are no more than there were,
and their keys, with those that name nothing. -/
theorem report_of_bound :
    let bound := (f.bind marker R).1
    let report := (f.bind marker R).2
    report.slots = (bound.marked marker).length ∧
      report.slots ≤ (f.marked marker).length ∧
      (marker ≠ "src" → marker ≠ "href" →
        report.writes = ((bound.marked marker).map fun e => (e.keys marker).length).sum ∧
        report.misses = ((bound.marked marker).map fun e =>
          (e.keys marker).countP fun key => R.resolve key = none).sum) := by
  intro bound report
  have hslots : List.Forall₂ (Slot.LeftBy marker) (bound.marked marker) (f.reached marker R) := by
    rw [show bound = f.rewrite marker R from f.bind_fst marker R]
    exact Node.slots_rewriteAll R marker f
  have hreport : report = ⟨(f.reached marker R).length,
      ((f.reached marker R).map fun s => s.keys.length).sum,
      ((f.reached marker R).map fun s => s.misses R).sum⟩ := by
    rw [show report = Slot.report R (f.reached marker R) from
      congrArg Prod.snd (f.bind_last_write_wins marker R), Slot.report_eq]
  rw [hreport]
  refine ⟨hslots.length_eq.symm, Node.length_reachedAll_le R marker f, fun hsrc hhref => ?_⟩
  have hmarker : IsUnwritten marker := ⟨hsrc, hhref⟩
  refine ⟨Slot.sum_eq_of_leftBy hslots fun e s h => ?_, Slot.sum_eq_of_leftBy hslots fun e s h => ?_⟩
  · rw [h.keys_eq hmarker]
  · rw [h.keys_eq hmarker, Slot.misses]
    exact List.countP_congr fun key _ => by simp

/-- A slot in a slot that is overwritten does not count, one in a link does. -/
theorem report_of_bound_nested :
    let f : Fragment := [.element "p" (.ofList [("data-key", "title")])
      [.element "b" (.ofList [("data-key", "url")]) []],
      .element "a" (.ofList [("data-key", "url"), ("data-role", "link")])
        [.element "i" (.ofList [("data-key", "x, y")]) []]]
    let R : Record := .ofFields [("url", .string "https://a.test/")]
    let bound := (f.bind "data-key" R).1
    (f.marked "data-key").length = 4 ∧ (f.bind "data-key" R).2 = ⟨3, 4, 3⟩ ∧
      (bound.marked "data-key").length = 3 ∧
      ((bound.marked "data-key").map fun e => (e.keys "data-key").length).sum = 4 ∧
      ((bound.marked "data-key").map fun e =>
        (e.keys "data-key").countP fun key => R.resolve key = none).sum = 3 := by
  intro f R bound
  have hreport : (f.bind "data-key" R).2 = ⟨3, 4, 3⟩ := by decide +kernel
  obtain ⟨hslots, _, hkeys⟩ := f.report_of_bound "data-key" R
  obtain ⟨hwrites, hmisses⟩ := hkeys (by decide) (by decide)
  rw [hreport] at hslots hwrites hmisses
  exact ⟨by decide, hreport, hslots.symm, hwrites.symm, hmisses.symm⟩

end Fragment

end PostSlots
