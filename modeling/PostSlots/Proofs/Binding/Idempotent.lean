import PostSlots.Proofs.Binding.LastWrite

/-!
# Binding twice

A bound fragment is another tree than its template: slots have lost what stood in them, others have
gained an attribute. Binding the same record to it again changes nothing more. Records are written
into `src` and `href` only, so that a slot that is marked by any other attribute keeps its keys and
its role, and the slots that are left are those that were visited.

Results:
1. `Slot.ofAttrs?_boundAttrs`: the attributes of a bound slot make the same slot.
2. `Node.rewrite_rewrite`: a rewritten node is in its final state.
3. `Node.reached_rewrite`: the slots that are left are those that were reached.
4. `Fragment.bind_idempotent`: a second binding leaves the fragment and reports the same.
-/

namespace PostSlots

/-- An attribute that no role writes addresses into. -/
def IsUnwritten (name : String) : Prop :=
  name ≠ "src" ∧ name ≠ "href"

theorem Role.get?_setAddress_of_isUnwritten {name : String} (h : IsUnwritten name) (role : Role)
    (attrs : Attributes) (address : Option String) :
    (role.setAddress attrs address).get? name = attrs.get? name := by
  have hother : role.urlAttribute? ≠ some name := by
    cases role with
    | image => exact fun heq => h.1 (Option.some.inj heq).symm
    | link => exact fun heq => h.2 (Option.some.inj heq).symm
    | text => exact fun heq => by cases heq
  rw [role.get?_setAddress, if_neg hother]

namespace Slot

theorem isUnwritten_roleAttribute : IsUnwritten roleAttribute := by
  constructor <;> decide

variable (R : Record)

/-- A slot is read off attributes that its own writes leave alone. -/
theorem ofAttrs?_boundAttrs {marker : String} (h : IsUnwritten marker) (s : Slot)
    (attrs : Attributes) : ofAttrs? marker (s.boundAttrs R attrs) = ofAttrs? marker attrs := by
  rw [ofAttrs?, ofAttrs?, boundAttrs, Role.get?_setAddress_of_isUnwritten h,
    Role.get?_setAddress_of_isUnwritten isUnwritten_roleAttribute]

theorem boundAttrs_boundAttrs (s : Slot) (attrs : Attributes) :
    s.boundAttrs R (s.boundAttrs R attrs) = s.boundAttrs R attrs := by
  rw [boundAttrs, boundAttrs, Role.setAddress_setAddress, Option.or_self]

end Slot

namespace Node

variable (R : Record) {marker : String}

mutual
theorem rewrite_rewrite (hmarker : IsUnwritten marker) :
    (n : Node) → (n.rewrite R marker).rewrite R marker = n.rewrite R marker
  | .text _ => rfl
  | .raw _ => rfl
  | .element tag attrs children => by
    have hchildren := rewriteAll_rewriteAll hmarker children
    rw [rewrite]
    cases hslot : Slot.ofAttrs? marker attrs with
    | none => simp only [rewrite, hslot, hchildren]
    | some s =>
      have hagain : Slot.ofAttrs? marker (s.boundAttrs R attrs) = some s :=
        (s.ofAttrs?_boundAttrs R hmarker attrs).trans hslot
      cases hlast : s.lastContent? R with
      | none => simp only [rewrite, hagain, hlast, s.boundAttrs_boundAttrs, hchildren]
      | some node => simp only [rewrite, hagain, hlast, s.boundAttrs_boundAttrs]

theorem rewriteAll_rewriteAll (hmarker : IsUnwritten marker) :
    (ns : List Node) → rewriteAll R marker (rewriteAll R marker ns) = rewriteAll R marker ns
  | [] => rfl
  | n :: ns => by
    rw [rewriteAll, rewriteAll, rewrite_rewrite hmarker n,
      rewriteAll_rewriteAll hmarker ns]
end

mutual
theorem reached_rewrite (hmarker : IsUnwritten marker) :
    (n : Node) → (n.rewrite R marker).reached R marker = n.reached R marker
  | .text _ => rfl
  | .raw _ => rfl
  | .element tag attrs children => by
    have hchildren := reachedAll_rewriteAll hmarker children
    rw [rewrite]
    cases hslot : Slot.ofAttrs? marker attrs with
    | none => simp only [reached, hslot, hchildren]
    | some s =>
      have hagain : Slot.ofAttrs? marker (s.boundAttrs R attrs) = some s :=
        (s.ofAttrs?_boundAttrs R hmarker attrs).trans hslot
      -- what a slot hides from the first binding is gone in the second
      cases hlast : s.lastContent? R with
      | none => simp only [reached, hslot, hagain, hlast, hchildren]
      | some node => simp only [reached, hslot, hagain, hlast, Option.isSome_some, if_true]

theorem reachedAll_rewriteAll (hmarker : IsUnwritten marker) :
    (ns : List Node) → reachedAll R marker (rewriteAll R marker ns) = reachedAll R marker ns
  | [] => rfl
  | n :: ns => by
    rw [rewriteAll, reachedAll, reachedAll, reached_rewrite hmarker n,
      reachedAll_rewriteAll hmarker ns]
end

end Node

namespace Fragment

/-- A record that is bound to a fragment again finds the same slots and leaves what it finds. -/
theorem bind_idempotent (f : Fragment) (marker : String) (R : Record) (hsrc : marker ≠ "src")
    (hhref : marker ≠ "href") : (f.bind marker R).1.bind marker R = f.bind marker R := by
  have hmarker : IsUnwritten marker := ⟨hsrc, hhref⟩
  have hfragment : (f.rewrite marker R).rewrite marker R = f.rewrite marker R :=
    Node.rewriteAll_rewriteAll R hmarker f
  have hreached : (f.rewrite marker R).reached marker R = f.reached marker R :=
    Node.reachedAll_rewriteAll R hmarker f
  rw [bind_fst, bind_eq_rewrite, bind_eq_rewrite, hfragment, hreached]

/-- Nested slots are overwritten, a link gets its address, and nothing of it happens twice. -/
theorem bind_idempotent_nested :
    ∃ (f bound : Fragment) (R : Record), "data-key" ≠ "src" ∧ "data-key" ≠ "href" ∧
      bound = [.element "a"
        (.ofList [("data-key", "url,title"), ("data-role", "link"), ("href", "https://a.test/")])
        [.text "undefined"]] ∧
      f.bind "data-key" R = (bound, ⟨1, 2, 1⟩) ∧ bound.bind "data-key" R = (bound, ⟨1, 2, 1⟩) := by
  have hfirst : Fragment.bind [.element "a"
      (.ofList [("data-key", "url,title"), ("data-role", "link")])
      [.element "b" (.ofList [("data-key", "url")]) []]] "data-key"
      (.ofFields [("url", .string "https://a.test/")]) =
      ([.element "a" (.ofList [("data-key", "url,title"), ("data-role", "link"),
        ("href", "https://a.test/")]) [.text "undefined"]], ⟨1, 2, 1⟩) := by
    decide +kernel
  have hagain := bind_idempotent [.element "a"
      (.ofList [("data-key", "url,title"), ("data-role", "link")])
      [.element "b" (.ofList [("data-key", "url")]) []]] "data-key"
      (.ofFields [("url", .string "https://a.test/")]) (by decide) (by decide)
  rw [hfirst] at hagain
  exact ⟨_, _, _, by decide, by decide, rfl, hfirst, hagain⟩

/-- A slot that is marked by `href` loses its key to the address. -/
example : let R := Record.ofFields [("url", .string "https://a.test/")]
    let f : Fragment := [.element "a" (.ofList [("data-role", "link"), ("href", "url")]) []]
    (f.bind "href" R).2 = ⟨1, 1, 0⟩ ∧ ((f.bind "href" R).1.bind "href" R).2 = ⟨1, 1, 1⟩ := by
  decide +kernel

end Fragment

end PostSlots
