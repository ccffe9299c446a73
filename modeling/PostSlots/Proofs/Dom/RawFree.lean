import PostSlots.Dom.Form

/-!
# Fragments without raw markup

Raw markup is printed as it stands, so that whoever writes it decides over the page. It is never
read: whatever a fragment is read from, there is none in it. To say where raw markup can stand
after a binding, this file also names the elements of a fragment by the positions that lead to
them.

Results:
1. `Node.isRawFree_ofDatum`, `Fragment.isRawFree_decode`: what is read is free of raw markup.
2. `Fragment.isRawFree_of_elementAt`: a fragment is free of raw markup if no list of children
   has any.
-/

namespace PostSlots

mutual
/-- Nowhere in a node is raw markup. -/
def Node.isRawFree : Node → Bool
  | .text _ => true
  | .raw _ => false
  | .element _ _ children => Node.areRawFree children

def Node.areRawFree : List Node → Bool
  | [] => true
  | node :: nodes => node.isRawFree && Node.areRawFree nodes
end

/-- A fragment in which all markup is structured. -/
def Fragment.isRawFree (f : Fragment) : Bool :=
  Node.areRawFree f

/-- The element that a list of positions leads to, from the outside in. -/
def Fragment.elementAt? : Fragment → List Nat → Option Element
  | _, [] => none
  | f, [i] => f[i]?.bind Node.element?
  | f, i :: j :: path => do
    let e ← f[i]?.bind Node.element?
    Fragment.elementAt? e.children (j :: path)

/-! ## Reading -/

namespace Node

theorem areRawFree_iff {ns : List Node} :
    areRawFree ns = true ↔ ∀ n ∈ ns, n.isRawFree = true := by
  induction ns with
  | nil => simp [areRawFree]
  | cons n ns ih => simp [areRawFree, ih]

mutual
theorem isRawFree_ofDatum : (d : Datum) → ∀ n, ofDatum? d = some n → n.isRawFree = true
  | .text content, n, h => by
    rw [ofDatum?] at h
    cases h
    rfl
  | .fields pairs, n, h => by
    rw [ofDatum?] at h
    split at h
    · simp only [Option.bind_eq_bind, Option.bind_eq_some_iff] at h
      obtain ⟨tag, _, attrs, _, children, hchildren, hn⟩ := h
      cases hn
      exact areRawFree_childrenIn pairs children hchildren
    · cases h
  | .list [tag], n, h => by
    simp only [ofDatum?, Option.bind_eq_bind, Option.bind_eq_some_iff] at h
    obtain ⟨tag, _, hn⟩ := h
    cases hn
    rfl
  | .list [tag, attrs], n, h => by
    simp only [ofDatum?, Option.bind_eq_bind, Option.bind_eq_some_iff] at h
    obtain ⟨tag, _, attrs, _, hn⟩ := h
    cases hn
    rfl
  | .list [tag, attrs, children], n, h => by
    simp only [ofDatum?, Option.bind_eq_bind, Option.bind_eq_some_iff] at h
    obtain ⟨tag, _, attrs, _, nodes, hnodes, hn⟩ := h
    cases hn
    exact areRawFree_ofList children nodes hnodes
  | .list [], n, h => by cases h
  | .list (_ :: _ :: _ :: _ :: _), n, h => by cases h
  | .index _, n, h => by cases h
  | .other, n, h => by cases h

theorem areRawFree_childrenIn : (pairs : List (Datum × Datum)) → ∀ ns,
    childrenIn? pairs = some ns → areRawFree ns = true
  | [], ns, h => by
    cases h
    rfl
  | (key, value) :: pairs, ns, h => by
    rw [childrenIn?] at h
    split at h
    · exact areRawFree_ofList value ns h
    · exact areRawFree_childrenIn pairs ns h

theorem areRawFree_ofList : (d : Datum) → ∀ ns, ofList? d = some ns → areRawFree ns = true
  | .list items, ns, h => by
    rw [ofList?] at h
    exact areRawFree_ofItems items ns h
  | .text _, ns, h => by cases h
  | .index _, ns, h => by cases h
  | .other, ns, h => by cases h
  | .fields _, ns, h => by cases h

theorem areRawFree_ofItems : (items : List Datum) → ∀ ns,
    ofItems? items = some ns → areRawFree ns = true
  | [], ns, h => by
    cases h
    rfl
  | item :: items, ns, h => by
    simp only [ofItems?, Option.bind_eq_bind, Option.bind_eq_some_iff] at h
    obtain ⟨node, hnode, nodes, hnodes, hns⟩ := h
    cases hns
    rw [areRawFree, isRawFree_ofDatum item node hnode, areRawFree_ofItems items nodes hnodes]
    rfl
end

end Node

/-- A fragment that is read from a value has no raw markup. -/
theorem Fragment.isRawFree_decode {value : Json} {f : Fragment} (h : decode? value = some f) :
    f.isRawFree = true :=
  Node.areRawFree_ofList _ f h

/-! ## Elements by position -/

namespace Fragment

theorem elementAt?_cons_of_element {f : Fragment} {i : Nat} {path : List Nat} {e : Element}
    (he : f[i]?.bind Node.element? = some e) (hpath : path ≠ []) :
    f.elementAt? (i :: path) = elementAt? e.children path := by
  cases path with
  | nil => exact absurd rfl hpath
  | cons j path => rw [elementAt?, he]; rfl

theorem elementAt?_succ (n : Node) (f : Fragment) (i : Nat) (path : List Nat) :
    elementAt? (n :: f) ((i + 1) :: path) = f.elementAt? (i :: path) := by
  cases path <;> simp [elementAt?]

theorem isRawFree_element {f : Fragment} {i : Nat} {e : Element} (hf : f.isRawFree = true)
    (he : f[i]?.bind Node.element? = some e) : isRawFree e.children = true := by
  obtain ⟨n, hn, hne⟩ := Option.bind_eq_some_iff.1 he
  have hfree := Node.areRawFree_iff.1 hf n (List.mem_of_getElem? hn)
  cases n with
  | text _ => cases hne
  | raw _ => cases hne
  | element tag attrs children => cases hne; exact hfree

theorem isRawFree_elementAt {f : Fragment} {path : List Nat} {e : Element}
    (hf : f.isRawFree = true) (he : f.elementAt? path = some e) :
    isRawFree e.children = true := by
  induction f, path using elementAt?.induct generalizing e with
  | case1 => cases he
  | case2 f i => exact isRawFree_element hf he
  | case3 f i j path ih =>
    rw [elementAt?] at he
    obtain ⟨d, hd, hbelow⟩ := Option.bind_eq_some_iff.1 he
    exact ih d (isRawFree_element hf hd) hbelow

/-- No list of children has raw markup. -/
def HasRawFreeElements (f : Fragment) : Prop :=
  ∀ path e, f.elementAt? path = some e → ∀ markup, Node.raw markup ∉ e.children

theorem HasRawFreeElements.tail {n : Node} {f : Fragment} (h : HasRawFreeElements (n :: f)) :
    HasRawFreeElements f := by
  intro path e he
  cases path with
  | nil => cases he
  | cons i path => exact h ((i + 1) :: path) e ((elementAt?_succ n f i path).trans he)

theorem HasRawFreeElements.children {e : Element} {f : Fragment}
    (h : HasRawFreeElements (e.toNode :: f)) : HasRawFreeElements e.children := by
  intro path d hd
  have hpath : path ≠ [] := by
    rintro rfl
    cases hd
  exact h (0 :: path) d ((elementAt?_cons_of_element rfl hpath).trans hd)

/-- A fragment is free of raw markup if neither it nor any list of children in it has any. -/
theorem isRawFree_of_elementAt : (f : Fragment) → (∀ markup, Node.raw markup ∉ f) →
    HasRawFreeElements f → f.isRawFree = true
  | [], _, _ => rfl
  | .text content :: f, htop, hbelow => by
    have hrest : ∀ markup, Node.raw markup ∉ f := fun m hm => htop m (List.mem_cons_of_mem _ hm)
    rw [isRawFree, Node.areRawFree, Node.isRawFree, Bool.true_and]
    exact isRawFree_of_elementAt f hrest hbelow.tail
  | .raw markup :: _, htop, _ => absurd List.mem_cons_self (htop markup)
  | .element tag attrs children :: f, htop, hbelow => by
    have hrest : ∀ markup, Node.raw markup ∉ f := fun m hm => htop m (List.mem_cons_of_mem _ hm)
    -- the element itself stands at position 0, and all that is in it below
    have hchildren := isRawFree_of_elementAt children (hbelow [0] _ rfl)
      (HasRawFreeElements.children (e := ⟨tag, attrs, children⟩) hbelow)
    rw [isRawFree, Node.areRawFree, Node.isRawFree, Bool.and_eq_true]
    exact ⟨hchildren, isRawFree_of_elementAt f hrest hbelow.tail⟩

end Fragment

end PostSlots
