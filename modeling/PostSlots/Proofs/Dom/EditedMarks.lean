import PostSlots.Proofs.Dom.MarkedWalk

/-!
# What a changing walk visits and what it leaves

The walk that changes a fragment and the one that reads the result meet the same elements. Places
tell apart what stands where: a visit is made at a place, what is visited inside of it has a longer
one, and what is not inside of an edited element is where it was.

Results:
1. `Walked.marks_eq`: what was visited is what is marked after the walk.
2. `Walked.inside_eq`: below new children these were visited, and the old ones were not.
3. `Walked.bare_nodeAt?`: what stands outside edited elements stays.
4. `Fragment.editMarked_agrees`: all of this for fragments.
-/

namespace PostSlots

/-- What a mark says: the tag of an element and its marking value. -/
def Element.mark (marker : String) (e : Element) : String × Option String :=
  (e.tag, e.attr? marker)

/-! ## Places -/

namespace Node

/-- A node without what is below it. -/
def bare : Node → Node
  | element tag attrs _ => element tag attrs []
  | node => node

def children : Node → List Node
  | element _ _ children => children
  | text _ | raw _ => []

end Node

/-- The node that a list of positions leads to, from the outside in. -/
def Fragment.nodeAt? : Fragment → List Nat → Option Node
  | _, [] => none
  | f, [i] => f[i]?
  | f, i :: j :: path => f[i]?.bind fun node => Fragment.nodeAt? node.children (j :: path)

namespace Visited

variable {v : Visited} {i k : Nat} {seen inner : List Visited}

/-- All visits were made below children beyond `i`. -/
def AreBeyond (i : Nat) (seen : List Visited) : Prop :=
  ∀ v ∈ seen, ∃ k, i < k ∧ v.place.head? = some k

theorem inside_append (v : Visited) (seen seen' : List Visited) :
    v.inside (seen ++ seen') = v.inside seen ++ v.inside seen' :=
  List.filter_append _ _

theorem inside_below (v : Visited) (i : Nat) (seen : List Visited) :
    (v.below i).inside (seen.map (below i)) = (v.inside seen).map (below i) := by
  rw [inside, inside, List.filter_map]
  congr 1
  refine List.filter_congr fun w _ => ?_
  simp [below]

theorem head?_of_isPrefix {path path' : List Nat} (h : path <+: path')
    (hhead : path.head? = some k) : path'.head? = some k := by
  obtain ⟨rest, rfl⟩ := h
  rw [List.head?_append, hhead]
  rfl

/-- Nothing is inside of a visit at another child. -/
theorem inside_eq_nil (hv : v.place.head? = some k) (h : ∀ w ∈ seen, w.place.head? ≠ some k) :
    v.inside seen = [] :=
  List.filter_eq_nil_iff.2 fun w hw hprefix =>
    h w hw (head?_of_isPrefix (List.isPrefixOf_iff_prefix.1 hprefix) hv)

theorem AreBeyond.inside_eq_nil (hbeyond : AreBeyond i seen) (hv : v.place.head? = some i) :
    v.inside seen = [] := by
  refine Visited.inside_eq_nil hv fun w hw hplace => ?_
  obtain ⟨k, hk, hhead⟩ := hbeyond w hw
  rw [hplace] at hhead
  cases hhead
  exact Nat.lt_irrefl i hk

theorem inside_cons {v w : Visited} (h : ¬v.place <+: w.place) (seen : List Visited) :
    v.inside (w :: seen) = v.inside seen :=
  List.filter_cons_of_neg fun hprefix => h (List.isPrefixOf_iff_prefix.1 hprefix)

/-- Inside of a visit below the child `i`, the visits at other children do not count. -/
theorem inside_below_append (v : Visited) (hbeyond : AreBeyond i seen) :
    (v.below i).inside (inner.map (below i) ++ seen) = (v.inside inner).map (below i) := by
  rw [inside_append, inside_below, hbeyond.inside_eq_nil rfl, List.append_nil]

/-- Inside of a visit beyond the child `i`, the visits below this child do not count. -/
theorem inside_beyond_append (hv : ∃ k, i < k ∧ v.place.head? = some k) :
    v.inside (inner.map (below i) ++ seen) = v.inside seen := by
  obtain ⟨k, hk, hhead⟩ := hv
  have hnone : v.inside (inner.map (below i)) = [] := by
    refine inside_eq_nil hhead (List.forall_mem_map.2 fun u _ hplace => ?_)
    cases hplace
    exact Nat.lt_irrefl i hk
  rw [inside_append, hnone, List.nil_append]

/-- Inside of the visit at the child `i` itself is all that was visited below it. -/
theorem inside_own (hv : v.place = [i]) (hbeyond : AreBeyond i seen) :
    v.inside (v :: (inner.map (below i) ++ seen)) = v :: inner.map (below i) := by
  have hnone : v.inside seen = [] := hbeyond.inside_eq_nil (by rw [hv]; rfl)
  have hall : v.inside (v :: inner.map (below i)) = v :: inner.map (below i) := by
    refine List.filter_eq_self.2 (List.forall_mem_cons.2 ⟨?_, List.forall_mem_map.2 fun u _ => ?_⟩)
    · exact List.isPrefixOf_iff_prefix.2 (List.prefix_refl _)
    · rw [hv]
      exact List.isPrefixOf_iff_prefix.2 ⟨u.place, rfl⟩
  rw [← List.cons_append, inside_append, hall, hnone, List.append_nil]

end Visited

namespace Walked

variable {σ : Type} {marker : String} {choose : Selection σ} {i : Nat} {nodes after : List Node}
  {s s' : σ} {seen : List Visited}

/-- All visits are made at the children that the walk goes through, or below them. -/
theorem head?_place (h : Walked marker choose i nodes s seen after s') :
    ∀ v ∈ seen, ∃ k, i ≤ k ∧ v.place.head? = some k := by
  have hinner (i : Nat) (inner : List Visited) :
      ∀ v ∈ inner.map (Visited.below i), ∃ k, i ≤ k ∧ v.place.head? = some k :=
    List.forall_mem_map.2 fun u _ => ⟨i, Nat.le_refl i, rfl⟩
  have hbehind {i : Nat} {v : Visited} :
      (∃ k, i + 1 ≤ k ∧ v.place.head? = some k) → ∃ k, i ≤ k ∧ v.place.head? = some k :=
    fun ⟨k, hk, hhead⟩ => ⟨k, Nat.le_of_succ_le hk, hhead⟩
  induction h with
  | done => exact fun v hv => absurd hv List.not_mem_nil
  | leaf _ _ ih => exact fun v hv => hbehind (ih v hv)
  | unmarked _ _ _ _ ihrest =>
    exact List.forall_mem_append.2 ⟨hinner _ _, fun v hv => hbehind (ihrest v hv)⟩
  | @marked i _ _ _ _ _ _ _ _ _ _ _ _ _ ihrest =>
    refine List.forall_mem_cons.2 ⟨⟨i, Nat.le_refl i, rfl⟩, ?_⟩
    exact List.forall_mem_append.2 ⟨hinner _ _, fun v hv => hbehind (ihrest v hv)⟩

/-! ## Marks -/

/-- The walk below an edited element: through its own children, or through new ones that are
passed. -/
theorem passed_or_kept {e : Element} {children : List Node} {s₁ : σ} {inner : List Visited}
    (h : Walked marker choose 0 (Edit.applyAll (choose e s).1 e).children (choose e s).2 inner
      children s₁) (he : choose.Spares marker e) :
    (Edit.change (choose e s).1 e).content = none ∧
        (Edit.applyAll (choose e s).1 e).children = e.children ∨
      ∃ new, (Edit.change (choose e s).1 e).content = some new ∧
        Passed marker choose new (choose e s).2 inner children s₁ := by
  have hchildren := Edit.children_applyAll (choose e s).1 e
  cases hcontent : (Edit.change (choose e s).1 e).content with
  | none =>
    rw [hcontent, Option.getD_none] at hchildren
    exact .inl ⟨rfl, hchildren⟩
  | some new =>
    rw [hcontent, Option.getD_some] at hchildren
    rw [hchildren] at h
    exact .inr ⟨new, rfl, h.passed (he.passes s new hcontent)⟩

/-- What was visited, with what marked it, is what is marked after the walk. -/
theorem marks_eq (h : Walked marker choose i nodes s seen after s')
    (hspares : ∀ e ∈ Node.markedAll marker nodes, choose.Spares marker e) :
    seen.map (fun v => v.element.mark marker) =
      (Node.markedAll marker after).map (Element.mark marker) := by
  induction h with
  | done => rfl
  | leaf hleaf _ ih =>
    rw [Node.markedAll_leaf hleaf] at hspares ⊢
    exact ih hspares
  | @unmarked i e nodes children after s s₁ s' inner seen hmark _ _ ihbelow ihrest =>
    rw [Node.markedAll_unmarked hmark, List.forall_mem_append] at hspares
    let d := e.setContent children
    have hafter : Node.markedAll marker (d.toNode :: after) =
        Node.markedAll marker children ++ Node.markedAll marker after :=
      Node.markedAll_unmarked (e := d) hmark after
    rw [hafter, List.map_append, List.map_append, ← ihbelow hspares.1, ← ihrest hspares.2,
      List.map_map]
    rfl
  | @marked i e nodes children after s s₁ s' inner seen hmark hwalk _ ihbelow ihrest =>
    rw [Node.markedAll_marked hmark, List.forall_mem_cons, List.forall_mem_append] at hspares
    obtain ⟨he, hbelow, hrest⟩ := hspares
    let d := (Edit.applyAll (choose e s).1 e).setContent children
    have hvalue : d.attr? marker = e.attr? marker := Edit.attr?_applyAll (he.other s) e
    have hmarks : d.mark marker = e.mark marker := Prod.ext (Edit.tag_applyAll _ e) hvalue
    have hafter : Node.markedAll marker (d.toNode :: after) =
        d :: (Node.markedAll marker children ++ Node.markedAll marker after) :=
      Node.markedAll_marked ((congrArg Option.isSome hvalue).trans hmark) after
    have hinner : inner.map (fun v => v.element.mark marker) =
        (Node.markedAll marker children).map (Element.mark marker) := by
      rcases hwalk.passed_or_kept he with ⟨-, hkept⟩ | ⟨new, -, hpassed⟩
      · exact ihbelow (hkept ▸ hbelow)
      · rw [hpassed.after_eq, ← hpassed.element_eq, List.map_map]
        rfl
    rw [hafter, List.map_cons, List.map_cons, List.map_append, List.map_append, ← ihrest hrest,
      List.map_map, hmarks, ← hinner]
    rfl

/-- Below new children these were visited, each once and in order, and the old ones were not. -/
theorem inside_eq (h : Walked marker choose i nodes s seen after s')
    (hspares : ∀ e ∈ Node.markedAll marker nodes, choose.Spares marker e) :
    ∀ v ∈ seen, ∀ new, v.change.content = some new →
      (v.inside seen).map Visited.element = v.element :: Node.markedAll marker new := by
  induction h with
  | done => exact fun v hv => absurd hv List.not_mem_nil
  | leaf hleaf _ ih =>
    rw [Node.markedAll_leaf hleaf] at hspares
    exact ih hspares
  | @unmarked i e nodes children after s s₁ s' inner seen hmark hwalk hwalks ihbelow ihrest =>
    rw [Node.markedAll_unmarked hmark, List.forall_mem_append] at hspares
    have hbeyond : Visited.AreBeyond i seen := hwalks.head?_place
    refine List.forall_mem_append.2 ⟨List.forall_mem_map.2 fun u hu new hnew => ?_, ?_⟩
    · rw [Visited.inside_below_append u hbeyond, List.map_map]
      exact ihbelow hspares.1 u hu new hnew
    · intro v hv new hnew
      rw [Visited.inside_beyond_append (hbeyond v hv)]
      exact ihrest hspares.2 v hv new hnew
  | @marked i e nodes children after s s₁ s' inner seen hmark hwalk hwalks ihbelow ihrest =>
    rw [Node.markedAll_marked hmark, List.forall_mem_cons, List.forall_mem_append] at hspares
    obtain ⟨he, hbelow, hrest⟩ := hspares
    have hbeyond : Visited.AreBeyond i seen := hwalks.head?_place
    refine List.forall_mem_cons.2 ⟨fun new hnew => ?_, List.forall_mem_append.2
      ⟨List.forall_mem_map.2 fun u hu new hnew => ?_, fun v hv new hnew => ?_⟩⟩
    · rw [Visited.inside_own rfl hbeyond, List.map_cons, List.map_map]
      rcases hwalk.passed_or_kept he with ⟨hnone, -⟩ | ⟨new', hnew', hpassed⟩
      · have hnew : (Edit.change (choose e s).1 e).content = some new := hnew
        rw [hnone] at hnew
        cases hnew
      · have hsame : new' = new := Option.some.inj (hnew'.symm.trans hnew)
        exact congrArg (e :: ·) (hsame ▸ hpassed.element_eq)
    · have hout : ¬(u.below i).place <+: [i] := by
        obtain ⟨k, -, hhead⟩ := hwalk.head?_place u hu
        intro hprefix
        have hnil := List.prefix_nil.1 (List.cons_prefix_cons.1 hprefix).2
        rw [hnil] at hhead
        cases hhead
      rw [Visited.inside_cons hout, Visited.inside_below_append u hbeyond, List.map_map]
      rcases hwalk.passed_or_kept he with ⟨-, hkept⟩ | ⟨_, -, hpassed⟩
      · exact ihbelow (hkept ▸ hbelow) u hu new hnew
      · have hnew : (Edit.change u.edits u.element).content = some new := hnew
        rw [hpassed.edits_eq u hu] at hnew
        cases hnew
    · have hout : ¬v.place <+: [i] := by
        obtain ⟨k, hk, hhead⟩ := hbeyond v hv
        intro hprefix
        cases Visited.head?_of_isPrefix hprefix hhead
        exact Nat.lt_irrefl i hk
      rw [Visited.inside_cons hout, Visited.inside_beyond_append (hbeyond v hv)]
      exact ihrest hrest v hv new hnew

/-! ## What stays -/

theorem nodeAt?_succ (node : Node) (f : Fragment) (j : Nat) (path : List Nat) :
    Fragment.nodeAt? (node :: f) ((j + 1) :: path) = f.nodeAt? (j :: path) := by
  cases path with
  | nil => rfl
  | cons k path => rfl

/-- The first node and what is below it. -/
theorem bare_nodeAt?_zero {node node' : Node} {f f' : Fragment} {path : List Nat}
    (hbare : node.bare = node'.bare)
    (hbelow : ∀ k rest, path = k :: rest → (Fragment.nodeAt? node.children path).map Node.bare =
      (Fragment.nodeAt? node'.children path).map Node.bare) :
    (Fragment.nodeAt? (node :: f) (0 :: path)).map Node.bare =
      (Fragment.nodeAt? (node' :: f') (0 :: path)).map Node.bare := by
  cases path with
  | nil => exact congrArg some hbare
  | cons k rest => exact hbelow k rest rfl

/-- Outside of edited elements, all that stands at a place still stands there. -/
theorem bare_nodeAt? (h : Walked marker choose i nodes s seen after s') (j : Nat)
    (path : List Nat) (hout : ∀ v ∈ seen, v.edits ≠ [] → ¬v.place <+: (i + j) :: path) :
    (Fragment.nodeAt? after (j :: path)).map Node.bare =
      (Fragment.nodeAt? nodes (j :: path)).map Node.bare := by
  have hnext {i j : Nat} : i + (j + 1) = i + 1 + j := by omega
  have hinner {i : Nat} {inner : List Visited} {k : Nat} {rest : List Nat}
      (hout : ∀ v ∈ inner.map (Visited.below i), v.edits ≠ [] → ¬v.place <+: (i + 0) :: k :: rest) :
      ∀ v ∈ inner, v.edits ≠ [] → ¬v.place <+: (0 + k) :: rest := by
    intro v hv hedits hprefix
    rw [Nat.zero_add] at hprefix
    exact hout _ (List.mem_map_of_mem hv) hedits (List.cons_prefix_cons.2 ⟨rfl, hprefix⟩)
  induction h generalizing j path with
  | done => rfl
  | leaf _ _ ih =>
    cases j with
    | zero => exact bare_nodeAt?_zero rfl fun _ _ _ => rfl
    | succ j =>
      rw [nodeAt?_succ, nodeAt?_succ]
      exact ih j path (hnext ▸ hout)
  | @unmarked i e nodes children after s s₁ s' inner seen hmark _ _ ihbelow ihrest =>
    rw [List.forall_mem_append] at hout
    cases j with
    | zero =>
      refine bare_nodeAt?_zero rfl fun k rest hpath => ?_
      subst hpath
      exact ihbelow k rest (hinner hout.1)
    | succ j =>
      rw [nodeAt?_succ, nodeAt?_succ]
      exact ihrest j path (hnext ▸ hout.2)
  | @marked i e nodes children after s s₁ s' inner seen hmark _ _ ihbelow ihrest =>
    rw [List.forall_mem_cons, List.forall_mem_append] at hout
    obtain ⟨hown, hout⟩ := hout
    cases j with
    | zero =>
      -- the place is not within the element, unless nothing was done to it
      have hchoose : (choose e s).1 = [] := Classical.byContradiction fun hedits =>
        hown hedits (List.cons_prefix_cons.2 ⟨rfl, List.nil_prefix⟩)
      rw [hchoose, Edit.applyAll_nil] at ihbelow ⊢
      refine bare_nodeAt?_zero rfl fun k rest hpath => ?_
      subst hpath
      exact ihbelow k rest (hinner hout.1)
    | succ j =>
      rw [nodeAt?_succ, nodeAt?_succ]
      exact ihrest j path (hnext ▸ hout.2)

end Walked

/-! ## Fragments -/

namespace Fragment

/-- The walk that changes a fragment and the one that reads the result agree. A visitor edits some
of the marked elements as it likes, as long as each of them stays marked as it was and nothing put
below it would be edited in its turn. Then the walk runs as if it had no bound; it visits what is
marked in the end, in document order; of the descendants of an element with new content it visits
the new ones, and none of the old; and at places that are not within an edited element the fragment
is what it was. -/
theorem editMarked_agrees {σ : Type} (f : Fragment) (marker : String) (choose : Selection σ) (s : σ)
    (hspares : ∀ e ∈ f.marked marker, choose.Spares marker e) :
    ∃ seen after s', f.editMarked marker choose.logged (s, []) =
        (after, s', seen.map Visited.entry) ∧
      Walked marker choose 0 f s seen after s' ∧
      seen.map (fun v => v.element.mark marker) =
        (Fragment.marked after marker).map (Element.mark marker) ∧
      (∀ v ∈ seen, ∀ new, v.change.content = some new →
        (v.inside seen).map Visited.element = v.element :: Node.markedAll marker new) ∧
      ∀ place, (∀ v ∈ seen, v.edits ≠ [] → ¬v.place <+: place) →
        (Fragment.nodeAt? after place).map Node.bare = (f.nodeAt? place).map Node.bare := by
  obtain ⟨seen, after, s', hrun, hwalk⟩ := Node.follows_of_spares f s hspares 0 []
  refine ⟨seen, after, s', hrun, hwalk, hwalk.marks_eq hspares, hwalk.inside_eq hspares, ?_⟩
  intro place hout
  cases place with
  | nil => rfl
  | cons j path => exact hwalk.bare_nodeAt? j path (by rwa [Nat.zero_add])

/-- The first visit loses a marked child and puts in another one, which would itself have been
chosen had it come first; links get an address, and what is below them is visited all the same. -/
theorem editMarked_agrees_nested :
    let f : Fragment := [.element "div" (.ofList [("data-key", "a")])
      [.element "b" (.ofList [("data-key", "old")]) []],
      .element "p" .empty [.text "kept", .element "a" (.ofList [("data-key", "b")])
        [.element "i" (.ofList [("data-key", "c")]) []]]]
    let new : Node := .element "span" (.ofList [("data-key", "new")]) []
    let choose : Selection Nat := fun e n =>
      (if n = 0 then [.text "lost", .content [new]]
        else if e.tag = "a" then [.attr "href" "u"] else [], n + 1)
    (∀ e ∈ f.marked "data-key", choose.Spares "data-key" e) ∧
      (Fragment.marked (f.editMarked "data-key" choose.logged (0, [])).1 "data-key").map
          (Element.mark "data-key") =
        [("div", some "a"), ("span", some "new"), ("a", some "b"), ("i", some "c")] := by
  intro f new choose
  have hnew : Node.markedAll "data-key" [new] =
      [⟨"span", .ofList [("data-key", "new")], []⟩] := by decide +kernel
  have hspares : ∀ e ∈ f.marked "data-key", choose.Spares "data-key" e := by
    intro e _
    constructor
    · intro n name value hmem
      by_cases hn : n = 0
      · simp [choose, hn] at hmem
      · by_cases htag : e.tag = "a"
        · simp [choose, hn, htag] at hmem
          rw [hmem.1]
          decide
        · simp [choose, hn, htag] at hmem
    · intro n nodes hnodes
      by_cases hn : n = 0
      · have hnodes : some [new] = some nodes := by
          rw [← hnodes]
          simp [choose, hn, Edit.change, Edit.addTo, Change.setContent]
        cases hnodes
        rw [hnew]
        simp [choose, Selection.Passes]
      · by_cases htag : e.tag = "a"
        · simp [choose, hn, htag, Edit.change, Edit.addTo, Change.setAttr, Change.keep] at hnodes
        · simp [choose, hn, htag, Edit.change, Change.keep] at hnodes
  have hlog : (f.editMarked "data-key" choose.logged (0, [])).2.2.map
      (fun entry => entry.1.mark "data-key") =
      [("div", some "a"), ("span", some "new"), ("a", some "b"), ("i", some "c")] := by
    decide +kernel
  obtain ⟨seen, after, s', hrun, -, hmarks, -, -⟩ :=
    f.editMarked_agrees "data-key" choose 0 hspares
  rw [hrun] at hlog ⊢
  refine ⟨hspares, ?_⟩
  rw [← hmarks, ← hlog, List.map_map]
  rfl

end Fragment

end PostSlots
