import PostSlots.Dom.Marked

/-!
# Walks that change what they walk through

A visitor is called for an element before the walk goes on below it, and may put other children
there, so that the walk ends up in nodes that were not there when it began. For visitors that edit
some of the marked elements, and put nothing below them that they would edit again, it comes to an
end all the same, after one more walk through the new children.

Results:
1. `Edit.applyAll_eq`: edits one after the other are one change.
2. `Walked`: the walk without a bound, with its visits and their places.
3. `Walked.passed`: a walk that edits nothing reads the marked elements.
4. `Node.follows_of_spares`: the walk that ends is the one without a bound.
-/

namespace PostSlots

/-! ## Edits -/

/-- What a visitor may do to an element. -/
inductive Edit where
  | text (content : String)
  | markup (html : String)
  | attr (name value : String)
  | content (nodes : List Node)

namespace Edit

def applyTo : Edit → Element → Element
  | text s, e => e.setText s
  | markup html, e => e.setMarkup html
  | attr name value, e => e.setAttr name value
  | content nodes, e => e.setContent nodes

/-- One edit after the other. -/
def applyAll (edits : List Edit) (e : Element) : Element :=
  edits.foldl (fun e edit => edit.applyTo e) e

def addTo : Edit → Change → Change
  | text s, c => c.setContent [.text s]
  | markup html, c => c.setContent [.raw html]
  | attr name value, c => c.setAttr name value
  | content nodes, c => c.setContent nodes

/-- The edits of an element as one change. -/
def change (edits : List Edit) (e : Element) : Change :=
  edits.foldl (fun c edit => edit.addTo c) (.keep e)

theorem applyAll_nil (e : Element) : applyAll [] e = e := rfl

theorem applyTo_addTo (edit : Edit) (c : Change) (e : Element) :
    (edit.addTo c).applyTo e = edit.applyTo (c.applyTo e) := by
  cases edit with
  | text s => rfl
  | markup html => rfl
  | attr name value => rfl
  | content nodes => rfl

theorem applyAll_eq (edits : List Edit) (e : Element) :
    applyAll edits e = (change edits e).applyTo e := by
  have hfold (c : Change) : (edits.foldl (fun c edit => edit.addTo c) c).applyTo e =
      edits.foldl (fun e edit => edit.applyTo e) (c.applyTo e) := by
    induction edits generalizing c with
    | nil => rfl
    | cons edit edits ih => rw [List.foldl_cons, List.foldl_cons, ih, applyTo_addTo]
  exact (hfold (.keep e)).symm

theorem children_applyAll (edits : List Edit) (e : Element) :
    (applyAll edits e).children = (change edits e).content.getD e.children := by
  rw [applyAll_eq]
  rfl

theorem tag_applyAll (edits : List Edit) (e : Element) : (applyAll edits e).tag = e.tag := by
  rw [applyAll_eq]
  rfl

theorem attr?_applyAll {edits : List Edit} {marker : String}
    (h : ∀ name value, attr name value ∈ edits → name ≠ marker) (e : Element) :
    (applyAll edits e).attr? marker = e.attr? marker := by
  induction edits generalizing e with
  | nil => rfl
  | cons edit edits ih =>
    have hfirst : (edit.applyTo e).attr? marker = e.attr? marker := by
      cases edit with
      | text s => rfl
      | markup html => rfl
      | attr name value =>
        exact FieldMap.get?_insert_of_ne _ (h name value List.mem_cons_self).symm _
      | content nodes => rfl
    have hrest := ih (fun name value hmem => h name value (List.mem_cons_of_mem _ hmem))
      (edit.applyTo e)
    exact hrest.trans hfirst

end Edit

/-! ## Visitors -/

/-- A visitor with a state: the edits it makes to an element, none if it does not choose it. -/
abbrev Selection (σ : Type) := Element → σ → List Edit × σ

namespace Selection

variable {σ : Type}

/-- The visit, with a list of what was visited and edited. -/
def logged (choose : Selection σ) : Visit (σ × List (Element × List Edit)) := fun e (s, log) =>
  let (edits, s) := choose e s
  (Edit.change edits e, s, log ++ [(e, edits)])

/-- The state after some elements. -/
def stateAfter (choose : Selection σ) (es : List Element) (s : σ) : σ :=
  es.foldl (fun s e => (choose e s).2) s

/-- None of some elements would be chosen, one after the other. -/
def Passes (choose : Selection σ) : List Element → σ → Prop
  | [], _ => True
  | e :: es, s => (choose e s).1 = [] ∧ Passes choose es (choose e s).2

/-- Whatever is done to an element, it stays marked as it was, and nothing is put below it that
would be chosen in its turn. -/
structure Spares (choose : Selection σ) (marker : String) (e : Element) : Prop where
  other : ∀ s name value, .attr name value ∈ (choose e s).1 → name ≠ marker
  passes : ∀ s nodes, (Edit.change (choose e s).1 e).content = some nodes →
    choose.Passes (Node.markedAll marker nodes) (choose e s).2

theorem stateAfter_append (choose : Selection σ) (es fs : List Element) (s : σ) :
    choose.stateAfter (es ++ fs) s = choose.stateAfter fs (choose.stateAfter es s) :=
  List.foldl_append

theorem passes_append {choose : Selection σ} {es fs : List Element} {s : σ} :
    choose.Passes (es ++ fs) s ↔
      choose.Passes es s ∧ choose.Passes fs (choose.stateAfter es s) := by
  induction es generalizing s with
  | nil => exact (iff_of_eq (true_and _)).symm
  | cons e es ih =>
    rw [List.cons_append, Passes, Passes, ih, and_assoc]
    rfl

end Selection

/-- A visit: where it was, what it found, and what it did. -/
structure Visited where
  place : List Nat
  element : Element
  edits : List Edit

namespace Visited

/-- The entry that the visitor makes. -/
def entry (v : Visited) : Element × List Edit := (v.element, v.edits)

def change (v : Visited) : Change := Edit.change v.edits v.element

/-- The visit as seen from the parent, of which its place is below the child `i`. -/
def below (i : Nat) (v : Visited) : Visited := { v with place := i :: v.place }

/-- The visits that were made at the place of `v` or below it. -/
def inside (v : Visited) (seen : List Visited) : List Visited :=
  seen.filter fun w => v.place.isPrefixOf w.place

end Visited

/-- A walk over nodes, the first of which is the child `i` of its parent: an element is visited
before the walk goes on in the children that it has then. -/
inductive Walked {σ : Type} (marker : String) (choose : Selection σ) :
    Nat → List Node → σ → List Visited → List Node → σ → Prop
  | done {i : Nat} {s : σ} : Walked marker choose i [] s [] [] s
  | leaf {i : Nat} {node : Node} {nodes after : List Node} {s s' : σ} {seen : List Visited}
      (hleaf : node.element? = none) (hrest : Walked marker choose (i + 1) nodes s seen after s') :
      Walked marker choose i (node :: nodes) s seen (node :: after) s'
  | unmarked {i : Nat} {e : Element} {nodes children after : List Node} {s s₁ s' : σ}
      {inner seen : List Visited} (hmark : e.attrs.contains marker = false)
      (hbelow : Walked marker choose 0 e.children s inner children s₁)
      (hrest : Walked marker choose (i + 1) nodes s₁ seen after s') :
      Walked marker choose i (e.toNode :: nodes) s (inner.map (Visited.below i) ++ seen)
        ((e.setContent children).toNode :: after) s'
  | marked {i : Nat} {e : Element} {nodes children after : List Node} {s s₁ s' : σ}
      {inner seen : List Visited} (hmark : e.attrs.contains marker = true)
      (hbelow : Walked marker choose 0 (Edit.applyAll (choose e s).1 e).children (choose e s).2
        inner children s₁)
      (hrest : Walked marker choose (i + 1) nodes s₁ seen after s') :
      Walked marker choose i (e.toNode :: nodes) s
        (⟨[i], e, (choose e s).1⟩ :: (inner.map (Visited.below i) ++ seen))
        (((Edit.applyAll (choose e s).1 e).setContent children).toNode :: after) s'

/-! ## Marked elements -/

namespace Node

variable {marker : String} {node : Node} {e : Element} {nodes : List Node}

theorem markedAll_leaf (hleaf : node.element? = none) :
    markedAll marker (node :: nodes) = markedAll marker nodes := by
  cases node with
  | text s => rfl
  | raw html => rfl
  | element tag attrs children => cases hleaf

theorem markedAll_unmarked (hmark : e.attrs.contains marker = false) (nodes : List Node) :
    markedAll marker (e.toNode :: nodes) =
      markedAll marker e.children ++ markedAll marker nodes := by
  rw [markedAll, Element.toNode, marked, hmark]
  rfl

theorem markedAll_marked (hmark : e.attrs.contains marker = true) (nodes : List Node) :
    markedAll marker (e.toNode :: nodes) =
      e :: (markedAll marker e.children ++ markedAll marker nodes) := by
  rw [markedAll, Element.toNode, marked, hmark]
  rfl

end Node

/-! ## Walks -/

namespace Walked

variable {σ : Type} {marker : String} {choose : Selection σ} {i : Nat} {nodes after : List Node}
  {s s' : σ} {seen : List Visited}

/-- A walk that edits nothing reads the marked elements. -/
structure Passed (marker : String) (choose : Selection σ) (nodes : List Node) (s : σ)
    (seen : List Visited) (after : List Node) (s' : σ) : Prop where
  after_eq : after = nodes
  element_eq : seen.map Visited.element = Node.markedAll marker nodes
  edits_eq : ∀ v ∈ seen, v.edits = []
  state_eq : s' = choose.stateAfter (Node.markedAll marker nodes) s

/-- An element and the nodes behind it. -/
theorem Passed.append {e : Element} {children : List Node} {s₁ : σ} {inner : List Visited}
    (hbelow : Passed marker choose e.children s inner children s₁)
    (hrest : Passed marker choose nodes s₁ seen after s') (i : Nat) :
    (e.setContent children).toNode :: after = e.toNode :: nodes ∧
      (inner.map (Visited.below i) ++ seen).map Visited.element =
        Node.markedAll marker e.children ++ Node.markedAll marker nodes ∧
      (∀ v ∈ inner.map (Visited.below i) ++ seen, v.edits = []) ∧
      s' = choose.stateAfter (Node.markedAll marker e.children ++ Node.markedAll marker nodes)
        s := by
  refine ⟨?_, ?_, List.forall_mem_append.2 ⟨?_, hrest.edits_eq⟩, ?_⟩
  · rw [hbelow.after_eq, hrest.after_eq]
    rfl
  · rw [List.map_append, List.map_map, hrest.element_eq, ← hbelow.element_eq]
    rfl
  · exact List.forall_mem_map.2 hbelow.edits_eq
  · rw [Selection.stateAfter_append, ← hbelow.state_eq, hrest.state_eq]

theorem passed (h : Walked marker choose i nodes s seen after s')
    (hpass : choose.Passes (Node.markedAll marker nodes) s) :
    Passed marker choose nodes s seen after s' := by
  induction h with
  | done => exact ⟨rfl, rfl, fun v hv => absurd hv List.not_mem_nil, rfl⟩
  | leaf hleaf _ ih =>
    rw [Node.markedAll_leaf hleaf] at hpass
    have hrest := ih hpass
    refine ⟨by rw [hrest.after_eq], ?_, hrest.edits_eq, ?_⟩
    · rw [Node.markedAll_leaf hleaf, hrest.element_eq]
    · rw [Node.markedAll_leaf hleaf, hrest.state_eq]
  | @unmarked i e nodes children after s s₁ s' inner seen hmark _ _ ihbelow ihrest =>
    have hmarked := Node.markedAll_unmarked hmark nodes
    rw [hmarked, Selection.passes_append] at hpass
    have hbelow := ihbelow hpass.1
    have hrest := ihrest (hbelow.state_eq ▸ hpass.2)
    obtain ⟨hafter, helement, hedits, hstate⟩ := hbelow.append hrest i
    exact ⟨hafter, helement.trans hmarked.symm, hedits, by rw [hmarked, hstate]⟩
  | @marked i e nodes children after s s₁ s' inner seen hmark _ _ ihbelow ihrest =>
    have hmarked := Node.markedAll_marked hmark nodes
    rw [hmarked, Selection.Passes, Selection.passes_append] at hpass
    obtain ⟨hchoose, hpass⟩ := hpass
    rw [hchoose, Edit.applyAll_nil] at ihbelow ⊢
    have hbelow := ihbelow hpass.1
    have hrest := ihrest (hbelow.state_eq ▸ hpass.2)
    obtain ⟨hafter, helement, hedits, hstate⟩ := hbelow.append hrest i
    refine ⟨hafter, ?_, List.forall_mem_cons.2 ⟨rfl, hedits⟩, ?_⟩
    · rw [List.map_cons, helement, hmarked]
    · rw [hmarked, hstate]
      rfl

end Walked

/-! ## The walk that ends -/

/-- A walk that takes a visitor along does what a walk without a bound would do. -/
def Follows {σ : Type} (marker : String) (choose : Selection σ)
    (walk : Walk (σ × List (Element × List Edit))) (nodes : List Node) (s : σ) : Prop :=
  ∀ i log, ∃ seen after s', walk nodes (s, log) = (after, s', log ++ seen.map Visited.entry) ∧
    Walked marker choose i nodes s seen after s'

namespace Node

variable {σ : Type} {marker : String} {choose : Selection σ}
  {entered : Walk (σ × List (Element × List Edit))} {node : Node} {e : Element} {nodes : List Node}
  {s : σ}

theorem follows_leaf (hleaf : node.element? = none)
    (hrest : Follows marker choose (editMarkedAll marker choose.logged entered) nodes s) :
    Follows marker choose (editMarkedAll marker choose.logged entered) (node :: nodes) s := by
  intro i log
  obtain ⟨seen, after, s', hrun, hwalk⟩ := hrest (i + 1) log
  have hnode : editMarked marker choose.logged entered node (s, log) = (node, s, log) := by
    cases node with
    | text t => rfl
    | raw html => rfl
    | element tag attrs children => cases hleaf
  refine ⟨seen, node :: after, s', ?_, .leaf hleaf hwalk⟩
  rw [editMarkedAll, hnode]
  simp only [hrun]

theorem map_entry_below (i : Nat) (inner : List Visited) :
    (inner.map (Visited.below i)).map Visited.entry = inner.map Visited.entry := by
  rw [List.map_map]
  rfl

theorem follows_unmarked (hmark : e.attrs.contains marker = false)
    (hbelow : Follows marker choose (editMarkedAll marker choose.logged entered) e.children s)
    (hrest : ∀ inner children s₁, Walked marker choose 0 e.children s inner children s₁ →
      Follows marker choose (editMarkedAll marker choose.logged entered) nodes s₁) :
    Follows marker choose (editMarkedAll marker choose.logged entered) (e.toNode :: nodes) s := by
  intro i log
  obtain ⟨inner, children, s₁, hrun, hwalk⟩ := hbelow 0 log
  obtain ⟨seen, after, s', hruns, hwalks⟩ :=
    hrest _ _ _ hwalk (i + 1) (log ++ inner.map Visited.entry)
  refine ⟨_, _, s', ?_, .unmarked hmark hwalk hwalks⟩
  rw [editMarkedAll, Element.toNode, editMarked, hmark, List.map_append, map_entry_below,
    ← List.append_assoc]
  simp only [Bool.false_eq_true, if_false, hrun, hruns]
  rfl

theorem follows_marked (hmark : e.attrs.contains marker = true)
    (hkept : (Edit.change (choose e s).1 e).content = none →
      Follows marker choose (editMarkedAll marker choose.logged entered) e.children (choose e s).2)
    (hnew : ∀ new, (Edit.change (choose e s).1 e).content = some new →
      Follows marker choose entered new (choose e s).2)
    (hrest : ∀ inner children s₁, Walked marker choose 0 (Edit.applyAll (choose e s).1 e).children
        (choose e s).2 inner children s₁ →
      Follows marker choose (editMarkedAll marker choose.logged entered) nodes s₁) :
    Follows marker choose (editMarkedAll marker choose.logged entered) (e.toNode :: nodes) s := by
  intro i log
  -- what is below the element after its visit, and the walk through it
  obtain ⟨inner, children, s₁, hrun, hwalk⟩ : ∃ inner children s₁,
      editMarked marker choose.logged entered e.toNode (s, log) =
        (((Edit.applyAll (choose e s).1 e).setContent children).toNode, s₁,
          log ++ [(e, (choose e s).1)] ++ inner.map Visited.entry) ∧
      Walked marker choose 0 (Edit.applyAll (choose e s).1 e).children (choose e s).2 inner
        children s₁ := by
    have hchildren := Edit.children_applyAll (choose e s).1 e
    rw [Element.toNode, editMarked, if_pos hmark]
    cases hcontent : (Edit.change (choose e s).1 e).content with
    | none =>
      obtain ⟨inner, children, s₁, hrun, hwalk⟩ := hkept hcontent 0 (log ++ [(e, (choose e s).1)])
      rw [hcontent, Option.getD_none] at hchildren
      refine ⟨inner, children, s₁, ?_, hchildren ▸ hwalk⟩
      simp only [Selection.logged, hcontent, hrun, Edit.applyAll_eq]
      rfl
    | some new =>
      obtain ⟨inner, children, s₁, hrun, hwalk⟩ :=
        hnew new hcontent 0 (log ++ [(e, (choose e s).1)])
      rw [hcontent, Option.getD_some] at hchildren
      refine ⟨inner, children, s₁, ?_, hchildren ▸ hwalk⟩
      simp only [Selection.logged, hcontent, hrun, Edit.applyAll_eq]
      rfl
  obtain ⟨seen, after, s', hruns, hwalks⟩ := hrest _ _ _ hwalk (i + 1)
    (log ++ [(e, (choose e s).1)] ++ inner.map Visited.entry)
  refine ⟨_, _, s', ?_, .marked hmark hwalk hwalks⟩
  rw [editMarkedAll, hrun]
  simp only [hruns]
  rw [List.map_cons, List.map_append, map_entry_below, List.append_assoc, List.append_assoc]
  rfl

/-- Where nothing is chosen, nothing is handed on. -/
theorem follows_of_passes : (nodes : List Node) → (s : σ) →
    choose.Passes (markedAll marker nodes) s →
    Follows marker choose (editMarkedAll marker choose.logged entered) nodes s
  | [], s, _ => fun i log => ⟨[], [], s, by rw [List.map_nil, List.append_nil]; rfl, .done⟩
  | .text t :: nodes, s, hpass => follows_leaf rfl (follows_of_passes nodes s hpass)
  | .raw html :: nodes, s, hpass => follows_leaf rfl (follows_of_passes nodes s hpass)
  | .element tag attrs children :: nodes, s, hpass => by
    let e : Element := ⟨tag, attrs, children⟩
    have hpass : choose.Passes (markedAll marker (e.toNode :: nodes)) s := hpass
    cases hmark : e.attrs.contains marker with
    | false =>
      rw [markedAll_unmarked hmark, Selection.passes_append] at hpass
      refine follows_unmarked hmark (follows_of_passes children s hpass.1) ?_
      intro inner below s₁ hwalk
      exact follows_of_passes nodes s₁ ((hwalk.passed hpass.1).state_eq ▸ hpass.2)
    | true =>
      rw [markedAll_marked hmark, Selection.Passes, Selection.passes_append] at hpass
      obtain ⟨hchoose, hbelow, hrest⟩ := hpass
      refine follows_marked hmark (fun _ => follows_of_passes children _ hbelow) ?_ ?_
      · intro new hnew
        rw [hchoose] at hnew
        cases hnew
      · intro inner below s₁ hwalk
        rw [hchoose, Edit.applyAll_nil] at hwalk
        exact follows_of_passes nodes s₁ ((hwalk.passed hbelow).state_eq ▸ hrest)
termination_by nodes => sizeOf nodes

/-- Where new children are passed, one more walk is enough for them. -/
theorem follows_of_spares : (nodes : List Node) → (s : σ) →
    (∀ e ∈ markedAll marker nodes, choose.Spares marker e) →
    Follows marker choose
      (editMarkedAll marker choose.logged (editMarkedAll marker choose.logged entered)) nodes s
  | [], s, _ => fun i log => ⟨[], [], s, by rw [List.map_nil, List.append_nil]; rfl, .done⟩
  | .text t :: nodes, s, hspares => follows_leaf rfl (follows_of_spares nodes s hspares)
  | .raw html :: nodes, s, hspares => follows_leaf rfl (follows_of_spares nodes s hspares)
  | .element tag attrs children :: nodes, s, hspares => by
    let e : Element := ⟨tag, attrs, children⟩
    have hspares : ∀ d ∈ markedAll marker (e.toNode :: nodes), choose.Spares marker d := hspares
    cases hmark : e.attrs.contains marker with
    | false =>
      rw [markedAll_unmarked hmark, List.forall_mem_append] at hspares
      exact follows_unmarked hmark (follows_of_spares children s hspares.1)
        fun _ _ s₁ _ => follows_of_spares nodes s₁ hspares.2
    | true =>
      rw [markedAll_marked hmark, List.forall_mem_cons, List.forall_mem_append] at hspares
      obtain ⟨he, hbelow, hrest⟩ := hspares
      exact follows_marked hmark (fun _ => follows_of_spares children _ hbelow)
        (fun new hnew => follows_of_passes new _ (he.passes s new hnew))
        fun _ _ s₁ _ => follows_of_spares nodes s₁ hrest
termination_by nodes => sizeOf nodes

end Node

end PostSlots
