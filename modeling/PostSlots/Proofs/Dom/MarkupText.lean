import PostSlots.Proofs.Dom.Unambiguous

/-!
# The text between tags

The text of a tree is gathered from its nodes, the text of raw markup by a scan that drops what
stands in tags. Printing a tree and scanning what was printed gives the text of the tree as it is
written between tags. The scan is in a tag exactly while one is printed: a text opens none, since its
brackets are escaped, and no attribute closes one. An opening bracket in a name would do no harm, as
a scan that is in a tag looks for its end only.

Results:
1. `Node.markupText_openTag`, `Node.markupText_closeTag`: tags have no text.
2. `Node.markupText_node`: behind a printed node the scan is where it was before.
3. `Fragment.text_of_html`: the text of printed markup is the escaped text of the tree.
-/

namespace PostSlots

/-! ## What prints its text -/

/-- A name that does not end the tag it stands in. -/
def Html.isUnclosing (name : String) : Bool :=
  name.toList.all fun c => c != '>'

mutual
/-- A node whose text is all in its HTML, between tags: it has no raw markup, its void elements are
empty, and no name ends a tag. -/
def Node.isLegible : Node → Bool
  | .text _ => true
  | .raw _ => false
  | .element tag attrs children =>
    Html.isUnclosing tag && attrs.entries.all (fun field => Html.isUnclosing field.1) &&
      (!Html.isVoid tag || children.isEmpty) && Node.areLegible children

def Node.areLegible : List Node → Bool
  | [] => true
  | node :: nodes => node.isLegible && Node.areLegible nodes
end

/-- A fragment whose text is all in its HTML, between tags. -/
def Fragment.isLegible (f : Fragment) : Bool :=
  Node.areLegible f

/-- A text as it is written between tags. -/
def Html.escaped (text : String) : String :=
  String.ofList <| text.toList.flatMap fun c =>
    if c = '&' then "&amp;".toList
    else if c = '<' then "&lt;".toList
    else if c = '>' then "&gt;".toList
    else [c]

namespace Html

theorem isUnclosing_iff {name : String} : isUnclosing name = true ↔ '>' ∉ name.toList := by
  rw [isUnclosing, List.all_eq_true]
  constructor
  · intro h hmem
    exact absurd (h '>' hmem) (by decide)
  · intro h c hc
    exact bne_iff_ne.2 fun heq => h (heq ▸ hc)

theorem escapeText_eq (c : Char) :
    escapeText c =
      if c = '&' then "&amp;".toList
      else if c = '<' then "&lt;".toList
      else if c = '>' then "&gt;".toList
      else [c] := by
  unfold escapeText
  split
  · rfl
  · rfl
  · rfl
  · next hamp hlt hgt => rw [if_neg hamp, if_neg hlt, if_neg hgt]

theorem escaped_eq (text : String) :
    escaped text = String.ofList (text.toList.flatMap escapeText) :=
  congrArg (fun code => String.ofList (text.toList.flatMap code))
    (funext fun c => (escapeText_eq c).symm)

/-- A value is free of the character that ends a tag. -/
theorem gt_notMem_escapeValue (c : Char) : '>' ∉ escapeValue c := by
  unfold escapeValue escapeText
  split
  · simp
  · split <;> simp_all [eq_comm]

theorem gt_notMem_assignment {field : String × String} (hname : '>' ∉ field.1.toList) :
    '>' ∉ assignment field := by
  have hvalue : '>' ∉ field.2.toList.flatMap escapeValue := by
    intro h
    obtain ⟨c, _, hc⟩ := List.mem_flatMap.1 h
    exact gt_notMem_escapeValue c hc
  simp [assignment, hname, hvalue]

end Html

namespace Node

open Html

/-! ## Scanning -/

section
variable {cs : List Char}

/-- A scan that is in a tag passes over what does not end it. -/
theorem markupText_inTag (h : '>' ∉ cs) (rest : List Char) :
    markupText true (cs ++ rest) = markupText true rest := by
  induction cs with
  | nil => rfl
  | cons c cs ih =>
    obtain ⟨hc, hcs⟩ := List.ne_and_not_mem_of_not_mem_cons h
    have hstay : (c != '>') = true := bne_iff_ne.2 (Ne.symm hc)
    rw [List.cons_append, markupText]
    split
    · exact ih hcs
    · rw [if_pos rfl, hstay]
      exact ih hcs

/-- A scan between tags keeps what does not open one. -/
theorem markupText_between (h : '<' ∉ cs) (rest : List Char) :
    markupText false (cs ++ rest) = cs ++ markupText false rest := by
  induction cs with
  | nil => rfl
  | cons c cs ih =>
    obtain ⟨hc, hcs⟩ := List.ne_and_not_mem_of_not_mem_cons h
    rw [List.cons_append, markupText, if_neg (Ne.symm hc), if_neg Bool.false_ne_true, ih hcs]
    rfl

end

section
variable {tag : String} {attrs : Attributes}

/-- The scan enters an opening tag and is in it at its end. -/
theorem markupText_openTag (htag : isUnclosing tag = true)
    (hattrs : ∀ field ∈ attrs.entries, isUnclosing field.1 = true) (rest : List Char) :
    markupText false (openTag tag attrs ++ rest) = markupText true rest := by
  have hassignments : '>' ∉ attrs.entries.flatMap assignment := by
    intro h
    obtain ⟨field, hfield, hmem⟩ := List.mem_flatMap.1 h
    exact gt_notMem_assignment (isUnclosing_iff.1 (hattrs field hfield)) hmem
  have hopen : '>' ∉ tag.toList ++ attrs.entries.flatMap assignment := by
    rw [List.mem_append, not_or]
    exact ⟨isUnclosing_iff.1 htag, hassignments⟩
  rw [openTag, List.cons_append, List.cons_append, markupText, if_pos rfl, markupText_inTag hopen]

/-- The scan leaves a closing tag. -/
theorem markupText_closeTag (htag : isUnclosing tag = true) (rest : List Char) :
    markupText false (closeTag tag ++ rest) = markupText false rest := by
  have hclose : '>' ∉ '/' :: tag.toList := by
    simpa using isUnclosing_iff.1 htag
  have hsplit : closeTag tag ++ rest = '<' :: (('/' :: tag.toList) ++ '>' :: rest) := by
    simp [closeTag]
  rw [hsplit, markupText, if_pos rfl, markupText_inTag hclose]
  rfl

theorem isLegible_element {children : List Node} :
    (element tag attrs children).isLegible = true ↔
      isUnclosing tag = true ∧ (∀ field ∈ attrs.entries, isUnclosing field.1 = true) ∧
        (isVoid tag = true → children = []) ∧ areLegible children = true := by
  simp [isLegible, and_assoc, Classical.or_iff_not_imp_left]

end

/-! ## Printing and scanning -/

theorem markupText_text (content : List Char) (rest : List Char) :
    markupText false (content.flatMap escapeText ++ rest) =
      content.flatMap escapeText ++ markupText false rest := by
  refine markupText_between (fun h => ?_) rest
  obtain ⟨c, _, hc⟩ := List.mem_flatMap.1 h
  exact lt_notMem_escapeText c hc

mutual
/-- The scan gives the text of a printed node and is between tags again. -/
theorem markupText_node : (n : Node) → n.isLegible = true → ∀ rest,
    markupText false (Html.node n ++ rest) =
      n.textChars.flatMap escapeText ++ markupText false rest
  | .text content, _, rest => by
    rw [node, textChars]
    exact markupText_text content.toList rest
  | .raw _, h, _ => absurd h (by simp [isLegible])
  | .element tag attrs children, h, rest => by
    obtain ⟨htag, hattrs, hvoid, hchildren⟩ := isLegible_element.1 h
    rw [node, textChars, List.append_assoc, markupText_openTag htag hattrs]
    by_cases hv : isVoid tag = true
    · -- a void element is closed at once, and it has no text to lose
      rw [if_pos hv, hvoid hv]
      rfl
    · have hsplit : ('>' :: nodes children ++ closeTag tag) ++ rest =
          '>' :: (nodes children ++ (closeTag tag ++ rest)) := by
        simp
      rw [if_neg hv, hsplit]
      calc markupText true ('>' :: (nodes children ++ (closeTag tag ++ rest)))
          = markupText false (nodes children ++ (closeTag tag ++ rest)) := rfl
        _ = (textCharsAll children).flatMap escapeText ++ markupText false (closeTag tag ++ rest) :=
          markupText_nodes children hchildren _
        _ = (textCharsAll children).flatMap escapeText ++ markupText false rest := by
          rw [markupText_closeTag htag]

theorem markupText_nodes : (ns : List Node) → areLegible ns = true → ∀ rest,
    markupText false (nodes ns ++ rest) =
      (textCharsAll ns).flatMap escapeText ++ markupText false rest
  | [], _, _ => rfl
  | n :: ns, h, rest => by
    obtain ⟨hn, hns⟩ : n.isLegible = true ∧ areLegible ns = true := by
      simpa [areLegible] using h
    rw [nodes, List.append_assoc, markupText_node n hn, markupText_nodes ns hns, textCharsAll,
      List.flatMap_append, List.append_assoc]
end

end Node

/-- Markup that is printed from a tree has the text of the tree, as it is written between tags. -/
theorem Fragment.text_of_html (f : Fragment) (e : Element) (hf : f.isLegible = true) :
    (e.setMarkup f.html).text = Html.escaped f.text := by
  have hscan : Node.markupText false (Html.nodes f) =
      (Node.textCharsAll f).flatMap Html.escapeText := by
    have hnodes := Node.markupText_nodes f hf []
    rw [List.append_nil] at hnodes
    exact hnodes.trans (List.append_nil _)
  rw [Html.escaped_eq, Fragment.text, String.toList_ofList, ← hscan]
  show String.ofList (Node.markupText false f.html.toList ++ []) = _
  rw [List.append_nil, Fragment.html, String.toList_ofList]

/-- Brackets and quotes in texts and in an attribute, and a void element. -/
theorem Fragment.text_of_html_brackets :
    ∃ (f : Fragment) (e : Element), f.isLegible = true ∧
      f.html = "a &lt; b&amp;<p title=\"&gt;&quot;&lt;\"><br/>&gt;\"</p>" ∧ f.text = "a < b&>\"" ∧
      (e.setMarkup f.html).text = "a &lt; b&amp;&gt;\"" := by
  have hlegible : Fragment.isLegible [.text "a < b&", .element "p" (.ofList [("title", ">\"<")])
      [Node.lineBreak, .text ">\""]] = true := by
    decide +kernel
  refine ⟨_, .ofTag "q", hlegible, by decide +kernel, by decide +kernel, ?_⟩
  exact (Fragment.text_of_html _ _ hlegible).trans (by decide +kernel)

end PostSlots
