import PostSlots.Dom.Html

/-!
# HTML without ambiguity

Printing forgets nothing about a plain fragment: no two of them have the same HTML, whatever their
texts and attribute values are. In each context one character ends what is printed, and escaping
keeps that character out of it.

Results:
1. `Html.assignment_cancel`, `Html.text_cancel`: a value ends at the next quote and a text at the
   next tag, and both can be read back.
2. `Html.nodes_cancel`: plain nodes in front of a closing tag can be read back.
3. `Fragment.html_injective`: plain fragments with the same HTML are the same.
-/

namespace PostSlots

/-! ## Plain fragments -/

/-- A name that stands for itself in markup. -/
def Html.isName (name : String) : Bool :=
  !name.isEmpty && name.toList.all fun c => !([' ', '<', '>', '/', '"', '='].contains c)

def Node.isText : Node → Bool
  | .text _ => true
  | .element .. | .raw _ => false

mutual
/-- A node without raw markup whose names are names, whose texts are not empty and do not stand
side by side, and whose void elements are empty. -/
def Node.isPlain : Node → Bool
  | .text content => !content.isEmpty
  | .raw _ => false
  | .element tag attrs children =>
    Html.isName tag && attrs.entries.all (fun field => Html.isName field.1) &&
      (!Html.isVoid tag || children.isEmpty) && Node.arePlain children

def Node.arePlain : List Node → Bool
  | [] => true
  | node :: nodes =>
    node.isPlain && !(node.isText && nodes.head?.any Node.isText) && Node.arePlain nodes
end

/-- A fragment that printing loses nothing of. -/
def Fragment.isPlain (f : Fragment) : Bool :=
  Node.arePlain f

namespace Html

/-! ## Reading back what ends at a character -/

/-- A list that is free of stops ends at the first stop behind it. -/
theorem append_cancel_of_stop {α : Type} {stop : α → Bool} {xs ys r s : List α}
    (hx : ∀ c ∈ xs, stop c = false) (hy : ∀ c ∈ ys, stop c = false)
    (hr : ∀ c ∈ r.head?, stop c = true) (hs : ∀ c ∈ s.head?, stop c = true)
    (h : xs ++ r = ys ++ s) : xs = ys ∧ r = s := by
  induction xs generalizing ys with
  | nil =>
    cases ys with
    | nil => exact ⟨rfl, h⟩
    | cons y ys =>
      rw [List.nil_append, List.cons_append] at h
      have hstop := hr y (by rw [h]; rfl)
      rw [hy y List.mem_cons_self] at hstop
      cases hstop
  | cons x xs ih =>
    cases ys with
    | nil =>
      rw [List.nil_append, List.cons_append] at h
      have hstop := hs x (by rw [← h]; rfl)
      rw [hx x List.mem_cons_self] at hstop
      cases hstop
    | cons y ys =>
      obtain ⟨rfl, htail⟩ := List.cons.inj h
      obtain ⟨rfl, rfl⟩ := ih (fun c hc => hx c (List.mem_cons_of_mem _ hc))
        (fun c hc => hy c (List.mem_cons_of_mem _ hc)) htail
      exact ⟨rfl, rfl⟩

/-- A list of codes is read in only one way if one code can be read off its front. -/
theorem flatMap_cancel {α β : Type} {code : α → List β} {read : List β → Option (α × List β)}
    (hnil : read [] = none) (hread : ∀ a bs, read (code a ++ bs) = some (a, bs)) {xs ys : List α}
    (h : xs.flatMap code = ys.flatMap code) : xs = ys := by
  induction xs generalizing ys with
  | nil =>
    cases ys with
    | nil => rfl
    | cons y ys =>
      have hy := hread y (ys.flatMap code)
      rw [← List.flatMap_cons, ← h, List.flatMap_nil, hnil] at hy
      cases hy
  | cons x xs ih =>
    have hx := hread x (xs.flatMap code)
    rw [← List.flatMap_cons, h] at hx
    cases ys with
    | nil => rw [List.flatMap_nil, hnil] at hx; cases hx
    | cons y ys =>
      rw [List.flatMap_cons, hread] at hx
      obtain ⟨rfl, htail⟩ := Prod.mk.inj (Option.some.inj hx)
      rw [ih htail.symm]

/-! ## Escaping -/

theorem escapeText_ne_nil (c : Char) : escapeText c ≠ [] := by
  unfold escapeText
  split <;> simp

/-- Reads one character in either form of escaping. -/
def readEscaped : List Char → Option (Char × List Char)
  | '&' :: 'a' :: 'm' :: 'p' :: ';' :: cs => some ('&', cs)
  | '&' :: 'l' :: 't' :: ';' :: cs => some ('<', cs)
  | '&' :: 'g' :: 't' :: ';' :: cs => some ('>', cs)
  | '&' :: 'q' :: 'u' :: 'o' :: 't' :: ';' :: cs => some ('"', cs)
  | c :: cs => some (c, cs)
  | [] => none

theorem readEscaped_of_ne {c : Char} (h : c ≠ '&') (cs : List Char) :
    readEscaped (c :: cs) = some (c, cs) := by
  unfold readEscaped
  split <;> simp_all

theorem readEscaped_escapeText (c : Char) (cs : List Char) :
    readEscaped (escapeText c ++ cs) = some (c, cs) := by
  unfold escapeText
  split
  · rfl
  · rfl
  · rfl
  · next h _ _ => exact readEscaped_of_ne h cs

theorem readEscaped_escapeValue (c : Char) (cs : List Char) :
    readEscaped (escapeValue c ++ cs) = some (c, cs) := by
  unfold escapeValue
  split
  · rfl
  · exact readEscaped_escapeText c cs

/-- A text is free of the character that begins a tag. -/
theorem lt_notMem_escapeText (c : Char) : '<' ∉ escapeText c := by
  unfold escapeText
  split <;> simp_all [eq_comm]

/-- A value is free of the character that ends it. -/
theorem quote_notMem_escapeValue (c : Char) : '"' ∉ escapeValue c := by
  unfold escapeValue escapeText
  split
  · simp
  · split <;> simp_all [eq_comm]

/-! ## Names, attributes and tags -/

theorem isName_iff {name : String} :
    isName name = true ↔
      name.toList ≠ [] ∧ ∀ c ∈ name.toList, c ∉ [' ', '<', '>', '/', '"', '='] := by
  simp [isName]

theorem assignment_cancel {a b : String × String} {r s : List Char} (ha : isName a.1 = true)
    (hb : isName b.1 = true) (h : assignment a ++ r = assignment b ++ s) : a = b ∧ r = s := by
  have hfree {name : String} (hname : isName name = true) : ∀ c ∈ name.toList, (c == '=') = false :=
    fun c hc => by
      have := (isName_iff.1 hname).2 c hc
      simp_all
  have hquote (value : String) : ∀ c ∈ value.toList.flatMap escapeValue, (c == '"') = false := by
    intro c hc
    obtain ⟨d, _, hd⟩ := List.mem_flatMap.1 hc
    exact beq_eq_false_iff_ne.2 fun e => quote_notMem_escapeValue d (e ▸ hd)
  simp only [assignment, List.cons_append, List.append_assoc, List.nil_append] at h
  obtain ⟨hname, h⟩ :=
    append_cancel_of_stop (hfree ha) (hfree hb) (by simp) (by simp) (List.cons.inj h).2
  obtain ⟨hvalue, h⟩ := append_cancel_of_stop (hquote a.2) (hquote b.2) (by simp) (by simp)
    (List.cons.inj (List.cons.inj h).2).2
  have hvalue := flatMap_cancel rfl readEscaped_escapeValue hvalue
  exact ⟨Prod.ext (String.toList_inj.1 hname) (String.toList_inj.1 hvalue), (List.cons.inj h).2⟩

/-- Attributes end where no blank follows. -/
theorem assignments_cancel {as bs : List (String × String)} {r s : List Char}
    (has : ∀ field ∈ as, isName field.1 = true) (hbs : ∀ field ∈ bs, isName field.1 = true)
    (hr : r.head? ≠ some ' ') (hs : s.head? ≠ some ' ')
    (h : as.flatMap assignment ++ r = bs.flatMap assignment ++ s) : as = bs ∧ r = s := by
  induction as generalizing bs with
  | nil =>
    cases bs with
    | nil => exact ⟨rfl, h⟩
    | cons b bs => exact absurd (congrArg List.head? h) hr
  | cons a as ih =>
    cases bs with
    | nil => exact absurd (congrArg List.head? h).symm hs
    | cons b bs =>
      rw [List.flatMap_cons, List.flatMap_cons, List.append_assoc, List.append_assoc] at h
      obtain ⟨rfl, htail⟩ :=
        assignment_cancel (has a List.mem_cons_self) (hbs b List.mem_cons_self) h
      obtain ⟨rfl, rfl⟩ := ih (fun field hf => has field (List.mem_cons_of_mem _ hf))
        (fun field hf => hbs field (List.mem_cons_of_mem _ hf)) htail
      exact ⟨rfl, rfl⟩

/-- What follows an opening tag: a slash or the closing bracket. -/
def closesTag (cs : List Char) : Prop :=
  cs.head? = some '/' ∨ cs.head? = some '>'

theorem openTag_cancel {t u : String} {as bs : Attributes} {r s : List Char}
    (ht : isName t = true) (hu : isName u = true)
    (has : ∀ field ∈ as.entries, isName field.1 = true)
    (hbs : ∀ field ∈ bs.entries, isName field.1 = true) (hr : closesTag r) (hs : closesTag s)
    (h : openTag t as ++ r = openTag u bs ++ s) : t = u ∧ as = bs ∧ r = s := by
  -- a name ends at the first attribute, at the slash of a void element or at the bracket
  let stop (c : Char) : Bool := [' ', '/', '>'].contains c
  have hfree {name : String} (hname : isName name = true) : ∀ c ∈ name.toList, stop c = false :=
    fun c hc => by
      have := (isName_iff.1 hname).2 c hc
      simp_all [stop]
  have hstop (entries : List (String × String)) {r : List Char} (hr : closesTag r) :
      ∀ c ∈ (entries.flatMap assignment ++ r).head?, stop c = true := by
    cases entries with
    | nil => rcases hr with hr | hr <;> simp [hr, stop]
    | cons field entries => simp [assignment, stop]
  have hblank {r : List Char} (hr : closesTag r) : r.head? ≠ some ' ' := by
    rcases hr with hr | hr <;> simp [hr]
  simp only [openTag, List.cons_append, List.append_assoc] at h
  obtain ⟨htag, htail⟩ := append_cancel_of_stop (hfree ht) (hfree hu) (hstop _ hr) (hstop _ hs)
    (List.cons.inj h).2
  obtain ⟨hattrs, hrest⟩ := assignments_cancel has hbs (hblank hr) (hblank hs) htail
  cases as
  cases bs
  subst hattrs
  exact ⟨String.toList_inj.1 htag, rfl, hrest⟩

/-! ## Nodes -/

/-- What comes next: a text, a tag that opens, or neither. -/
inductive Lead where
  | text
  | opening
  | done
deriving DecidableEq

def lead : List Char → Lead
  | [] => .done
  | '<' :: '/' :: _ => .done
  | '<' :: _ => .opening
  | _ => .text

theorem lead_of_ne {c : Char} (h : c ≠ '<') (cs : List Char) : lead (c :: cs) = .text := by
  unfold lead
  split <;> simp_all

/-- The kind of the first of some nodes. -/
def leadOf : List Node → Lead
  | [] => .done
  | node :: _ => if node.isText then .text else .opening

theorem lead_openTag {tag : String} (htag : isName tag = true) (attrs : Attributes)
    (cs : List Char) : lead (openTag tag attrs ++ cs) = .opening := by
  obtain ⟨hne, hfree⟩ := isName_iff.1 htag
  cases hchars : tag.toList with
  | nil => exact absurd hchars hne
  | cons c rest =>
    have hc : c ≠ '/' := by
      have := hfree c (by simp [hchars])
      simp_all
    simp only [openTag, hchars, List.cons_append]
    unfold lead
    split <;> simp_all

theorem lead_text {content : String} (hne : content.toList ≠ []) (cs : List Char) :
    lead (content.toList.flatMap escapeText ++ cs) = .text := by
  obtain ⟨c, rest, hchars⟩ := List.exists_cons_of_ne_nil hne
  obtain ⟨d, ds, hcode⟩ := List.exists_cons_of_ne_nil (escapeText_ne_nil c)
  have hd : d ≠ '<' := fun e => lt_notMem_escapeText c (by simp [hcode, e])
  rw [hchars, List.flatMap_cons, hcode]
  exact lead_of_ne hd _

theorem isPlain_text {content : String} :
    (Node.text content).isPlain = true ↔ content.toList ≠ [] := by
  simp [Node.isPlain]

theorem isPlain_element {tag : String} {attrs : Attributes} {children : List Node} :
    (Node.element tag attrs children).isPlain = true ↔
      isName tag = true ∧ (∀ field ∈ attrs.entries, isName field.1 = true) ∧
        (isVoid tag = true → children = []) ∧ Node.arePlain children = true := by
  simp [Node.isPlain, and_assoc, Classical.or_iff_not_imp_left]

theorem lead_nodes {ns : List Node} (hns : Node.arePlain ns = true) {cs : List Char}
    (hcs : lead cs = .done) : lead (nodes ns ++ cs) = leadOf ns := by
  cases ns with
  | nil => exact hcs
  | cons n ns =>
    simp only [Node.arePlain, Bool.and_eq_true] at hns
    rw [nodes, List.append_assoc]
    cases n with
    | raw markup => exact absurd hns.1.1 (by simp [Node.isPlain])
    | element tag attrs children =>
      rw [node, List.append_assoc]
      exact lead_openTag (isPlain_element.1 hns.1.1).1 attrs _
    | text content => exact lead_text (isPlain_text.1 hns.1.1) _

/-- What stands behind a text is empty or begins with a bracket. -/
theorem head?_of_lead_ne_text {cs : List Char} (h : lead cs ≠ .text) :
    ∀ c ∈ cs.head?, (c == '<') = true := by
  cases cs with
  | nil => simp
  | cons c cs =>
    intro d hd
    cases hd
    exact Classical.byContradiction fun hne => h (lead_of_ne (by simpa using hne) cs)

theorem text_cancel {a b : String} {r s : List Char} (hr : lead r ≠ .text) (hs : lead s ≠ .text)
    (h : a.toList.flatMap escapeText ++ r = b.toList.flatMap escapeText ++ s) :
    a = b ∧ r = s := by
  have hfree (content : String) : ∀ c ∈ content.toList.flatMap escapeText, (c == '<') = false := by
    intro c hc
    obtain ⟨d, _, hd⟩ := List.mem_flatMap.1 hc
    exact beq_eq_false_iff_ne.2 fun e => lt_notMem_escapeText d (e ▸ hd)
  obtain ⟨htext, hrest⟩ := append_cancel_of_stop (hfree a) (hfree b) (head?_of_lead_ne_text hr)
    (head?_of_lead_ne_text hs) h
  exact ⟨String.toList_inj.1 (flatMap_cancel rfl readEscaped_escapeText htext), hrest⟩

theorem eq_nil_of_leadOf {ns : List Node} (h : leadOf ns = .done) : ns = [] := by
  cases ns with
  | nil => rfl
  | cons n ns => rw [leadOf] at h; split at h <;> cases h

theorem leadOf_cons_eq {n m : Node} {ns ms : List Node}
    (h : leadOf (n :: ns) = leadOf (m :: ms)) : n.isText = m.isText := by
  unfold leadOf at h
  cases hn : n.isText <;> cases hm : m.isText <;> simp_all

theorem exists_of_isText {n : Node} (h : n.isText = true) : ∃ content, n = .text content := by
  cases n with
  | text content => exact ⟨content, rfl⟩
  | element | raw => cases h

/-- No text stands behind a text. -/
theorem leadOf_tail_ne_text {n : Node} {ns : List Node} (hns : Node.arePlain (n :: ns) = true)
    (hn : n.isText = true) : leadOf ns ≠ .text := by
  cases ns with
  | nil => exact fun h => by cases h
  | cons m ms =>
    have hm : m.isText = false := by
      simp only [Node.arePlain, hn, List.head?_cons, Option.any_some, Bool.and_eq_true] at hns
      simpa using hns.1.2
    simp [leadOf, hm]

mutual
/-- A plain element can be read back, whatever follows it. -/
theorem element_cancel : (n : Node) → ∀ m : Node, n.isPlain = true → m.isPlain = true →
    n.isText = false → m.isText = false → ∀ r s, node n ++ r = node m ++ s → n = m ∧ r = s
  | .text _, _, _, _, hn, _, _, _, _ => absurd hn (by simp [Node.isText])
  | .raw _, _, hn, _, _, _, _, _, _ => absurd hn (by simp [Node.isPlain])
  | .element _ _ _, .text _, _, _, _, hm, _, _, _ => absurd hm (by simp [Node.isText])
  | .element _ _ _, .raw _, _, hm, _, _, _, _, _ => absurd hm (by simp [Node.isPlain])
  | .element t as ns, .element u bs ms, hn, hm, _, _, r, s, h => by
    obtain ⟨ht, has, htvoid, hns⟩ := isPlain_element.1 hn
    obtain ⟨hu, hbs, huvoid, hms⟩ := isPlain_element.1 hm
    have hcloses (tag : String) (children : List Node) (cs : List Char) : closesTag
        ((if isVoid tag then ['/', '>'] else '>' :: nodes children ++ closeTag tag) ++ cs) := by
      split
      · exact Or.inl rfl
      · exact Or.inr rfl
    rw [node, node, List.append_assoc, List.append_assoc] at h
    obtain ⟨rfl, rfl, hrest⟩ := openTag_cancel ht hu has hbs (hcloses t ns r) (hcloses u ms s) h
    -- a void element is closed at once, and a plain one has no children to lose
    by_cases hvoid : isVoid t = true
    · rw [if_pos hvoid, if_pos hvoid] at hrest
      rw [htvoid hvoid, huvoid hvoid]
      exact ⟨rfl, List.append_cancel_left hrest⟩
    · rw [if_neg hvoid, if_neg hvoid, List.cons_append, List.cons_append, List.append_assoc,
        List.append_assoc] at hrest
      obtain ⟨rfl, hclose⟩ := nodes_cancel ns ms hns hms _ _ rfl rfl (List.cons.inj hrest).2
      exact ⟨rfl, List.append_cancel_left hclose⟩

/-- Plain nodes can be read back if neither text nor an opening tag follows them. -/
theorem nodes_cancel : (ns : List Node) → ∀ ms, Node.arePlain ns = true →
    Node.arePlain ms = true → ∀ r s, lead r = .done → lead s = .done →
    nodes ns ++ r = nodes ms ++ s → ns = ms ∧ r = s
  | [], ms, hns, hms, r, s, hr, hs, h => by
    have hlead := congrArg lead h
    rw [lead_nodes hns hr, lead_nodes hms hs] at hlead
    obtain rfl := eq_nil_of_leadOf hlead.symm
    exact ⟨rfl, h⟩
  | n :: ns, ms, hns, hms, r, s, hr, hs, h => by
    have hlead := congrArg lead h
    rw [lead_nodes hns hr, lead_nodes hms hs] at hlead
    cases ms with
    | nil => cases eq_nil_of_leadOf hlead
    | cons m ms =>
      -- a text on one side is a text on the other, so the two cases do not mix
      have hkind := leadOf_cons_eq hlead
      obtain ⟨⟨hn, _⟩, hns'⟩ := by simpa only [Node.arePlain, Bool.and_eq_true] using hns
      obtain ⟨⟨hm, _⟩, hms'⟩ := by simpa only [Node.arePlain, Bool.and_eq_true] using hms
      rw [nodes, nodes, List.append_assoc, List.append_assoc] at h
      cases hntext : n.isText with
      | false =>
        obtain ⟨rfl, hrest⟩ := element_cancel n m hn hm hntext (hkind ▸ hntext) _ _ h
        obtain ⟨rfl, hcs⟩ := nodes_cancel ns ms hns' hms' r s hr hs hrest
        exact ⟨rfl, hcs⟩
      | true =>
        have hmtext : m.isText = true := hkind ▸ hntext
        have hnlead := lead_nodes hns' hr ▸ leadOf_tail_ne_text hns hntext
        have hmlead := lead_nodes hms' hs ▸ leadOf_tail_ne_text hms hmtext
        obtain ⟨a, rfl⟩ := exists_of_isText hntext
        obtain ⟨b, rfl⟩ := exists_of_isText hmtext
        obtain ⟨rfl, hrest⟩ := text_cancel hnlead hmlead h
        obtain ⟨rfl, hcs⟩ := nodes_cancel ns ms hns' hms' r s hr hs hrest
        exact ⟨rfl, hcs⟩
end

end Html

/-- Plain fragments with the same HTML are the same. -/
theorem Fragment.html_injective {f g : Fragment} (hf : f.isPlain = true) (hg : g.isPlain = true)
    (h : f.html = g.html) : f = g := by
  have hchars : Html.nodes f = Html.nodes g := String.ofList_injective h
  refine (Html.nodes_cancel f g hf hg [] [] rfl rfl ?_).1
  rw [hchars]

/-- The order in which attributes are set does not show, and markup in them stays text. -/
theorem Fragment.html_injective_order :
    let f : Fragment := [.element "p"
      (.ofList [("title", "a\"><br/>&quot;"), ("class", "&lt;")]) [.text "<b> & </b>"]]
    let g : Fragment := [.element "p"
      (.ofList [("class", "&lt;"), ("title", "a\"><br/>&quot;")]) [.text "<b> & </b>"]]
    f.isPlain = true ∧ g.isPlain = true ∧ f.html = g.html ∧ f = g :=
  have hf : Fragment.isPlain [.element "p"
      (.ofList [("title", "a\"><br/>&quot;"), ("class", "&lt;")]) [.text "<b> & </b>"]] = true := by
    decide
  have hg : Fragment.isPlain [.element "p"
      (.ofList [("class", "&lt;"), ("title", "a\"><br/>&quot;")]) [.text "<b> & </b>"]] = true := by
    decide
  ⟨hf, hg, by decide, Fragment.html_injective hf hg (by decide)⟩

end PostSlots
