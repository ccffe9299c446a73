import PostSlots.Proofs.Binding.Report

/-!
# What records cannot change

A template decides over the structure of a page and a record over its texts. Two records that a
binding cannot tell apart by the classes of their values leave fragments of one shape: the same
elements with the same attributes, text where there was text, and the same counts in the reports.
The two walks stay in step, because the class of a value alone decides where it is written, and so
which slots are overwritten.

Results:
1. `Slot.sameAttrs_boundAttrs`: the attributes of a slot differ by an address only.
2. `Node.sameShape_rewrite`: rewritten nodes have one shape.
3. `Node.report_reached_eq`: the slots that were reached are counted alike.
4. `Fragment.bind_noninterference`: two bindings differ in texts and addresses only.
-/

namespace PostSlots

/-! ## Classes of values -/

/-- What a slot tells apart. -/
inductive ValueClass where
  | absent
  | address
  | other
deriving DecidableEq

def SlotValue.valueClass : SlotValue → ValueClass
  | absent => .absent
  | url _ => .address
  | scalar _ => .other

/-- The class of what a key names. -/
def Record.classOf (R : Record) (key : String) : ValueClass :=
  (SlotValue.classify (R.resolve key)).valueClass

/-! ## Shapes -/

/-- An attribute of a slot that its role puts addresses into. -/
def TakesAddress (marker : String) (attrs : Attributes) (name : String) : Prop :=
  let role := Role.ofAttr (attrs.get? "data-role")
  attrs.contains marker = true ∧ (role = .image ∧ name = "src" ∨ role = .link ∧ name = "href")

/-- Attributes of the same names and, but for addresses, of the same values. -/
structure SameAttrs (marker : String) (as bs : Attributes) : Prop where
  keys : as.keys = bs.keys
  get? : ∀ name, ¬TakesAddress marker as name → as.get? name = bs.get? name

/-- Nodes that are the same but for texts, raw markup and addresses. -/
inductive Node.SameShape (marker : String) : Node → Node → Prop
  | text {s t : String} : SameShape marker (.text s) (.text t)
  | raw {s t : String} : SameShape marker (.raw s) (.raw t)
  | element {tag : String} {as bs : Attributes} {cs ds : List Node} : SameAttrs marker as bs →
    List.Forall₂ (SameShape marker) cs ds →
    SameShape marker (.element tag as cs) (.element tag bs ds)

/-- Fragments of as many nodes, each of the shape of its counterpart. -/
def Fragment.SameShape (marker : String) : Fragment → Fragment → Prop :=
  List.Forall₂ (Node.SameShape marker)

/-! ## One slot -/

/-- The last of what a list gives is alike where everything is. -/
theorem rel_getLast?_filterMap {α β γ : Type} {r : β → γ → Prop} {f : α → Option β}
    {g : α → Option γ} {as : List α} (h : ∀ a ∈ as, Option.Rel r (f a) (g a)) :
    Option.Rel r (as.filterMap f).getLast? (as.filterMap g).getLast? := by
  induction as using List.reverseRecOn with
  | nil => exact .none
  | append_singleton as a ih =>
    obtain ⟨has, ha⟩ := List.forall_mem_append.1 h
    have hlast := ha a (List.mem_singleton_self a)
    simp only [List.filterMap_append, List.getLast?_append]
    cases hfa : f a with
    | none =>
      rw [hfa] at hlast
      generalize hga : g a = b at hlast
      cases hlast
      simpa [hfa, hga] using ih has
    | some b =>
      rw [hfa] at hlast
      generalize hga : g a = c at hlast
      cases hlast with
      | some hbc => simpa [hfa, hga] using Option.Rel.some hbc

namespace Record

variable {R S : Record} {key : String}

theorem isSome_address?_of_classOf (h : R.classOf key = S.classOf key) :
    (R.address? key).isSome = (S.address? key).isSome := by
  have haddress (T : Record) : (T.address? key).isSome = decide (T.classOf key = .address) := by
    rw [classOf, T.classify_resolve]
    cases T.address? key <;> cases T.resolve key <;> rfl
  rw [haddress R, haddress S, h]

theorem isNone_resolve_of_classOf (h : R.classOf key = S.classOf key) :
    (R.resolve key).isNone = (S.resolve key).isNone := by
  have habsent (T : Record) : (T.resolve key).isNone = decide (T.classOf key = .absent) := by
    rw [← T.isAbsent_classify, classOf]
    cases SlotValue.classify (T.resolve key) <;> rfl
  rw [habsent R, habsent S, h]

/-- What a key puts into a slot is of a kind that its class decides. -/
theorem rel_content?_of_classOf {marker : String} (role : Role)
    (h : R.classOf key = S.classOf key) :
    Option.Rel (Node.SameShape marker) (R.content? role key) (S.content? role key) := by
  rw [content?, content?, isSome_address?_of_classOf h]
  split
  · exact .some .raw
  · split
    · exact .none
    · exact .some .text

theorem rel_addressOf?_of_classOf (h : R.classOf key = S.classOf key) :
    Option.Rel (fun _ _ => True) (R.addressOf? key) (S.addressOf? key) := by
  have hsome := isSome_address?_of_classOf h
  rw [addressOf?, addressOf?]
  split
  · exact .none
  · cases hR : R.address? key <;> cases hS : S.address? key <;> rw [hR, hS] at hsome
    · exact .none
    · cases hsome
    · cases hsome
    · exact .some trivial

end Record

namespace Role

variable (role : Role) (attrs : Attributes)

theorem get?_setAddress_of_ne {name : String} (h : role.urlAttribute? ≠ some name)
    (address : Option String) : (role.setAddress attrs address).get? name = attrs.get? name := by
  rw [role.get?_setAddress, if_neg h]

theorem keys_setAddress {a b : Option String} (h : Option.Rel (fun _ _ => True) a b) :
    (role.setAddress attrs a).keys = (role.setAddress attrs b).keys := by
  cases h with
  | none => rfl
  | some _ =>
    cases role with
    | image => exact attrs.keys_insert_eq "src" _ _
    | link => exact attrs.keys_insert_eq "href" _ _
    | text => rfl

end Role

namespace Slot

variable {R S : Record} {marker : String} {s : Slot}

/-- A slot takes addresses where its role puts them, before and after. -/
theorem takesAddress_boundAttrs {attrs : Attributes} (hslot : ofAttrs? marker attrs = some s)
    {name : String} (hname : s.role.urlAttribute? = some name) :
    TakesAddress marker (s.boundAttrs R attrs) name := by
  refine ⟨s.contains_boundAttrs R (by rw [contains_eq, hslot]; rfl), ?_⟩
  have hrole : (s.boundAttrs R attrs).get? "data-role" = attrs.get? "data-role" :=
    Role.get?_setAddress_of_isUnwritten isUnwritten_roleAttribute s.role attrs _
  obtain ⟨keys, _, rfl⟩ := Option.map_eq_some_iff.1 hslot
  rw [hrole]
  change (Role.ofAttr (attrs.get? "data-role")).urlAttribute? = some name at hname
  cases hcase : Role.ofAttr (attrs.get? "data-role") <;> rw [hcase] at hname <;> cases hname
  · exact .inl ⟨rfl, rfl⟩
  · exact .inr ⟨rfl, rfl⟩

/-- The attributes of a slot differ by an address only. -/
theorem sameAttrs_boundAttrs {attrs : Attributes} (hslot : ofAttrs? marker attrs = some s)
    (h : ∀ key ∈ s.keys, R.classOf key = S.classOf key) :
    SameAttrs marker (s.boundAttrs R attrs) (s.boundAttrs S attrs) := by
  refine ⟨s.role.keys_setAddress attrs (rel_getLast?_filterMap fun key hkey =>
    Record.rel_addressOf?_of_classOf (h key hkey)), fun name hname => ?_⟩
  have hrole : s.role.urlAttribute? ≠ some name := fun hsome =>
    hname (takesAddress_boundAttrs hslot hsome)
  exact (s.role.get?_setAddress_of_ne attrs hrole _).trans
    (s.role.get?_setAddress_of_ne attrs hrole _).symm

/-- Content is written into a slot by both records or by none. -/
theorem rel_lastContent? (marker : String) (h : ∀ key ∈ s.keys, R.classOf key = S.classOf key) :
    Option.Rel (Node.SameShape marker) (s.lastContent? R) (s.lastContent? S) :=
  rel_getLast?_filterMap fun key hkey => Record.rel_content?_of_classOf s.role (h key hkey)

theorem misses_eq (h : ∀ key ∈ s.keys, R.classOf key = S.classOf key) :
    s.misses R = s.misses S :=
  List.countP_congr fun key hkey => by rw [Record.isNone_resolve_of_classOf (h key hkey)]

end Slot

theorem SameAttrs.refl (marker : String) (attrs : Attributes) : SameAttrs marker attrs attrs :=
  ⟨rfl, fun _ _ => rfl⟩

/-! ## Both walks -/

/-- Two records give values of the same classes to the keys of some elements. -/
def SameClasses (R S : Record) (marker : String) (es : List Element) : Prop :=
  ∀ e ∈ es, ∀ key ∈ e.keys marker, R.classOf key = S.classOf key

namespace Node

variable {R S : Record} {marker : String}

/-- Of a slot, the classes of its own keys are the same, and of what is below it. -/
theorem sameClasses_slot {tag : String} {attrs : Attributes} {children : List Node} {s : Slot}
    (h : SameClasses R S marker ((element tag attrs children).marked marker))
    (hslot : Slot.ofAttrs? marker attrs = some s) :
    (∀ key ∈ s.keys, R.classOf key = S.classOf key) ∧
      SameClasses R S marker (markedAll marker children) := by
  have hcontains : attrs.contains marker = true := by rw [Slot.contains_eq, hslot]; rfl
  rw [marked, if_pos hcontains] at h
  refine ⟨fun key hkey => h _ List.mem_cons_self key ?_,
    fun e he => h e (List.mem_cons_of_mem _ he)⟩
  obtain ⟨keys, hkeys, rfl⟩ := Option.map_eq_some_iff.1 hslot
  rw [Element.keys, Element.attr?, hkeys]
  exact hkey

theorem sameClasses_unmarked {tag : String} {attrs : Attributes} {children : List Node}
    (h : SameClasses R S marker ((element tag attrs children).marked marker))
    (hslot : Slot.ofAttrs? marker attrs = none) :
    SameClasses R S marker (markedAll marker children) := by
  have hcontains : attrs.contains marker = false := by rw [Slot.contains_eq, hslot]; rfl
  rwa [marked, hcontains] at h

theorem sameClasses_cons {n : Node} {ns : List Node}
    (h : SameClasses R S marker (markedAll marker (n :: ns))) :
    SameClasses R S marker (n.marked marker) ∧ SameClasses R S marker (markedAll marker ns) :=
  List.forall_mem_append.1 h

mutual
/-- Rewritten nodes have one shape. -/
theorem sameShape_rewrite : (n : Node) → SameClasses R S marker (n.marked marker) →
    SameShape marker (n.rewrite R marker) (n.rewrite S marker)
  | .text _, _ => .text
  | .raw _, _ => .raw
  | .element tag attrs children, h => by
    rw [rewrite, rewrite]
    cases hslot : Slot.ofAttrs? marker attrs with
    | none =>
      exact .element (.refl marker attrs)
        (sameShape_rewriteAll children (sameClasses_unmarked h hslot))
    | some s =>
      obtain ⟨hkeys, hbelow⟩ := sameClasses_slot h hslot
      refine .element (Slot.sameAttrs_boundAttrs hslot hkeys) ?_
      have hlast := Slot.rel_lastContent? marker hkeys
      cases hR : s.lastContent? R <;> cases hS : s.lastContent? S <;> rw [hR, hS] at hlast
      · exact sameShape_rewriteAll children hbelow
      · cases hlast
      · cases hlast
      · cases hlast with
        | some hnode => exact .cons hnode .nil

theorem sameShape_rewriteAll : (ns : List Node) → SameClasses R S marker (markedAll marker ns) →
    List.Forall₂ (SameShape marker) (rewriteAll R marker ns) (rewriteAll S marker ns)
  | [], _ => .nil
  | n :: ns, h =>
    .cons (sameShape_rewrite n (sameClasses_cons h).1) (sameShape_rewriteAll ns (sameClasses_cons h).2)
end

mutual
/-- The slots that were reached are counted alike. -/
theorem report_reached_eq : (n : Node) → SameClasses R S marker (n.marked marker) →
    Slot.report R (n.reached R marker) = Slot.report S (n.reached S marker)
  | .text _, _ => rfl
  | .raw _, _ => rfl
  | .element tag attrs children, h => by
    rw [reached, reached]
    cases hslot : Slot.ofAttrs? marker attrs with
    | none => exact report_reachedAll_eq children (sameClasses_unmarked h hslot)
    | some s =>
      obtain ⟨hkeys, hbelow⟩ := sameClasses_slot h hslot
      have hlast := Slot.rel_lastContent? marker hkeys
      simp only [Slot.report, Slot.misses_eq hkeys]
      -- a slot hides what is below it from both walks or from none
      cases hR : s.lastContent? R <;> cases hS : s.lastContent? S <;> rw [hR, hS] at hlast
      · exact congrArg _ (report_reachedAll_eq children hbelow)
      · cases hlast
      · cases hlast
      · rfl

theorem report_reachedAll_eq : (ns : List Node) → SameClasses R S marker (markedAll marker ns) →
    Slot.report R (reachedAll R marker ns) = Slot.report S (reachedAll S marker ns)
  | [], _ => rfl
  | n :: ns, h => by
    rw [reachedAll, reachedAll, Slot.report_append, Slot.report_append,
      report_reached_eq n (sameClasses_cons h).1, report_reachedAll_eq ns (sameClasses_cons h).2]
end

end Node

namespace Fragment

/-- Records that agree on the classes of all keys of a fragment leave fragments of one shape, with
the same report. -/
theorem bind_noninterference (f : Fragment) (marker : String) (R S : Record)
    (h : ∀ e ∈ f.marked marker, ∀ key ∈ e.keys marker, R.classOf key = S.classOf key) :
    SameShape marker (f.bind marker R).1 (f.bind marker S).1 ∧
      (f.bind marker R).2 = (f.bind marker S).2 := by
  rw [bind_last_write_wins, bind_last_write_wins]
  exact ⟨Node.sameShape_rewriteAll f h, Node.report_reachedAll_eq f h⟩

/-- Another address and other texts leave another fragment of the same shape. -/
theorem bind_noninterference_link :
    ∃ (f : Fragment) (R S : Record),
      (∀ e ∈ f.marked "data-key", ∀ key ∈ e.keys "data-key", R.classOf key = S.classOf key) ∧
      (f.bind "data-key" R).1 ≠ (f.bind "data-key" S).1 ∧ (f.bind "data-key" R).2 = ⟨2, 4, 1⟩ ∧
      SameShape "data-key" (f.bind "data-key" R).1 (f.bind "data-key" S).1 ∧
      (f.bind "data-key" R).2 = (f.bind "data-key" S).2 := by
  refine ⟨[.element "a" (.ofList [("data-key", "url"), ("data-role", "link")])
    [.element "p" (.ofList [("data-key", "title, n, x")])
      [.element "b" (.ofList [("data-key", "url")]) []]]],
    .ofFields [("url", .string "https://a.test/"), ("title", .string "t"), ("n", .null)],
    .ofFields [("url", .string "http://b.test/"), ("title", .bool true), ("n", .string "ftp://c")],
    ?_, ?_, ?_, bind_noninterference _ _ _ _ ?_⟩
  · decide +kernel
  · decide +kernel
  · decide +kernel
  · decide +kernel

end Fragment

end PostSlots
