import Mathlib.Data.List.Induction
import PostSlots.Binding.Bind

/-!
# Binding by last writes

`Fragment.bind` walks through a fragment, changes elements before it enters them, and applies the
writes of a slot one after the other. This file gives the bound fragment by a recursion that never
reads what it has written: of all keys of a slot the last one that writes content decides over the
children, and the last one that names an address decides over the attribute of the role.

Results:
1. `Slot.foldl_writeKey`: the writes of a slot, one after the other, leave its last ones.
2. `Node.editMarked_visit`: the walk through a node leaves the rewritten node.
3. `Fragment.bind_last_write_wins`: the bound fragment is the rewritten one, and the report counts
   the slots that no other slot has overwritten, with their keys.
-/

namespace PostSlots

/-! ## What a key writes -/

namespace Record

/-- The text that stands for the value of a key. -/
def shown (R : Record) (key : String) : String :=
  match R.resolve key with
  | none => "undefined"
  | some value => value.display

/-- The value of a key, if it is the address of a web page. -/
def address? (R : Record) (key : String) : Option String :=
  match R.resolve key with
  | some (.string text) => if isWebUrl text then some text else none
  | _ => none

/-- The lines of a text with a `br` element between each two. -/
def withBreaks (text : String) : String :=
  String.ofList ("<br/>".toList.intercalate (Text.cut (· == '\n') text.toList))

/-- The one child that a key puts into a slot. The key of a post's body always writes content, any
other key only where it does not write an attribute. -/
def content? (R : Record) (role : Role) (key : String) : Option Node :=
  if key = "record.text" then some (.raw (withBreaks (R.shown key)))
  else if (R.address? key).isSome ∧ role ≠ .text then none
  else some (.text (R.shown key))

/-- The address that a key puts into the attribute of a role. -/
def addressOf? (R : Record) (key : String) : Option String :=
  if key = "record.text" then none else R.address? key

end Record

/-- The counts of two reports together. -/
def BindReport.add (a b : BindReport) : BindReport :=
  ⟨a.slots + b.slots, a.writes + b.writes, a.misses + b.misses⟩

/-- Puts an address into the attribute of a role. -/
def Role.setAddress (role : Role) (attrs : Attributes) (address : Option String) : Attributes :=
  match role, address with
  | .image, some address => attrs.insert "src" address
  | .link, some address => attrs.insert "href" address
  | _, _ => attrs

namespace Slot

variable (R : Record)

/-- What the last key that writes content puts into a slot. -/
def lastContent? (s : Slot) : Option Node :=
  (s.keys.filterMap (R.content? s.role)).getLast?

/-- The last address among the values of a slot's keys. -/
def lastAddress? (s : Slot) : Option String :=
  (s.keys.filterMap R.addressOf?).getLast?

/-- The attributes of a slot with its last address. -/
def boundAttrs (s : Slot) (attrs : Attributes) : Attributes :=
  s.role.setAddress attrs (s.lastAddress? R)

/-- How many keys of a slot name nothing. -/
def misses (s : Slot) : Nat :=
  s.keys.countP fun key => (R.resolve key).isNone

/-- What the counts of a report are when exactly these slots are visited. -/
def report : List Slot → BindReport
  | [] => .empty
  | s :: slots => (BindReport.mk 1 s.keys.length (s.misses R)).add (report slots)

/-- The slot that some attributes make of an element. -/
def ofAttrs? (marker : String) (attrs : Attributes) : Option Slot :=
  (attrs.get? marker).map fun keys => ⟨parseKeys keys, Role.ofAttr (attrs.get? roleAttribute)⟩

end Slot

/-! ## Rewriting -/

section
variable (R : Record) (marker : String)

mutual
/-- A node with every slot in its final state. -/
def Node.rewrite : Node → Node
  | .text content => .text content
  | .raw markup => .raw markup
  | .element tag attrs children =>
    match Slot.ofAttrs? marker attrs with
    | none => .element tag attrs (Node.rewriteAll children)
    | some slot =>
      .element tag (slot.boundAttrs R attrs) <|
        match slot.lastContent? R with
        | some node => [node]
        | none => Node.rewriteAll children

def Node.rewriteAll : List Node → List Node
  | [] => []
  | node :: nodes => node.rewrite :: Node.rewriteAll nodes
end

mutual
/-- The slots that are visited: a slot whose children are replaced hides the slots in them. -/
def Node.reached : Node → List Slot
  | .text _ | .raw _ => []
  | .element _ attrs children =>
    match Slot.ofAttrs? marker attrs with
    | none => Node.reachedAll children
    | some slot => slot :: if (slot.lastContent? R).isSome then [] else Node.reachedAll children

def Node.reachedAll : List Node → List Slot
  | [] => []
  | node :: nodes => node.reached ++ Node.reachedAll nodes
end

end

/-- A fragment with every slot in its final state. -/
def Fragment.rewrite (f : Fragment) (marker : String) (R : Record) : Fragment :=
  Node.rewriteAll R marker f

/-- The slots of a fragment that are visited, in document order. -/
def Fragment.reached (f : Fragment) (marker : String) (R : Record) : List Slot :=
  Node.reachedAll R marker f

/-! ## The writes of one slot -/

namespace BindReport

theorem add_assoc (a b c : BindReport) : (a.add b).add c = a.add (b.add c) := by
  simp [add, Nat.add_assoc]

theorem empty_add (a : BindReport) : empty.add a = a := by
  simp [add, empty]

end BindReport

theorem Slot.report_append (R : Record) (ss ts : List Slot) :
    Slot.report R (ss ++ ts) = (Slot.report R ss).add (Slot.report R ts) := by
  induction ss with
  | nil => exact (BindReport.empty_add _).symm
  | cons s ss ih => rw [List.cons_append, report, ih, report, BindReport.add_assoc]

theorem withBreaks_eq_breakLines (text : String) :
    Record.withBreaks text = Write.breakLines text := by
  refine congrArg String.ofList ?_
  induction text.toList with
  | nil => rfl
  | cons c cs ih =>
    rw [List.flatMap_cons, ← ih, Text.cut]
    obtain ⟨piece, pieces, hcut⟩ := List.exists_cons_of_ne_nil (Text.cut_ne_nil (· == '\n') cs)
    by_cases hc : c = '\n'
    · simp [hc, hcut, List.intercalate]
    · cases pieces <;> simp [hc, hcut, List.intercalate]

theorem Role.setAddress_setAddress (role : Role) (attrs : Attributes) (a b : Option String) :
    role.setAddress (role.setAddress attrs a) b = role.setAddress attrs (b.or a) := by
  cases role <;> cases a <;> cases b <;> simp [Role.setAddress]

theorem Role.urlAttribute?_eq_some (role : Role) {name : String} :
    role.urlAttribute? = some name ↔
      role = .image ∧ name = "src" ∨ role = .link ∧ name = "href" := by
  cases role <;> simp [Role.urlAttribute?, eq_comm]

/-- An address is found under the attribute of its role, and everything else where it was. -/
theorem Role.get?_setAddress (role : Role) (attrs : Attributes) (address : Option String)
    (name : String) :
    (role.setAddress attrs address).get? name =
      if role.urlAttribute? = some name then address.or (attrs.get? name) else attrs.get? name := by
  cases address with
  | none => cases role <;> simp [Role.setAddress]
  | some text =>
    cases role <;> simp [Role.setAddress, Role.urlAttribute?, FieldMap.get?_insert, eq_comm]

namespace Record

variable (R : Record) (key : String)

theorem display_classify : (SlotValue.classify (R.resolve key)).display = R.shown key := by
  unfold shown
  rcases R.resolve key with _ | value
  · rfl
  · cases value with
    | string text =>
      show (if isWebUrl text then SlotValue.url text else .scalar (.string text)).display =
        (Json.string text).display
      rw [Json.display_string]
      split
      · rfl
      · exact Json.display_string text
    | _ => rfl

theorem classify_resolve :
    SlotValue.classify (R.resolve key) = match R.address? key, R.resolve key with
      | some address, _ => .url address
      | none, some value => .scalar value
      | none, none => .absent := by
  unfold address?
  rcases R.resolve key with _ | value
  · rfl
  · cases value with
    | string text => simp only [SlotValue.classify]; split <;> rfl
    | _ => rfl

theorem isAbsent_classify :
    (SlotValue.classify (R.resolve key)).isAbsent = (R.resolve key).isNone := by
  unfold SlotValue.classify
  split
  · simp [*, SlotValue.isAbsent]
  · simp only [*, Option.isNone_some]; split <;> rfl
  · simp [*, SlotValue.isAbsent]

end Record

/-- What the write of one key adds to a change. -/
theorem Write.addTo_plan (R : Record) (role : Role) (key : String) (c : Change) :
    (Write.plan key (.classify (R.resolve key)) role).addTo c =
      ⟨role.setAddress c.attrs (R.addressOf? key),
        ((R.content? role key).map fun node => [node]).or c.content⟩ := by
  have hdisplay := R.display_classify key
  unfold Write.plan Record.addressOf? Record.content?
  -- the body of a post is markup whatever it says; of other values the class decides
  by_cases hkey : key = "record.text"
  · have hbody : key = bodyKey := hkey
    rw [if_pos hbody, if_pos hkey, if_pos hkey, hdisplay, withBreaks_eq_breakLines]
    cases role <;> rfl
  · have hbody : key ≠ bodyKey := hkey
    rw [if_neg hbody, if_neg hkey, if_neg hkey, ← hdisplay, R.classify_resolve key]
    cases R.address? key with
    | some address => cases role <;> rfl
    | none => cases R.resolve key <;> cases role <;> rfl

namespace Slot

theorem foldl_writeKey (R : Record) (s : Slot) (e : Element) (r : BindReport) :
    s.keys.foldl (writeKey R s.role) (.keep e, r) =
      (⟨s.boundAttrs R e.attrs, (s.lastContent? R).map fun node => [node]⟩,
        ⟨r.slots, r.writes + s.keys.length, r.misses + s.misses R⟩) := by
  obtain ⟨keys, role⟩ := s
  -- from the front to the last key, which overrules those before it
  induction keys using List.reverseRecOn with
  | nil => cases role <;> rfl
  | append_singleton keys key ih =>
    simp only [boundAttrs, lastAddress?, lastContent?, misses] at ih ⊢
    rw [List.foldl_append, ih, List.foldl_cons, List.foldl_nil, writeKey]
    simp only [Write.addTo_plan, Role.setAddress_setAddress, BindReport.addWrite,
      R.isAbsent_classify, List.filterMap_append, List.getLast?_append, List.countP_append,
      List.length_append]
    simp [Option.map_or, Nat.add_assoc]

theorem contains_eq (marker : String) (attrs : Attributes) :
    attrs.contains marker = (ofAttrs? marker attrs).isSome := by
  rw [ofAttrs?, Option.isSome_map]
  rfl

/-- A visit of a slot leaves its last writes and counts its keys. -/
theorem visit_eq {R : Record} {marker : String} {e : Element} {s : Slot} (r : BindReport)
    (h : ofAttrs? marker e.attrs = some s) :
    visit R marker e r =
      (⟨s.boundAttrs R e.attrs, (s.lastContent? R).map fun node => [node]⟩,
        r.add (report R [s])) := by
  have hslot : ofElement? e marker = some s := h
  rw [visit, hslot]
  simp only [foldl_writeKey]
  rfl

end Slot

/-! ## The walk -/

/-- What a key puts into a slot has nothing below it that could be visited. -/
theorem Record.element?_content {R : Record} {role : Role} {key : String} {node : Node}
    (h : R.content? role key = some node) : node.element? = none := by
  unfold Record.content? at h
  split at h
  · cases h; rfl
  · split at h
    · cases h
    · cases h; rfl

theorem Slot.element?_lastContent {R : Record} {s : Slot} {node : Node}
    (h : s.lastContent? R = some node) : node.element? = none := by
  obtain ⟨key, _, hkey⟩ := List.mem_filterMap.1 (List.mem_of_getLast? h)
  exact Record.element?_content hkey

section
variable (R : Record) (marker : String) {entered : Walk BindReport}

mutual
/-- The walk leaves the rewritten node and adds the slots it has reached to the report. Of the
walk through new children only those matter that hold no element. -/
theorem Node.editMarked_visit
    (hentered : ∀ node r, node.element? = none → entered [node] r = ([node], r)) (r : BindReport) :
    (n : Node) → Node.editMarked marker (Slot.visit R marker) entered n r =
      (n.rewrite R marker, r.add (Slot.report R (n.reached R marker)))
  | .text _ => rfl
  | .raw _ => rfl
  | .element tag attrs children => by
    have hchildren (r : BindReport) := Node.editMarkedAll_visit hentered r children
    rw [Node.editMarked, Node.rewrite, Node.reached]
    cases hslot : Slot.ofAttrs? marker attrs with
    | none =>
      simp only [Slot.contains_eq, hslot, Option.isSome_none, Bool.false_eq_true, if_false,
        hchildren]
    | some s =>
      rw [Slot.contains_eq, hslot, Option.isSome_some, if_pos rfl, Slot.visit_eq r hslot]
      cases hlast : s.lastContent? R with
      | none =>
        simp only [hlast, Option.map_none, hchildren, BindReport.add_assoc, ← Slot.report_append]
        rfl
      | some node =>
        -- the old children are gone with their slots, and the new child has none
        simp only [hlast, Option.map_some, hentered _ _ (Slot.element?_lastContent hlast)]
        rfl

theorem Node.editMarkedAll_visit
    (hentered : ∀ node r, node.element? = none → entered [node] r = ([node], r)) (r : BindReport) :
    (ns : List Node) → Node.editMarkedAll marker (Slot.visit R marker) entered ns r =
      (Node.rewriteAll R marker ns, r.add (Slot.report R (Node.reachedAll R marker ns)))
  | [] => rfl
  | node :: nodes => by
    rw [Node.editMarkedAll, Node.editMarked_visit hentered r node]
    dsimp only
    rw [Node.editMarkedAll_visit hentered _ nodes, BindReport.add_assoc, ← Slot.report_append]
    rfl
end

end

namespace Fragment

variable (f : Fragment) (marker : String) (R : Record)

theorem bind_eq_rewrite :
    f.bind marker R =
      (f.rewrite marker R, BindReport.empty.add (Slot.report R (f.reached marker R))) := by
  refine Node.editMarkedAll_visit R marker (fun node r hnode => ?_) .empty f
  cases node with
  | element tag attrs children => cases hnode
  | text _ => rfl
  | raw _ => rfl

theorem bind_fst : (f.bind marker R).1 = f.rewrite marker R :=
  congrArg Prod.fst (f.bind_eq_rewrite marker R)

/-- Binding leaves the last writes of every slot it reaches, and counts the keys of these slots. -/
theorem bind_last_write_wins :
    f.bind marker R = (f.rewrite marker R, Slot.report R (f.reached marker R)) := by
  rw [bind_eq_rewrite, BindReport.empty_add]

end Fragment

end PostSlots
