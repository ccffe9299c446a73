import PostSlots.Proofs.Binding.Report

/-!
# Other spellings of a key

One path can be spelled in many ways, and a record answers all of them alike. So does a binding: a
template whose keys are spelled otherwise ends up with the same texts and addresses and the same
report. One spelling is apart. The body of a post becomes markup where its key is `record.text` to
the letter, and text where the same path is spelled otherwise, as in `record[text]`. Templates that
agree on where that spelling stands are bound alike, whatever other spellings there are in them.

Results:
1. `Write.plan_eq_iff`: two keys are written alike if both are that spelling, or neither is.
2. `Slot.SameWrites.lastContent?_eq`, `Slot.SameWrites.lastAddress?_eq`: slots that agree on it have
   the same last writes.
3. `Node.respelled_rewrite`, `Node.sameWrites_reached`: a binding keeps to the same path in both.
4. `Node.Respelled.sameWrites`: only a marker that declares the role as well can change it.
5. `Fragment.bind_respelled`: the bound fragments and the reports.
6. `Fragment.bind_respelled_body`: the body of a post under two spellings of its path.
-/

namespace PostSlots

/-! ## Spellings of keys, slots and fragments -/

/-- Two keys spell one path. -/
def SamePath (k l : String) : Prop :=
  KeyPath.parse k = KeyPath.parse l

/-- Two keys spell one path and agree on being the spelling that counts for the body of a post. -/
structure SameKey (k l : String) : Prop where
  path : SamePath k l
  body : k = "record.text" ↔ l = "record.text"

instance : DecidableRel SamePath :=
  fun k l => inferInstanceAs (Decidable (KeyPath.parse k = KeyPath.parse l))

instance : DecidableRel SameKey :=
  fun k l => decidable_of_iff (SamePath k l ∧ (k = "record.text" ↔ l = "record.text"))
    ⟨fun h => ⟨h.1, h.2⟩, fun h => ⟨h.path, h.body⟩⟩

namespace Slot

/-- Slots that ask for the same paths, key by key. -/
def SamePaths (s t : Slot) : Prop :=
  List.Forall₂ SamePath s.keys t.keys

/-- Slots that ask for the same paths, key by key, in spellings that agree on the body's. -/
def SameKeys (s t : Slot) : Prop :=
  List.Forall₂ SameKey s.keys t.keys

instance : DecidableRel SamePaths :=
  fun s t => inferInstanceAs (Decidable (List.Forall₂ SamePath s.keys t.keys))

instance : DecidableRel SameKeys :=
  fun s t => inferInstanceAs (Decidable (List.Forall₂ SameKey s.keys t.keys))

/-- Slots that ask for the same paths in the same role, in spellings that agree on the body's. -/
structure SameWrites (s t : Slot) : Prop where
  role : s.role = t.role
  keys : SameKeys s t

end Slot

/-- Two nodes are the same but for the values of markers, and their slots are alike. -/
inductive Node.Respelled (marker : String) (alike : Slot → Slot → Prop) : Node → Node → Prop
  | text {content : String} : Respelled marker alike (.text content) (.text content)
  | raw {markup : String} : Respelled marker alike (.raw markup) (.raw markup)
  | unmarked {tag : String} {attrs : Attributes} {cs ds : List Node} :
    Slot.ofAttrs? marker attrs = none → List.Forall₂ (Respelled marker alike) cs ds →
    Respelled marker alike (.element tag attrs cs) (.element tag attrs ds)
  | slot {tag : String} {as bs : Attributes} {s t : Slot} {cs ds : List Node} :
    (∀ name, name ≠ marker → as.get? name = bs.get? name) →
    Slot.ofAttrs? marker as = some s → Slot.ofAttrs? marker bs = some t → alike s t →
    List.Forall₂ (Respelled marker alike) cs ds →
    Respelled marker alike (.element tag as cs) (.element tag bs ds)

/-- Two fragments are the same but for the values of markers, and their slots are alike. -/
def Fragment.Respelled (marker : String) (alike : Slot → Slot → Prop) :
    Fragment → Fragment → Prop :=
  List.Forall₂ (Node.Respelled marker alike)

/-- Elements that differ in the keys of the marker. -/
theorem Node.Respelled.insert {marker tag a b : String} {alike : Slot → Slot → Prop}
    {attrs : Attributes} {cs ds : List Node}
    (hslots : alike ⟨Slot.parseKeys a, .ofAttr ((attrs.insert marker a).get? "data-role")⟩
      ⟨Slot.parseKeys b, .ofAttr ((attrs.insert marker b).get? "data-role")⟩)
    (hchildren : List.Forall₂ (Respelled marker alike) cs ds) :
    Respelled marker alike (.element tag (attrs.insert marker a) cs)
      (.element tag (attrs.insert marker b) ds) := by
  have hslot (keys : String) : Slot.ofAttrs? marker (attrs.insert marker keys) =
      some ⟨Slot.parseKeys keys, .ofAttr ((attrs.insert marker keys).get? "data-role")⟩ := by
    rw [Slot.ofAttrs?, attrs.get?_insert_self, Option.map_some]
    rfl
  refine .slot (fun name hname => ?_) (hslot a) (hslot b) hslots hchildren
  rw [attrs.get?_insert_of_ne hname, attrs.get?_insert_of_ne hname]

theorem Node.Respelled.children {marker tag utag : String} {alike : Slot → Slot → Prop}
    {as bs : Attributes} {cs ds : List Node}
    (h : Respelled marker alike (.element tag as cs) (.element utag bs ds)) :
    List.Forall₂ (Respelled marker alike) cs ds := by
  cases h with
  | unmarked _ hchildren => exact hchildren
  | slot _ _ _ _ hchildren => exact hchildren

/-! ## Keys -/

/-- Whatever the value and the role, two keys are written alike exactly if both are the spelling
that counts for the body of a post, or neither is. -/
theorem Write.plan_eq_iff {k l : String} :
    (∀ value role, plan k value role = plan l value role) ↔
      (k = "record.text" ↔ l = "record.text") := by
  constructor
  · intro h
    have hplan (key : String) : plan key .absent .text =
        if key = "record.text" then .markup (breakLines SlotValue.missing)
        else .text SlotValue.missing := rfl
    have hmissing := h .absent .text
    rw [hplan, hplan] at hmissing
    by_cases hk : k = "record.text"
    · by_cases hl : l = "record.text"
      · exact iff_of_true hk hl
      · rw [if_pos hk, if_neg hl] at hmissing
        cases hmissing
    · by_cases hl : l = "record.text"
      · rw [if_neg hk, if_pos hl] at hmissing
        cases hmissing
      · exact iff_of_false hk hl
  · intro h value role
    have hbody : k = bodyKey ↔ l = bodyKey := h
    unfold plan
    simp only [hbody]

theorem SameKey.refl (k : String) : SameKey k k :=
  ⟨rfl, Iff.rfl⟩

/-- A record answers every spelling of a path alike. -/
theorem Record.resolve_eq_of_samePath (R : Record) {k l : String} (h : SamePath k l) :
    R.resolve k = R.resolve l := by
  rw [resolve, resolve, KeyPath.resolve, KeyPath.resolve, h]

section
variable (R : Record) {k l : String}

theorem SameKey.address?_eq (h : SameKey k l) : R.address? k = R.address? l := by
  rw [Record.address?, Record.address?, R.resolve_eq_of_samePath h.path]

theorem SameKey.shown_eq (h : SameKey k l) : R.shown k = R.shown l := by
  rw [Record.shown, Record.shown, R.resolve_eq_of_samePath h.path]

theorem SameKey.content?_eq (h : SameKey k l) (role : Role) :
    R.content? role k = R.content? role l := by
  simp only [Record.content?, h.shown_eq R, h.address?_eq R, h.body]

theorem SameKey.addressOf?_eq (h : SameKey k l) : R.addressOf? k = R.addressOf? l := by
  simp only [Record.addressOf?, h.address?_eq R, h.body]

end

/-! ## Slots -/

/-- What is gathered from related lists is the same if related items give the same. -/
theorem filterMap_eq_of_forall₂ {α β : Type} {r : α → α → Prop} {f : α → Option β} {as bs : List α}
    (h : List.Forall₂ r as bs) (hf : ∀ a b, r a b → f a = f b) :
    as.filterMap f = bs.filterMap f := by
  induction h with
  | nil => rfl
  | cons hab _ ih => rw [List.filterMap_cons, List.filterMap_cons, hf _ _ hab, ih]

namespace Slot

variable (R : Record) {s t : Slot}

namespace SameWrites

theorem refl (s : Slot) : SameWrites s s :=
  ⟨rfl, List.forall₂_same.2 fun k _ => .refl k⟩

theorem lastContent?_eq (h : SameWrites s t) : s.lastContent? R = t.lastContent? R := by
  have hkeys : s.keys.filterMap (R.content? s.role) = t.keys.filterMap (R.content? s.role) :=
    filterMap_eq_of_forall₂ h.keys fun _ _ hkey => hkey.content?_eq R s.role
  rw [lastContent?, lastContent?, hkeys, h.role]

theorem lastAddress?_eq (h : SameWrites s t) : s.lastAddress? R = t.lastAddress? R := by
  have hkeys : s.keys.filterMap R.addressOf? = t.keys.filterMap R.addressOf? :=
    filterMap_eq_of_forall₂ h.keys fun _ _ hkey => hkey.addressOf?_eq R
  rw [lastAddress?, lastAddress?, hkeys]

theorem misses_eq (h : SameWrites s t) : s.misses R = t.misses R := by
  obtain ⟨ks, _⟩ := s
  obtain ⟨ls, _⟩ := t
  have hkeys : List.Forall₂ SameKey ks ls := h.keys
  rw [misses, misses]
  dsimp only
  clear h
  induction hkeys with
  | nil => rfl
  | cons hkey _ ih =>
    rw [List.countP_cons, List.countP_cons, ih, R.resolve_eq_of_samePath hkey.path]

end SameWrites

/-- What a slot is read as once its address is written. The marker may be the attribute that the
address goes to: the address is then read as keys. -/
def readBack (s : Slot) (marker : String) (address : Option String) : Slot :=
  match address with
  | some text => if s.role.urlAttribute? = some marker then ⟨parseKeys text, s.role⟩ else s
  | none => s

theorem ofAttrs?_setAddress {marker : String} {attrs : Attributes}
    (h : ofAttrs? marker attrs = some s) (address : Option String) :
    ofAttrs? marker (s.role.setAddress attrs address) = some (s.readBack marker address) := by
  have hrole : (s.role.setAddress attrs address).get? roleAttribute = attrs.get? roleAttribute :=
    Role.get?_setAddress_of_isUnwritten isUnwritten_roleAttribute s.role attrs address
  obtain ⟨keys, hkeys, hslot⟩ := Option.map_eq_some_iff.1 h
  rw [ofAttrs?, hrole, s.role.get?_setAddress, hkeys]
  cases address with
  | none => rw [Option.none_or, ite_self, Option.map_some, hslot, readBack]
  | some text =>
    rw [readBack]
    split
    · rw [Option.some_or, Option.map_some, ← hslot]
    · rw [Option.map_some, hslot]

theorem SameWrites.readBack {marker : String} (h : SameWrites s t) (address : Option String) :
    SameWrites (s.readBack marker address) (t.readBack marker address) := by
  cases address with
  | none => exact h
  | some text =>
    rw [Slot.readBack, Slot.readBack, h.role]
    split
    · exact .refl _
    · exact h

/-- Reports count slots alike that are written alike. -/
theorem report_eq_of_sameWrites {ss ts : List Slot} (h : List.Forall₂ SameWrites ss ts) :
    report R ss = report R ts := by
  induction h with
  | nil => rfl
  | cons hst _ ih => rw [report, report, ih, hst.misses_eq R, hst.keys.length_eq]

end Slot

/-! ## Nodes -/

namespace Node

variable (R : Record) {marker : String}

/-- A slot with its address and its content is a respelled slot again. -/
theorem respelled_slot {tag : String} {as bs : Attributes} {s t : Slot} {cs ds : List Node}
    (hattrs : ∀ name, name ≠ marker → as.get? name = bs.get? name)
    (hs : Slot.ofAttrs? marker as = some s) (ht : Slot.ofAttrs? marker bs = some t)
    (h : s.SameWrites t) (hchildren : List.Forall₂ (Respelled marker Slot.SameWrites) cs ds) :
    Respelled marker Slot.SameWrites (.element tag (s.boundAttrs R as) cs)
      (.element tag (t.boundAttrs R bs) ds) := by
  refine .slot (fun name hname => ?_) (Slot.ofAttrs?_setAddress hs _)
    (Slot.ofAttrs?_setAddress ht _) ?_ hchildren
  · rw [Slot.boundAttrs, Slot.boundAttrs, Role.get?_setAddress, Role.get?_setAddress, h.role,
      h.lastAddress?_eq R, hattrs name hname]
  · rw [h.lastAddress?_eq R]
    exact h.readBack _

mutual
/-- Rewritten nodes are the same but for the values of markers. -/
theorem respelled_rewrite : (n m : Node) → Respelled marker Slot.SameWrites n m →
    Respelled marker Slot.SameWrites (n.rewrite R marker) (m.rewrite R marker)
  | .text _, _, .text => .text
  | .raw _, _, .raw => .raw
  | .element tag attrs cs, _, .unmarked hslot hchildren => by
    simp only [rewrite, hslot]
    exact .unmarked hslot (respelled_rewriteAll cs _ hchildren)
  | .element tag as cs, _, .slot hattrs hs ht hsame hchildren => by
    simp only [rewrite, hs, ht]
    refine respelled_slot R hattrs hs ht hsame ?_
    rw [hsame.lastContent?_eq R]
    split
    · next node hlast =>
      -- what a key puts into a slot is a text or raw markup, hence the same in both
      refine .cons ?_ .nil
      cases node with
      | text _ => exact .text
      | raw _ => exact .raw
      | element _ _ _ => cases Slot.element?_lastContent hlast
    · exact respelled_rewriteAll cs _ hchildren

theorem respelled_rewriteAll : (ns ms : List Node) →
    List.Forall₂ (Respelled marker Slot.SameWrites) ns ms →
    List.Forall₂ (Respelled marker Slot.SameWrites) (rewriteAll R marker ns)
      (rewriteAll R marker ms)
  | [], _, .nil => .nil
  | n :: ns, _, .cons hnm hrest =>
    .cons (respelled_rewrite n _ hnm) (respelled_rewriteAll ns _ hrest)
end

mutual
/-- The slots that are reached are written alike. -/
theorem sameWrites_reached : (n m : Node) → Respelled marker Slot.SameWrites n m →
    List.Forall₂ Slot.SameWrites (n.reached R marker) (m.reached R marker)
  | .text _, _, .text => .nil
  | .raw _, _, .raw => .nil
  | .element tag attrs cs, _, .unmarked hslot hchildren => by
    simp only [reached, hslot]
    exact sameWrites_reachedAll cs _ hchildren
  | .element tag as cs, _, .slot _ hs ht hsame hchildren => by
    simp only [reached, hs, ht, hsame.lastContent?_eq R]
    refine .cons hsame ?_
    -- a slot hides what is below it from both bindings or from none
    split
    · exact .nil
    · exact sameWrites_reachedAll cs _ hchildren

theorem sameWrites_reachedAll : (ns ms : List Node) →
    List.Forall₂ (Respelled marker Slot.SameWrites) ns ms →
    List.Forall₂ Slot.SameWrites (reachedAll R marker ns) (reachedAll R marker ms)
  | [], _, .nil => .nil
  | n :: ns, _, .cons hnm hrest =>
    List.rel_append (sameWrites_reached n _ hnm) (sameWrites_reachedAll ns _ hrest)
end

mutual
/-- The role is declared in an attribute of its own, so that it is the same if the marker is another
one. -/
theorem Respelled.sameWrites (hmarker : marker ≠ "data-role") : (n m : Node) →
    Respelled marker Slot.SameKeys n m → Respelled marker Slot.SameWrites n m
  | .text _, _, .text => .text
  | .raw _, _, .raw => .raw
  | .element _ _ cs, _, .unmarked hslot hchildren =>
    .unmarked hslot (sameWrites_all hmarker cs _ hchildren)
  | .element _ as cs, _, .slot hattrs hs ht hsame hchildren => by
    refine .slot hattrs hs ht ⟨?_, hsame⟩ (sameWrites_all hmarker cs _ hchildren)
    obtain ⟨_, _, rfl⟩ := Option.map_eq_some_iff.1 hs
    obtain ⟨_, _, rfl⟩ := Option.map_eq_some_iff.1 ht
    exact congrArg Role.ofAttr (hattrs "data-role" hmarker.symm)

theorem Respelled.sameWrites_all (hmarker : marker ≠ "data-role") : (ns ms : List Node) →
    List.Forall₂ (Respelled marker Slot.SameKeys) ns ms →
    List.Forall₂ (Respelled marker Slot.SameWrites) ns ms
  | [], _, .nil => .nil
  | n :: ns, _, .cons hnm hrest =>
    .cons (sameWrites hmarker n _ hnm) (sameWrites_all hmarker ns _ hrest)
end

end Node

namespace Fragment

/-- Fragments whose slots ask for the same paths, in spellings that agree on which keys are
`record.text` to the letter, are the same after a binding but for the values of markers, and so are
the reports. Roles are not spelled by keys, unless the marker is the attribute of the role. No less
than this agreement will do: two keys are written alike exactly if both are `record.text` to the
letter, or neither is. -/
theorem bind_respelled (marker : String) (f g : Fragment) (R : Record) :
    (f.Respelled marker Slot.SameWrites g →
      Respelled marker Slot.SameWrites (f.bind marker R).1 (g.bind marker R).1 ∧
        (f.bind marker R).2 = (g.bind marker R).2) ∧
    (marker ≠ "data-role" → f.Respelled marker Slot.SameKeys g →
      f.Respelled marker Slot.SameWrites g) ∧
    ∀ k l, (∀ value role, Write.plan k value role = Write.plan l value role) ↔
      (k = "record.text" ↔ l = "record.text") := by
  refine ⟨fun h => ?_, fun hmarker h => ?_, fun k l => Write.plan_eq_iff⟩
  · rw [bind_last_write_wins, bind_last_write_wins]
    exact ⟨Node.respelled_rewriteAll R f g h,
      Slot.report_eq_of_sameWrites R (Node.sameWrites_reachedAll R f g h)⟩
  · exact Node.Respelled.sameWrites_all hmarker f g h

/-- A card of the first post, and the same card with blanks, brackets and empty names in its keys. -/
theorem bind_respelled_card :
    ∃ (f g : Fragment) (R : Record), f ≠ g ∧ (f.bind "data-key" R).2 = ⟨3, 3, 1⟩ ∧
      Respelled "data-key" Slot.SameWrites (f.bind "data-key" R).1 (g.bind "data-key" R).1 ∧
      (f.bind "data-key" R).2 = (g.bind "data-key" R).2 := by
  let card (link likes body : String) : Fragment :=
    [.element "a" ((FieldMap.ofList [("data-role", "link")]).insert "data-key" link)
      [.element "b" (FieldMap.empty.insert "data-key" likes) [],
        .element "p" (FieldMap.empty.insert "data-key" body) [.text "no text"]]]
  have hcard : (card "posts[0].url" "posts[0].likes" "record.text").Respelled "data-key"
      Slot.SameKeys (card " posts.0..url " "posts.0.likes" "record.text ,") := by
    refine .cons (.insert (by decide +kernel) ?_) .nil
    refine .cons (.insert (by decide +kernel) .nil) ?_
    exact .cons (.insert (by decide +kernel) (.cons .text .nil)) .nil
  let R : Record := .ofFields [("posts", .array [.object [("url", .string "https://a.test/")]]),
    ("record", .object [("text", .string "a\nb")])]
  obtain ⟨hbind, hsame, -⟩ := bind_respelled "data-key" _ _ R
  obtain ⟨hfragments, hreports⟩ := hbind (hsame (by decide) hcard)
  refine ⟨_, _, R, ?_, ?_, hfragments, hreports⟩
  · decide +kernel
  · decide +kernel

/-- The body of a post is markup under one spelling of its path and text under another. -/
theorem bind_respelled_body :
    ∃ (f g : Fragment) (R : Record), f.Respelled "data-key" Slot.SamePaths g ∧
      (f.bind "data-key" R).1 =
        [.element "p" (.ofList [("data-key", "record.text")]) [.raw "<b>a</b><br/>b"]] ∧
      (g.bind "data-key" R).1 =
        [.element "p" (.ofList [("data-key", "record[text]")]) [.text "<b>a</b>\nb"]] ∧
      ¬ Respelled "data-key" (fun _ _ => True) (f.bind "data-key" R).1 (g.bind "data-key" R).1 := by
  let body (key : String) : Fragment := [.element "p" (FieldMap.empty.insert "data-key" key) []]
  let R : Record := .ofFields [("record", .object [("text", .string "<b>a</b>\nb")])]
  have hsame : (body "record.text").Respelled "data-key" Slot.SamePaths (body "record[text]") :=
    .cons (.insert (by decide +kernel) .nil) .nil
  have hdotted : ((body "record.text").bind "data-key" R).1 =
      [.element "p" (.ofList [("data-key", "record.text")]) [.raw "<b>a</b><br/>b"]] := by
    decide +kernel
  have hbracketed : ((body "record[text]").bind "data-key" R).1 =
      [.element "p" (.ofList [("data-key", "record[text]")]) [.text "<b>a</b>\nb"]] := by
    decide +kernel
  refine ⟨_, _, R, hsame, hdotted, hbracketed, ?_⟩
  rw [hdotted, hbracketed]
  intro h
  -- a markup stands in the first paragraph and a text in the second
  have hchildren := (List.forall₂_cons.1 h).1.children
  cases (List.forall₂_cons.1 hchildren).1

end Fragment

end PostSlots
