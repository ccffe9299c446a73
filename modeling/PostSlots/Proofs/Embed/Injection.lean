import PostSlots.Embed
import PostSlots.Post.Canned
import PostSlots.Proofs.Binding.LastWrite
import PostSlots.Proofs.Template.Filled

/-!
# What servers can put into a page

Servers choose the record that is bound to a template. They decide over raw markup only where the
template asks for the body of a post, and over attributes only where a slot has the role of an
image or a link, with nothing but the address of a web page. Everything else that can be attacked
comes from the template.

Results:
1. `Fragment.elementAt?_rewrite`: an element of a bound fragment stands where one of the template
   stands.
2. `Element.raw_rewrite`: raw markup in a slot is the body of the post.
3. `Element.attr?_rewrite`: an attribute is the template's or an address of the record.
4. `Embed.mount_ok`: a mount that renders binds the record of its link to its template.
5. `Embed.mount_confines_servers`: all of it for a whole mount.
-/

namespace PostSlots

variable (R : Record) (marker : String)

/-- An element in its final state. -/
def Element.rewrite (e : Element) : Element :=
  match Slot.ofElement? e marker with
  | none => { e with children := Node.rewriteAll R marker e.children }
  | some s =>
    ⟨e.tag, s.boundAttrs R e.attrs,
      match s.lastContent? R with
      | some node => [node]
      | none => Node.rewriteAll R marker e.children⟩

namespace Node

theorem rewriteAll_eq_map (ns : List Node) :
    rewriteAll R marker ns = ns.map (rewrite R marker) := by
  induction ns with
  | nil => rfl
  | cons n ns ih => rw [rewriteAll, ih, List.map_cons]

theorem element?_rewrite (n : Node) :
    (n.rewrite R marker).element? = n.element?.map (Element.rewrite R marker) := by
  cases n with
  | text _ => rfl
  | raw _ => rfl
  | element tag attrs children =>
    have hslot : Slot.ofElement? ⟨tag, attrs, children⟩ marker = Slot.ofAttrs? marker attrs := rfl
    rw [rewrite, element?, Option.map_some, Element.rewrite, hslot]
    cases Slot.ofAttrs? marker attrs <;> rfl

/-- Only raw markup becomes raw markup. -/
theorem eq_raw_of_rewrite {n : Node} {markup : String} (h : n.rewrite R marker = .raw markup) :
    n = .raw markup := by
  cases n with
  | text _ => cases h
  | raw _ => exact h
  | element tag attrs children =>
    rw [rewrite] at h
    split at h <;> cases h

theorem raw_notMem_rewriteAll {ns : List Node} (hns : areRawFree ns = true) (markup : String) :
    Node.raw markup ∉ rewriteAll R marker ns := by
  rw [rewriteAll_eq_map]
  intro h
  obtain ⟨n, hn, hraw⟩ := List.mem_map.1 h
  have hfree := areRawFree_iff.1 hns n hn
  rw [eq_raw_of_rewrite R marker hraw] at hfree
  cases hfree

end Node

/-! ## Positions -/

namespace Fragment

/-- Nothing stands inside what has no elements. -/
theorem elementAt?_singleton {n : Node} (hn : n.element? = none) (path : List Nat) :
    elementAt? [n] path = none := by
  have hnone (i : Nat) : (([n] : Fragment)[i]?).bind Node.element? = none := by
    cases i <;> simp [hn]
  cases path with
  | nil => rfl
  | cons i path => cases path <;> simp [elementAt?, hnone i]

theorem element?_rewriteAll {f : Fragment} {i : Nat} {e : Element}
    (h : (Node.rewriteAll R marker f)[i]?.bind Node.element? = some e) :
    ∃ b, f[i]?.bind Node.element? = some b ∧ e = b.rewrite R marker := by
  rw [Node.rewriteAll_eq_map, List.getElem?_map] at h
  cases hn : f[i]? with
  | none => rw [hn] at h; cases h
  | some n =>
    rw [hn, Option.map_some, Option.bind_some, Node.element?_rewrite] at h
    obtain ⟨b, hb, rfl⟩ := Option.map_eq_some_iff.1 h
    exact ⟨b, hb, rfl⟩

/-- An element of a bound fragment was at its place before. -/
theorem elementAt?_rewrite {f : Fragment} {path : List Nat} {e : Element}
    (h : (f.rewrite marker R).elementAt? path = some e) :
    ∃ b, f.elementAt? path = some b ∧ e = b.rewrite R marker := by
  induction f, path using elementAt?.induct generalizing e with
  | case1 => cases h
  | case2 f i => exact element?_rewriteAll R marker h
  | case3 f i j path ih =>
    rw [elementAt?] at h ⊢
    obtain ⟨d, hd, hbelow⟩ := Option.bind_eq_some_iff.1 h
    obtain ⟨b, hb, rfl⟩ := element?_rewriteAll R marker hd
    suffices hchild : (rewrite b.children marker R).elementAt? (j :: path) = some e by
      obtain ⟨c, hc, hec⟩ := ih b hchild
      exact ⟨c, Option.bind_eq_some_iff.2 ⟨b, hb, hc⟩, hec⟩
    rw [Element.rewrite] at hbelow
    cases hslot : Slot.ofElement? b marker with
    | none => rw [hslot] at hbelow; exact hbelow
    | some s =>
      simp only [hslot] at hbelow
      cases hlast : s.lastContent? R with
      | none => rw [hlast] at hbelow; exact hbelow
      | some node =>
        -- new children have no elements, so nothing is found among them
        simp only [hlast, elementAt?_singleton (Slot.element?_lastContent hlast)] at hbelow
        cases hbelow

end Fragment

/-! ## Raw markup -/

/-- Only the body of a post becomes raw markup. -/
theorem Slot.lastContent?_eq_raw {s : Slot} {markup : String}
    (h : s.lastContent? R = some (.raw markup)) :
    "record.text" ∈ s.keys ∧ markup = Record.withBreaks (R.shown "record.text") := by
  obtain ⟨key, hkey, hcontent⟩ := List.mem_filterMap.1 (List.mem_of_getLast? h)
  rw [Record.content?] at hcontent
  split at hcontent
  · next heq =>
    have hmarkup := Node.raw.inj (Option.some.inj hcontent)
    rw [heq] at hkey hmarkup
    exact ⟨hkey, hmarkup.symm⟩
  · split at hcontent
    · cases hcontent
    · exact absurd (Option.some.inj hcontent) (by simp)

namespace Element

/-- Raw markup among the new children of an element stands there alone and is the body of the
post, for which the element has asked. -/
theorem raw_rewrite {e : Element} (he : Node.areRawFree e.children = true) {markup : String}
    (h : Node.raw markup ∈ (e.rewrite R marker).children) :
    (e.rewrite R marker).children = [.raw markup] ∧
      (∃ s, Slot.ofElement? e marker = some s ∧ "record.text" ∈ s.keys) ∧
      markup = Record.withBreaks (R.shown "record.text") := by
  have hkept := Node.raw_notMem_rewriteAll R marker he markup
  rw [rewrite] at h ⊢
  cases hslot : Slot.ofElement? e marker with
  | none => rw [hslot] at h; exact absurd h hkept
  | some s =>
    simp only [hslot] at h ⊢
    cases hlast : s.lastContent? R with
    | none => rw [hlast] at h; exact absurd h hkept
    | some node =>
      simp only [hlast, List.mem_singleton] at h ⊢
      subst h
      obtain ⟨hkey, hmarkup⟩ := Slot.lastContent?_eq_raw R hlast
      exact ⟨rfl, ⟨s, rfl, hkey⟩, hmarkup⟩

end Element

/-! ## Attributes -/

theorem exists_of_isWebUrl {text : String} (h : isWebUrl text = true) :
    ∃ url, Url.parse text = .ok url ∧ (url.scheme = "http" ∨ url.scheme = "https") := by
  rw [isWebUrl] at h
  split at h
  · next url hurl => exact ⟨url, hurl, by simpa [Url.isWeb] using h⟩
  · cases h

/-- An address that a slot writes is a string of the record, and a web page can be there. -/
theorem Slot.lastAddress?_eq_some {s : Slot} {text : String} (h : s.lastAddress? R = some text) :
    ∃ key ∈ s.keys, R.resolve key = some (.string text) ∧ isWebUrl text = true := by
  obtain ⟨key, hkey, haddress⟩ := List.mem_filterMap.1 (List.mem_of_getLast? h)
  refine ⟨key, hkey, ?_⟩
  rw [Record.addressOf?] at haddress
  split at haddress
  · cases haddress
  · rw [Record.address?] at haddress
    split at haddress
    · next value hvalue =>
      split at haddress
      · next hweb =>
        rw [← Option.some.inj haddress]
        exact ⟨hvalue, hweb⟩
      · cases haddress
    · cases haddress

/-- An attribute stays as it is or is the address that its role received. -/
theorem Role.get?_setAddress_cases (role : Role) (attrs : Attributes) (address : Option String)
    (name : String) :
    (role.setAddress attrs address).get? name = attrs.get? name ∨
      ∃ text, address = some text ∧ (role.setAddress attrs address).get? name = some text ∧
        (role = .image ∧ name = "src" ∨ role = .link ∧ name = "href") := by
  rw [role.get?_setAddress attrs address name]
  split
  · next hrole =>
    cases address with
    | none => exact Or.inl rfl
    | some text => exact Or.inr ⟨text, rfl, rfl, role.urlAttribute?_eq_some.1 hrole⟩
  · exact Or.inl rfl

namespace Element

/-- What a record may write into an attribute: the address of a web page, where the element is a
slot whose role has that attribute. -/
def Admits (e : Element) (name value : String) : Prop :=
  ∃ s, Slot.ofElement? e marker = some s ∧
    (s.role = .image ∧ name = "src" ∨ s.role = .link ∧ name = "href") ∧
    ∃ key ∈ s.keys, R.resolve key = some (.string value) ∧
      ∃ url, Url.parse value = .ok url ∧ (url.scheme = "http" ∨ url.scheme = "https")

/-- An attribute stays as it is or receives what may be written into it. -/
theorem attr?_rewrite (e : Element) (name : String) :
    (e.rewrite R marker).attr? name = e.attr? name ∨
      ∃ value, (e.rewrite R marker).attr? name = some value ∧ e.Admits R marker name value := by
  rw [rewrite]
  cases hslot : Slot.ofElement? e marker with
  | none => exact Or.inl rfl
  | some s =>
    rcases s.role.get?_setAddress_cases e.attrs (s.lastAddress? R) name with
      hold | ⟨text, hlast, hnew, hrole⟩
    · exact Or.inl hold
    · obtain ⟨key, hkey, hresolve, hweb⟩ := Slot.lastAddress?_eq_some R hlast
      exact Or.inr ⟨text, hnew, s, hslot, hrole, key, hkey, hresolve, exists_of_isWebUrl hweb⟩

theorem tag_rewrite (e : Element) : (e.rewrite R marker).tag = e.tag := by
  rw [rewrite]
  split <;> rfl

end Element

/-! ## Mounting -/

/-- The marker of an element lists a key. -/
def Element.AsksFor (e : Element) (key : String) : Prop :=
  ∃ keys, e.attr? Slot.defaultMarker = some keys ∧ key ∈ Slot.parseKeys keys

/-- Neither slots nor keys are attributes that a record is written into. -/
theorem Element.asksFor_rewrite {e : Element} {key : String} :
    (e.rewrite R Slot.defaultMarker).AsksFor key ↔ e.AsksFor key := by
  have hmarker : (e.rewrite R Slot.defaultMarker).attr? Slot.defaultMarker =
      e.attr? Slot.defaultMarker := by
    rcases e.attr?_rewrite R Slot.defaultMarker Slot.defaultMarker with
      hold | ⟨value, _, s, _, hrole, _⟩
    · exact hold
    · rcases hrole with ⟨_, hname⟩ | ⟨_, hname⟩
      · exact absurd hname (by decide)
      · exact absurd hname (by decide)
  rw [AsksFor, AsksFor, hmarker]

/-- A fragment that differs from a template by what servers may decide. -/
structure Fragment.Confined (template : Fragment) (f : Fragment) : Prop where
  /-- Raw markup stands inside of elements. -/
  raw_top : ∀ markup, Node.raw markup ∉ f
  /-- It stands there alone, the element has asked for the body of the post, and that is what it
  is. -/
  raw_child : ∀ path e markup, f.elementAt? path = some e → Node.raw markup ∈ e.children →
    e.children = [.raw markup] ∧ e.AsksFor "record.text" ∧
      markup = Record.withBreaks (R.shown "record.text")
  /-- There is none where the template never asks for the body. -/
  raw_free : (∀ path b, template.elementAt? path = some b → ¬b.AsksFor "record.text") →
    f.isRawFree = true
  /-- An element is one of the template, and its attributes are but for addresses. -/
  element : ∀ path e, f.elementAt? path = some e →
    ∃ b, template.elementAt? path = some b ∧ e.tag = b.tag ∧
      ∀ name, e.attr? name = b.attr? name ∨
        ∃ value, e.attr? name = some value ∧ b.Admits R Slot.defaultMarker name value

theorem Fragment.confined_rewrite {f : Fragment} (hf : f.isRawFree = true) :
    Confined R f (f.rewrite Slot.defaultMarker R) := by
  have htop : ∀ markup, Node.raw markup ∉ f.rewrite Slot.defaultMarker R :=
    Node.raw_notMem_rewriteAll R Slot.defaultMarker hf
  have hraw : ∀ path e markup, (f.rewrite Slot.defaultMarker R).elementAt? path = some e →
      Node.raw markup ∈ e.children → e.children = [.raw markup] ∧ e.AsksFor "record.text" ∧
        markup = Record.withBreaks (R.shown "record.text") := by
    intro path e markup he hmem
    obtain ⟨b, hb, rfl⟩ := elementAt?_rewrite R Slot.defaultMarker he
    obtain ⟨halone, ⟨s, hs, hkey⟩, hmarkup⟩ :=
      Element.raw_rewrite R Slot.defaultMarker (isRawFree_elementAt hf hb) hmem
    obtain ⟨keys, hkeys, rfl⟩ := Option.map_eq_some_iff.1 hs
    exact ⟨halone, (Element.asksFor_rewrite R).2 ⟨keys, hkeys, hkey⟩, hmarkup⟩
  refine ⟨htop, hraw, fun hnever => ?_, fun path e he => ?_⟩
  · refine isRawFree_of_elementAt _ htop fun path e he markup hmem => ?_
    obtain ⟨b, hb, rfl⟩ := elementAt?_rewrite R Slot.defaultMarker he
    exact hnever path b hb ((Element.asksFor_rewrite R).1 (hraw path _ markup he hmem).2.1)
  · obtain ⟨b, hb, rfl⟩ := elementAt?_rewrite R Slot.defaultMarker he
    exact ⟨b, hb, b.tag_rewrite R Slot.defaultMarker, b.attr?_rewrite R Slot.defaultMarker⟩

namespace Embed

variable {e : Embed} {registry : Registry} {apiBase : Option String}
  {oracle : Dialogue.Oracle Request (Except Error Json)} {asked : List Request}
  {rendered : Rendered}

/-- A mount that renders has bound the record of its link to its template. -/
theorem mount_ok (h : ((e.mount registry apiBase).run oracle asked).1.1 = .ok rendered) :
    ∃ template record,
      registry.instantiate e.host.template e.host.tag = .ok template ∧
        ((acquire e.host apiBase).run oracle asked).1 = .ok record ∧
        rendered = render template record := by
  rw [mount] at h
  split at h
  · cases h
  · cases htemplate : registry.instantiate e.host.template e.host.tag with
    | error error => rw [htemplate] at h; cases h
    | ok template =>
      rw [htemplate] at h
      simp only [Dialogue.run_bind] at h
      cases hrecord : ((acquire e.host apiBase).run oracle asked).1 with
      | error error => rw [hrecord] at h; cases h
      | ok record =>
        rw [hrecord] at h
        cases h
        exact ⟨template, record, rfl, rfl, rfl⟩

/-- Whatever servers answer, they change a template of a filled registry by no more than the body
of the post, where it is asked for, and by addresses of web pages, where these belong. -/
theorem mount_confines_servers (hregistry : registry.Filled)
    (h : ((e.mount registry apiBase).run oracle asked).1.1 = .ok rendered) :
    ∃ template record,
      registry.instantiate e.host.template e.host.tag = .ok template ∧
        ((acquire e.host apiBase).run oracle asked).1 = .ok record ∧
        Fragment.Confined record template rendered.fragment := by
  obtain ⟨template, record, htemplate, hrecord, rfl⟩ := mount_ok h
  refine ⟨template, record, htemplate, hrecord, ?_⟩
  rw [show (render template record).fragment = template.rewrite Slot.defaultMarker record from
    template.bind_fst Slot.defaultMarker record]
  exact Fragment.confined_rewrite record (hregistry.isRawFree_instantiate htemplate)

/-- Markup in the text of a post stays where a decoded template asks for it. -/
theorem mount_confines_servers_card :
    ∃ (registry : Registry) (e : Embed) (oracle : Dialogue.Oracle Request (Except Error Json))
      (rendered : Rendered), registry.Filled ∧
      ((e.mount registry none).run oracle []).1.1 = .ok rendered ∧
      rendered.fragment = [.element "p" (.ofList [("data-key", "record.text"), ("title", "post")])
        [.raw "a<br/><i>b</i>"]] ∧
      ∃ template record, Fragment.Confined record template rendered.fragment := by
  have hcontent : Fragment.decode? (.array [.object [("attrs", .object
      [("data-key", .string "record.text"), ("title", .string "post")]), ("tag", .string "p")]]) =
      some [.element "p" (.ofList [("data-key", "record.text"), ("title", "post")]) []] := by
    decide +kernel
  have hregister : Registry.empty.register ⟨"post-card-template",
      [.element "p" (.ofList [("data-key", "record.text"), ("title", "post")]) []]⟩ =
      .ok (true, ⟨.ofList [("post-card-template", ⟨"post-card-template",
        [.element "p" (.ofList [("data-key", "record.text"), ("title", "post")]) []]⟩)]⟩) := by
    decide +kernel
  have hfilled := Registry.Filled.empty.decoded hcontent hregister
  have hrun : (((ofHost ⟨"post-card", none, some "https://bsky.app/profile/a.test/post/1"⟩).mount
      ⟨.ofList [("post-card-template", ⟨"post-card-template",
        [.element "p" (.ofList [("data-key", "record.text"), ("title", "post")]) []]⟩)]⟩ none).run
      (Request.canned [(Request.getProfile, .object [("did", .string "did:plc:1")]),
        (Request.getPosts, .object [("posts", .array
          [.object [("record", .object [("text", .string "a\n<i>b</i>")])]])])]) []).1.1 =
      .ok ⟨[.element "p" (.ofList [("data-key", "record.text"), ("title", "post")])
        [.raw "a<br/><i>b</i>"]], ⟨1, 1, 0⟩⟩ := by
    decide +kernel
  obtain ⟨template, record, _, _, hconfined⟩ := mount_confines_servers hfilled hrun
  exact ⟨_, _, _, _, hfilled, hrun, rfl, template, record, hconfined⟩

end Embed

end PostSlots
