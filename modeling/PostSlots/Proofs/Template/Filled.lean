import PostSlots.Command.Run
import PostSlots.Proofs.Dom.RawFree

/-!
# Registries of templates that were read

A program has templates of three kinds: the built-in one, those of template files, and those that
were decoded from a value. A registry that is filled with nothing else never gives out a template
with raw markup.

Results:
1. `Yaml.Ensures`: what holds of every result of reading a document, whatever aliases it follows.
2. `Template.isRawFree_parseAll`: the templates of a text are free of raw markup.
3. `Registry.Filled.loadFile`: loading a file fills a registry, whether it succeeds or not.
4. `Registry.Filled.isRawFree_instantiate`: what a filled registry gives out is free of raw markup.
5. `Command.filled_buildRegistry`: a command renders from a filled registry.
-/

namespace PostSlots

/-! ## Results of reading a document -/

namespace Yaml

variable {α β : Type}

/-- Every result of a reader has a property. -/
def Ensures (x : Extract α) (P : α → Prop) : Prop :=
  ∀ left a left', x.run left = .ok (a, left') → P a

theorem ensures_pure {P : α → Prop} {a : α} (ha : P a) : Ensures (pure a) P := by
  intro left b left' h
  cases h
  exact ha

theorem ensures_throw {P : α → Prop} (fault : Fault) : Ensures (throw fault) P := by
  intro left b left' h
  cases h

/-- Nothing need be known of what a reader goes on with. -/
theorem ensures_bind {P : β → Prop} {x : Extract α} {f : α → Extract β}
    (hf : ∀ a, Ensures (f a) P) : Ensures (x >>= f) P := by
  intro left b left' h
  rw [StateT.run_bind] at h
  cases hx : x.run left with
  | error fault => rw [hx] at h; cases h
  | ok result =>
    rw [hx] at h
    exact hf result.1 result.2 b left' h

theorem ensures_bind_of {Q : α → Prop} {P : β → Prop} {x : Extract α} {f : α → Extract β}
    (hx : Ensures x Q) (hf : ∀ a, Q a → Ensures (f a) P) : Ensures (x >>= f) P := by
  intro left b left' h
  rw [StateT.run_bind] at h
  cases hrun : x.run left with
  | error fault => rw [hrun] at h; cases h
  | ok result =>
    rw [hrun] at h
    exact hf result.1 (hx left result.1 result.2 hrun) result.2 b left' h

theorem ensures_mapM {P : β → Prop} {f : α → Extract β} (hf : ∀ a, Ensures (f a) P) (as : List α) :
    Ensures (as.mapM f) fun bs => ∀ b ∈ bs, P b := by
  induction as with
  | nil => exact ensures_pure (by simp)
  | cons a as ih =>
    rw [List.mapM_cons]
    refine ensures_bind_of (hf a) fun b hb => ensures_bind_of ih fun bs hbs => ensures_pure ?_
    intro c hc
    rcases List.mem_cons.1 hc with rfl | hc
    · exact hb
    · exact hbs c hc

end Yaml

/-! ## Template files -/

namespace Template

open Yaml (Document Ensures ensures_pure ensures_throw ensures_bind ensures_bind_of ensures_mapM)

theorem ensures_readNode (d : Document) (place : Place) :
    Ensures (readNode d place) fun n => n.isRawFree = true := by
  refine ensures_bind fun data => ?_
  split
  · next node hnode => exact ensures_pure (Node.isRawFree_ofDatum data node hnode)
  · exact ensures_throw _

theorem ensures_readTemplate (d : Document) (place : Place) :
    Ensures (readTemplate d place) fun t => t.content.isRawFree = true := by
  refine ensures_bind fun fields => ensures_bind fun idPlace => ensures_bind fun id => ?_
  refine ensures_bind fun contentPlace => ensures_bind fun items => ?_
  refine ensures_bind_of (ensures_mapM (ensures_readNode d) items) fun nodes hnodes => ?_
  exact ensures_pure (Node.areRawFree_iff.2 hnodes)

theorem ensures_readTemplates (d : Document) :
    Ensures (readTemplates d) fun ts => ∀ t ∈ ts, t.content.isRawFree = true := by
  refine ensures_bind fun fields => ensures_bind fun place => ?_
  cases place with
  | none => exact ensures_pure (by simp)
  | some place =>
    refine ensures_bind fun items => ?_
    exact ensures_mapM (ensures_readTemplate d) items

/-- A template that a text declares has no raw markup. -/
theorem isRawFree_parseAll {text : String} {ts : List Template} (h : parseAll text = .ok ts) :
    ∀ t ∈ ts, t.content.isRawFree = true := by
  rw [parseAll] at h
  cases hparse : Yaml.parse text with
  | error fault => rw [hparse] at h; cases h
  | ok document =>
    rw [hparse] at h
    cases document with
    | none => cases h; simp
    | some d =>
      cases hrun : (readTemplates d).run d.aliasLimit with
      | error fault => simp [hrun, bind, Except.bind] at h
      | ok result =>
        simp only [hrun, bind, Except.bind, pure, Except.pure, Except.ok.injEq] at h
        exact h ▸ ensures_readTemplates d _ _ _ hrun

theorem parseAll_of_parseFrom {origin text : String} {ts : List Template}
    (h : parseFrom origin text = .ok ts) : parseAll text = .ok ts := by
  rw [parseFrom] at h
  cases hparse : parseAll text with
  | error fault => rw [hparse] at h; cases h
  | ok us => rw [hparse] at h; cases h; rfl

theorem isRawFree_post : post.content.isRawFree = true := by
  decide

end Template

/-! ## Registries -/

namespace Registry

/-- A registry that holds nothing but the built-in template, templates of template files, and
templates decoded from values. -/
inductive Filled : Registry → Prop where
  | empty : Filled .empty
  | builtin {r r' : Registry} {isNew : Bool} (hr : Filled r)
      (h : r.register Template.post = .ok (isNew, r')) : Filled r'
  | parsed {r r' : Registry} {isNew : Bool} {text : String} {ts : List Template} {t : Template}
      (hr : Filled r) (hts : Template.parseAll text = .ok ts) (ht : t ∈ ts)
      (h : r.register t = .ok (isNew, r')) : Filled r'
  | decoded {r r' : Registry} {isNew : Bool} {id : String} {value : Json} {content : Fragment}
      (hr : Filled r) (hcontent : Fragment.decode? value = some content)
      (h : r.register ⟨id, content⟩ = .ok (isNew, r')) : Filled r'

/-- Registering a template adds nothing else. -/
theorem get?_register {r r' : Registry} {t u : Template} {isNew : Bool} {id : String}
    (h : r.register t = .ok (isNew, r')) (hu : r'.get? id = some u) :
    r.get? id = some u ∨ u = t := by
  rw [register] at h
  cases hid : TemplateName.checkId t.id with
  | error e => simp [hid, bind, Except.bind] at h
  | ok _ =>
    simp only [hid, bind, Except.bind, pure, Except.pure] at h
    split at h
    · cases h
      exact Or.inl hu
    · cases h
      rw [get?, FieldMap.get?_insert] at hu
      split at hu
      · cases hu
        exact Or.inr rfl
      · exact Or.inl hu

namespace Filled

/-- Templates of one text can be registered in turn. -/
theorem registerAll {text : String} {ts : List Template} (hts : Template.parseAll text = .ok ts)
    {r : Registry} (hr : r.Filled) (us : List Template) (hus : us ⊆ ts) :
    (r.registerAll us).2.Filled := by
  induction us generalizing r with
  | nil => exact hr
  | cons u us ih =>
    obtain ⟨hu, hrest⟩ := List.cons_subset.1 hus
    rw [Registry.registerAll]
    cases hregister : r.register u with
    | error e => exact hr
    | ok result => exact ih (hr.parsed hts hu hregister) hrest

theorem loadFile {r : Registry} (hr : r.Filled) (disk : Disk) (path : String) :
    (r.loadFile disk path).2.Filled := by
  rw [Registry.loadFile]
  cases disk path with
  | error fault => exact hr
  | ok text =>
    cases hts : Template.parseFrom path text with
    | error e => simp only [hts]; exact hr
    | ok ts =>
      simp only [hts]
      exact hr.registerAll (Template.parseAll_of_parseFrom hts) ts (List.Subset.refl ts)

theorem isRawFree_get? {r : Registry} (hr : r.Filled) {id : String} {t : Template}
    (h : r.get? id = some t) : t.content.isRawFree = true := by
  induction hr generalizing t with
  | empty => cases h
  | builtin _ hregister ih =>
    rcases get?_register hregister h with hold | rfl
    · exact ih hold
    · exact Template.isRawFree_post
  | parsed _ hts ht hregister ih =>
    rcases get?_register hregister h with hold | rfl
    · exact ih hold
    · exact Template.isRawFree_parseAll hts _ ht
  | decoded _ hcontent hregister ih =>
    rcases get?_register hregister h with hold | rfl
    · exact ih hold
    · exact Fragment.isRawFree_decode hcontent

/-- A copy of a template has no raw markup. -/
theorem isRawFree_instantiate {r : Registry} (hr : r.Filled) {id : Option String} {tag : String}
    {f : Fragment} (h : r.instantiate id tag = .ok f) : f.isRawFree = true := by
  simp only [instantiate] at h
  split at h
  · next t ht => cases h; exact hr.isRawFree_get? ht
  · cases h

end Filled

end Registry

/-- A command has no other templates than those of its file and the built-in one. -/
theorem Command.filled_buildRegistry {disk : Disk} {file : Option String} {r : Registry}
    (h : buildRegistry disk file = .ok r) : r.Filled := by
  have hpost {s : Registry} (hs : s.Filled)
      (hr : (s.register Template.post).map Prod.snd = .ok r) : r.Filled := by
    cases hregister : s.register Template.post with
    | error e => rw [hregister] at hr; cases hr
    | ok result => rw [hregister] at hr; cases hr; exact hs.builtin hregister
  unfold buildRegistry at h
  cases file with
  | none => exact hpost .empty h
  | some path =>
    have hloaded := Registry.Filled.empty.loadFile disk path
    cases hload : Registry.empty.loadFile disk path with
    | mk result s =>
      rw [hload] at hloaded
      cases result with
      | error e => simp [hload] at h; cases h
      | ok ids => simp only [hload] at h; exact hpost hloaded h

end PostSlots
