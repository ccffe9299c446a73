import Mathlib.Data.List.Basic
import PostSlots.Proofs.Template.FirstRegistration

/-!
# Loading a file, and loading it again

A file of templates meets a registry that may hold any of them already, and may name an id more than
once. Its templates are registered in turn up to the first bad id, so that a load can fail with part
of the file registered. Whatever comes of it, nothing that was registered before is replaced, and
the same file has nothing to add any more.

Results:
1. `Registry.registerAll_of_good`: what templates with good ids add, and which of their ids are new.
2. `Registry.registerAll_of_bad`: a bad id keeps what stands before it, and nothing else.
3. `Registry.registerAll_again`: templates that are all there are not new.
4. `Registry.loadFile_outcome`: what loading a file answers and leaves, also when it is repeated.
-/

namespace PostSlots.Registry

open TemplateName (IsId)

/-! ## New ids -/

/-- The ids of templates that a registry does not have: each once, in the order in which the
templates name them first. -/
structure NewIds (r : Registry) (ts : List Template) (ids : List String) : Prop where
  mem_iff : ∀ id, id ∈ ids ↔ id ∉ r.ids ∧ ∃ t ∈ ts, t.id = id
  nodup : ids.Nodup
  first_order : ids.Pairwise fun a b => (ts.map Template.id).idxOf a < (ts.map Template.id).idxOf b

theorem mem_ids_iff (r : Registry) (id : String) : id ∈ r.ids ↔ ∃ t, r.get? id = some t :=
  FieldMap.mem_keys_iff _ id

theorem ext_get? {r r' : Registry} (h : ∀ id, r.get? id = r'.get? id) : r = r' := by
  cases r
  cases r'
  exact congrArg Registry.mk (FieldMap.ext_get? h)

theorem get?_attempt {t : Template} (h : IsId t.id) (r : Registry) (id : String) :
    (r.attempt t).2.get? id = (r.get? id).or (if t.id = id then some t else none) := by
  rw [attempt_of_isId h]
  by_cases hcontains : r.contains t.id = true
  · obtain ⟨u, hu⟩ := (FieldMap.contains_iff _ _).1 hcontains
    rw [if_pos hcontains]
    by_cases hid : t.id = id
    · subst hid
      rw [show r.get? t.id = some u from hu, Option.some_or]
    · rw [if_neg hid, Option.or_none]
  · have hnone : r.get? t.id = none :=
      Option.isNone_iff_eq_none.1 (Option.isSome_eq_false_iff.1 (Bool.eq_false_iff.2 hcontains))
    rw [if_neg hcontains]
    show (r.templates.insert t.id t).get? id = _
    rw [FieldMap.get?_insert]
    by_cases hid : t.id = id
    · subst hid
      rw [if_pos rfl, if_pos rfl, hnone, Option.none_or]
    · rw [if_neg (Ne.symm hid), if_neg hid, Option.or_none]
      rfl

theorem mem_ids_attempt {t : Template} (h : IsId t.id) (r : Registry) (id : String) :
    id ∈ (r.attempt t).2.ids ↔ id ∈ r.ids ∨ id = t.id := by
  rw [mem_ids_iff, mem_ids_iff, get?_attempt h]
  by_cases hid : t.id = id
  · simp [hid]
  · simp [hid, Ne.symm hid]

/-- The ids that are new from the second template on, and that of the first if it is new. -/
theorem NewIds.cons {r : Registry} {t : Template} {ts : List Template} {ids : List String}
    (hid : IsId t.id) (h : NewIds (r.attempt t).2 ts ids) :
    NewIds r (t :: ts) (if r.contains t.id then ids else t.id :: ids) := by
  have hmem (id : String) : id ∈ ids ↔ (id ∉ r.ids ∧ id ≠ t.id) ∧ ∃ u ∈ ts, u.id = id := by
    rw [h.mem_iff, mem_ids_attempt hid, not_or]
  have hnotin : t.id ∉ ids := fun hin => ((hmem t.id).1 hin).1.2 rfl
  -- the first template comes before all others, which keep their order
  have hlater : ids.Pairwise fun a b =>
      ((t :: ts).map Template.id).idxOf a < ((t :: ts).map Template.id).idxOf b := by
    refine h.first_order.imp_of_mem fun {a b} ha hb hlt => ?_
    rw [List.map_cons, List.idxOf_cons_ne _ ((hmem a).1 ha).1.2.symm,
      List.idxOf_cons_ne _ ((hmem b).1 hb).1.2.symm]
    exact Nat.succ_lt_succ hlt
  by_cases hcontains : r.contains t.id = true
  · have hold : t.id ∈ r.ids := (r.mem_ids_iff _).2 ((FieldMap.contains_iff _ _).1 hcontains)
    rw [if_pos hcontains]
    refine ⟨fun id => ?_, h.nodup, hlater⟩
    rw [hmem, List.exists_mem_cons_iff]
    constructor
    · rintro ⟨⟨hnew, _⟩, hnamed⟩
      exact ⟨hnew, .inr hnamed⟩
    · rintro ⟨hnew, rfl | hnamed⟩
      · exact absurd hold hnew
      · exact ⟨⟨hnew, fun heq => hnew (heq ▸ hold)⟩, hnamed⟩
  · have hnew : t.id ∉ r.ids := fun hin =>
      hcontains ((FieldMap.contains_iff _ _).2 ((r.mem_ids_iff _).1 hin))
    rw [if_neg hcontains]
    refine ⟨fun id => ?_, List.nodup_cons.2 ⟨hnotin, h.nodup⟩, List.pairwise_cons.2 ⟨?_, hlater⟩⟩
    · rw [List.mem_cons, hmem, List.exists_mem_cons_iff]
      by_cases hfirst : id = t.id
      · simp [hfirst, hnew]
      · simp [hfirst, Ne.symm hfirst]
    · intro id hin
      rw [List.map_cons, List.idxOf_cons_self, List.idxOf_cons_ne _ ((hmem id).1 hin).1.2.symm]
      exact Nat.succ_pos _

/-! ## Registering in turn -/

theorem registerAll_cons {t : Template} (h : IsId t.id) (r : Registry) (ts : List Template) :
    r.registerAll (t :: ts) =
      let later := (r.attempt t).2.registerAll ts
      (later.1.map fun ids => if r.contains t.id then ids else t.id :: ids, later.2) := by
  rw [registerAll, register_of_isId h, attempt_of_isId h]
  by_cases hcontains : r.contains t.id = true
  · simp only [if_pos hcontains]
    rfl
  · simp only [if_neg hcontains]
    rfl

/-- Templates with good ids are all registered, each id for its first template unless it was taken
before. The answer lists the ids that are new. -/
theorem registerAll_of_good {ts : List Template} (h : ∀ t ∈ ts, IsId t.id) (r : Registry) :
    ∃ ids after, r.registerAll ts = (.ok ids, after) ∧ NewIds r ts ids ∧
      ∀ id, after.get? id = (r.get? id).or (firstWith ts id) := by
  induction ts generalizing r with
  | nil =>
    refine ⟨[], r, rfl, ⟨fun id => ?_, List.nodup_nil, .nil⟩, fun id => ?_⟩
    · simp
    · exact Option.or_none.symm
  | cons t ts ih =>
    obtain ⟨hid, hrest⟩ := List.forall_mem_cons.1 h
    obtain ⟨ids, after, hall, hnew, hget⟩ := ih hrest (r.attempt t).2
    refine ⟨_, after, ?_, hnew.cons hid, fun id => ?_⟩
    · rw [registerAll_cons hid, hall]
      rfl
    · rw [hget, get?_attempt hid, Option.or_assoc, firstWith, firstWith, List.find?_cons]
      by_cases hname : t.id = id <;> simp [hname]

/-- Templates up to a bad id are registered as if there were no others. -/
theorem registerAll_of_bad {before : List Template} (h : ∀ t ∈ before, IsId t.id) {t : Template}
    {e : Error} (he : TemplateName.checkId t.id = .error e) (r : Registry) (rest : List Template) :
    r.registerAll (before ++ t :: rest) = (.error e, (r.registerAll before).2) := by
  induction before generalizing r with
  | nil => simp only [List.nil_append, registerAll, register_of_bad he]
  | cons u before ih =>
    obtain ⟨hid, hbefore⟩ := List.forall_mem_cons.1 h
    rw [List.cons_append, registerAll_cons hid, registerAll_cons hid, ih hbefore]
    rfl

/-- All ids are good, or one of them is the first bad one. -/
theorem good_or_bad (ts : List Template) :
    (∀ t ∈ ts, IsId t.id) ∨
      ∃ before t rest, ts = before ++ t :: rest ∧ (∀ u ∈ before, IsId u.id) ∧ ¬IsId t.id := by
  by_cases h : ∀ t ∈ ts, IsId t.id
  · exact .inl h
  · simp only [not_forall] at h
    obtain ⟨t, ht, hbad⟩ := h
    obtain ⟨u, hu⟩ := Option.isSome_iff_exists.1
      (List.find?_isSome (p := fun t => ¬IsId t.id) |>.2 ⟨t, ht, by simpa using hbad⟩)
    obtain ⟨hfirst, before, rest, hts, hbefore⟩ := List.find?_eq_some_iff_append.1 hu
    exact .inr ⟨before, u, rest, hts, by simpa using hbefore, by simpa using hfirst⟩

theorem get?_registerAll {r : Registry} {id : String} {t : Template} (h : r.get? id = some t)
    (ts : List Template) : (r.registerAll ts).2.get? id = some t := by
  have hgood {us : List Template} (hus : ∀ u ∈ us, IsId u.id) :
      (r.registerAll us).2.get? id = some t := by
    obtain ⟨ids, after, hall, _, hget⟩ := registerAll_of_good hus r
    rw [hall]
    dsimp only
    rw [hget, h, Option.some_or]
  rcases good_or_bad ts with hall | ⟨before, u, rest, rfl, hbefore, hbad⟩
  · exact hgood hall
  · obtain ⟨e, he⟩ := exists_error_of_not_isId hbad
    rw [registerAll_of_bad hbefore he]
    exact hgood hbefore

/-- Templates that are all there already are not new, and change nothing. -/
theorem registerAll_again {ts : List Template} (h : ∀ t ∈ ts, IsId t.id) (r : Registry) :
    (r.registerAll ts).2.registerAll ts = (.ok [], (r.registerAll ts).2) := by
  obtain ⟨ids, after, hfirst, _, hget⟩ := registerAll_of_good h r
  obtain ⟨ids', after', hsecond, hnew, hget'⟩ := registerAll_of_good h after
  have hsame : after' = after := ext_get? fun id => by
    rw [hget', hget, Option.or_assoc, Option.or_self]
  have hnone : ids' = [] := List.eq_nil_iff_forall_not_mem.2 fun id hin => by
    obtain ⟨hmissing, t, ht, hname⟩ := (hnew.mem_iff id).1 hin
    refine hmissing ((after.mem_ids_iff id).2 (Option.isSome_iff_exists.1 ?_))
    rw [hget, Option.isSome_or, firstWith, List.find?_isSome.2 ⟨t, ht, by simpa using hname⟩]
    exact Bool.or_true _
  rw [hfirst]
  dsimp only
  rw [hsecond, hsame, hnone]

/-- A second time, templates add nothing and fail as before. -/
theorem registerAll_repeated (r : Registry) (ts : List Template) :
    (r.registerAll ts).2.registerAll ts =
      ((r.registerAll ts).1.map fun _ => [], (r.registerAll ts).2) := by
  rcases good_or_bad ts with hall | ⟨before, u, rest, rfl, hbefore, hbad⟩
  · obtain ⟨ids, after, hfirst, _⟩ := registerAll_of_good hall r
    rw [registerAll_again hall, hfirst]
    rfl
  · obtain ⟨e, he⟩ := exists_error_of_not_isId hbad
    rw [registerAll_of_bad hbefore he, registerAll_of_bad hbefore he, registerAll_again hbefore]
    rfl

/-! ## The file -/

section
variable {disk : Disk} {path text : String}

theorem loadFile_of_unreadable {fault : FileFault} (h : disk path = .error fault) (r : Registry) :
    r.loadFile disk path = (.error (.io fault.text), r) := by
  rw [loadFile, h]

theorem loadFile_of_unparseable {fault : Yaml.Fault} (hdisk : disk path = .ok text)
    (h : Template.parseAll text = .error fault) (r : Registry) :
    r.loadFile disk path = (.error (.templateParse path fault.text), r) := by
  rw [loadFile, hdisk]
  simp only [Template.parseFrom, h]
  rfl

theorem loadFile_of_parsed {ts : List Template} (hdisk : disk path = .ok text)
    (h : Template.parseAll text = .ok ts) (r : Registry) :
    r.loadFile disk path = r.registerAll ts := by
  rw [loadFile, hdisk]
  simp only [Template.parseFrom, h]
  rfl

variable (disk path)

/-- A file has nothing to offer, or some templates. -/
theorem loadFile_cases :
    (∃ e, ∀ r : Registry, r.loadFile disk path = (.error e, r)) ∨
      ∃ ts, ∀ r : Registry, r.loadFile disk path = r.registerAll ts := by
  cases hdisk : disk path with
  | error fault => exact .inl ⟨_, loadFile_of_unreadable hdisk⟩
  | ok text =>
    cases hparse : Template.parseAll text with
    | error fault => exact .inl ⟨_, loadFile_of_unparseable hdisk hparse⟩
    | ok ts => exact .inr ⟨ts, loadFile_of_parsed hdisk hparse⟩

theorem get?_loadFile {r : Registry} {id : String} {t : Template} (h : r.get? id = some t) :
    (r.loadFile disk path).2.get? id = some t := by
  rcases loadFile_cases disk path with ⟨e, hload⟩ | ⟨ts, hload⟩
  · rw [hload]
    exact h
  · rw [hload]
    exact get?_registerAll h ts

theorem loadFile_repeated (r : Registry) :
    (r.loadFile disk path).2.loadFile disk path =
      ((r.loadFile disk path).1.map fun _ => [], (r.loadFile disk path).2) := by
  rcases loadFile_cases disk path with ⟨e, hload⟩ | ⟨ts, hload⟩
  · simp only [hload]
    rfl
  · simp only [hload]
    exact registerAll_repeated r ts

end

theorem exists_invalidTemplateId {id : String} (h : ¬IsId id) :
    ∃ reason, TemplateName.checkId id = .error (.invalidTemplateId id reason) := by
  obtain ⟨e, he⟩ := exists_error_of_not_isId h
  rw [TemplateName.checkId] at he ⊢
  cases hkebab : TemplateName.checkKebab id with
  | ok _ => rw [hkebab] at he; cases he
  | error fault => exact ⟨fault.reason, rfl⟩

/-- What loading a file into a registry answers, and the registry that it leaves. -/
structure LoadLaw (r : Registry) (disk : Disk) (path : String)
    (answer : Except Error (List String)) (after : Registry) : Prop where
  unreadable : ∀ fault, disk path = .error fault → answer = .error (.io fault.text) ∧ after = r
  unparseable : ∀ text fault, disk path = .ok text → Template.parseAll text = .error fault →
    answer = .error (.templateParse path fault.text) ∧ after = r
  /-- If all ids are good, those that are new are added and listed. -/
  loaded : ∀ text ts, disk path = .ok text → Template.parseAll text = .ok ts →
    (∀ t ∈ ts, IsId t.id) →
    ∃ ids, answer = .ok ids ∧ NewIds r ts ids ∧ (∀ id, id ∈ after.ids ↔ id ∈ r.ids ∨ id ∈ ids) ∧
      ∀ id, after.get? id = (r.get? id).or (firstWith ts id)
  /-- The first bad id is reported, and only what stands before it has been loaded. -/
  stopped : ∀ text before t rest, disk path = .ok text →
    Template.parseAll text = .ok (before ++ t :: rest) → (∀ u ∈ before, IsId u.id) → ¬IsId t.id →
    (∃ reason, TemplateName.checkId t.id = .error (.invalidTemplateId t.id reason) ∧
      answer = .error (.invalidTemplateId t.id reason)) ∧
    ∃ ids, r.registerAll before = (.ok ids, after)
  kept : ∀ id t, r.get? id = some t → after.get? id = some t
  /-- The same file adds nothing more, and fails again if it has failed. -/
  again : after.loadFile disk path = (answer.map fun _ => [], after)

/-- The ids of a registry after all of some templates have been registered. -/
theorem NewIds.mem_ids_iff {r after : Registry} {ts : List Template} {ids : List String}
    (h : NewIds r ts ids) (hget : ∀ id, after.get? id = (r.get? id).or (firstWith ts id))
    (id : String) : id ∈ after.ids ↔ id ∈ r.ids ∨ id ∈ ids := by
  have hfirst : (∃ t, firstWith ts id = some t) ↔ ∃ t ∈ ts, t.id = id := by
    rw [← Option.isSome_iff_exists, firstWith, List.find?_isSome]
    simp
  rw [h.mem_iff, ← hfirst, Registry.mem_ids_iff, Registry.mem_ids_iff, hget]
  cases r.get? id <;> simp

/-- A file adds the ids that are new, or those in front of its first bad id, or nothing at all;
what was registered stays, and loading the file once more makes no difference. -/
theorem loadFile_outcome (r : Registry) (disk : Disk) (path : String) :
    LoadLaw r disk path (r.loadFile disk path).1 (r.loadFile disk path).2 where
  unreadable fault hdisk := by
    rw [loadFile_of_unreadable hdisk]
    exact ⟨rfl, rfl⟩
  unparseable text fault hdisk hparse := by
    rw [loadFile_of_unparseable hdisk hparse]
    exact ⟨rfl, rfl⟩
  loaded text ts hdisk hparse hgood := by
    obtain ⟨ids, after, hall, hnew, hget⟩ := registerAll_of_good hgood r
    rw [loadFile_of_parsed hdisk hparse, hall]
    exact ⟨ids, rfl, hnew, hnew.mem_ids_iff hget, hget⟩
  stopped text before t rest hdisk hparse hbefore hbad := by
    obtain ⟨reason, hreason⟩ := exists_invalidTemplateId hbad
    obtain ⟨ids, after, hall, _⟩ := registerAll_of_good hbefore r
    rw [loadFile_of_parsed hdisk hparse, registerAll_of_bad hbefore hreason, hall]
    exact ⟨⟨reason, hreason, rfl⟩, ids, rfl⟩
  kept id t h := get?_loadFile disk path h
  again := loadFile_repeated disk path r

/-- A file whose third id is bad leaves its first template, also where it is loaded again. -/
theorem loadFile_outcome_halfway :
    let text := "templates: [\x7bid: a, content: [x]\x7d, \x7bid: a, content: []\x7d, " ++
      "\x7bid: B, content: []\x7d, \x7bid: c, content: []\x7d]"
    let disk : Disk := fun _ => .ok text
    let after : Registry := ⟨.ofList [("a", ⟨"a", [.text "x"]⟩)]⟩
    ∃ reason, Registry.empty.loadFile disk "cards.yaml" =
        (.error (.invalidTemplateId "B" reason), after) ∧
      after.loadFile disk "cards.yaml" = (.error (.invalidTemplateId "B" reason), after) := by
  intro text disk after
  have hparse : Template.parseAll text =
      .ok ([⟨"a", [.text "x"]⟩, ⟨"a", []⟩] ++ ⟨"B", []⟩ :: [⟨"c", []⟩]) := by
    decide +kernel
  have hlaw := loadFile_outcome .empty disk "cards.yaml"
  obtain ⟨⟨reason, _, hanswer⟩, ids, hbefore⟩ :=
    hlaw.stopped text _ _ _ rfl hparse (by decide +kernel) (by decide +kernel)
  have hafter : (Registry.empty.loadFile disk "cards.yaml").2 = after := by
    have hloaded : (Registry.empty.registerAll [⟨"a", [.text "x"]⟩, ⟨"a", []⟩]).2 = after := by
      decide +kernel
    rwa [hbefore] at hloaded
  refine ⟨reason, Prod.ext hanswer hafter, ?_⟩
  have hagain := hlaw.again
  rw [hafter, hanswer] at hagain
  exact hagain

end PostSlots.Registry
