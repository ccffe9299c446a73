import PostSlots.Proofs.Command.Checks
import PostSlots.Proofs.Template.Loading

/-!
# Templates of a file and the built-in one

A command that is given a file of templates registers these first and the built-in template last.
So a template of the file that has the id of the built-in one takes its place, and of several
templates of the file with one id the first one counts.

Results:
1. `Command.buildRegistry_of_accepted`: the registry of a file that is accepted.
2. `Command.runLine_templates`: the listing of the ids.
3. `Command.runLine_render`: a run that renders a post, by what the registry has for its id.
4. `Command.file_shadows_builtin`: which ids are listed, and which content is rendered.
-/

namespace PostSlots.Command

open TemplateName (IsId)
open Registry (firstWith)

/-- The templates of a file that is accepted: it can be read, and all its ids are good. Without a
file there are none. -/
inductive Accepted (disk : Disk) : Option String → List Template → Prop
  | noFile : Accepted disk none []
  | file {path text : String} {ts : List Template} : disk path = .ok text →
    Template.parseFrom path text = .ok ts → (∀ t ∈ ts, IsId t.id) → Accepted disk (some path) ts

/-! ## The registry -/

/-- The templates of a file that is accepted, before the built-in one is added. -/
theorem Accepted.loaded {disk : Disk} {path : String} {ts : List Template}
    (h : Accepted disk (some path) ts) :
    ∃ ids r, Registry.empty.loadFile disk path = (.ok ids, r) ∧
      ∀ id, r.get? id = firstWith ts id := by
  cases h with
  | file hdisk hparse hgood =>
    obtain ⟨ids, r, hall, _, hget⟩ := Registry.registerAll_of_good hgood .empty
    refine ⟨ids, r, ?_, fun id => by rw [hget]; exact Option.none_or⟩
    rw [Registry.loadFile, hdisk]
    simp only [hparse]
    exact hall

theorem register_post (r : Registry) :
    (r.register Template.post).map Prod.snd = .ok (r.attempt Template.post).2 := by
  obtain ⟨isNew, hregister⟩ := register_eq_attempt isId_post r
  rw [hregister]
  rfl

theorem get?_attempt_post {r : Registry} {ts : List Template}
    (h : ∀ id, r.get? id = firstWith ts id) (id : String) :
    (r.attempt Template.post).2.get? id = firstWith (ts ++ [Template.post]) id := by
  rw [Registry.get?_attempt isId_post, h, Registry.firstWith_append]

/-- A registry has the templates of its file and the built-in one, the first one under each id. -/
theorem buildRegistry_of_accepted {disk : Disk} {file : Option String} {ts : List Template}
    (h : Accepted disk file ts) :
    ∃ r, buildRegistry disk file = .ok r ∧
      ∀ id, r.get? id = firstWith (ts ++ [Template.post]) id := by
  cases file with
  | none =>
    cases h
    exact ⟨_, register_post .empty, get?_attempt_post fun id => rfl⟩
  | some path =>
    obtain ⟨ids, r, hload, hget⟩ := h.loaded
    refine ⟨_, ?_, get?_attempt_post hget⟩
    rw [buildRegistry]
    simp only [hload]
    exact register_post r

theorem buildRegistry_of_rejected {disk : Disk} {file : Option String}
    (h : ¬∃ ts, Accepted disk file ts) : ∃ e, buildRegistry disk file = .error e := by
  cases file with
  | none => exact absurd ⟨[], .noFile⟩ h
  | some path =>
    rw [buildRegistry]
    cases hdisk : disk path with
    | error fault =>
      simp only [Registry.loadFile, hdisk]
      exact ⟨_, rfl⟩
    | ok text =>
      cases hparse : Template.parseFrom path text with
      | error e =>
        simp only [Registry.loadFile, hdisk, hparse]
        exact ⟨_, rfl⟩
      | ok ts =>
        rcases Registry.good_or_bad ts with hgood | ⟨before, t, rest, rfl, hbefore, hbad⟩
        · exact absurd ⟨ts, .file hdisk hparse hgood⟩ h
        · obtain ⟨e, he⟩ := Registry.exists_error_of_not_isId hbad
          simp only [Registry.loadFile, hdisk, hparse, Registry.registerAll_of_bad hbefore he]
          exact ⟨_, rfl⟩

/-! ## The listing -/

theorem mem_ids_of_get? {r : Registry} {ts : List Template}
    (h : ∀ id, r.get? id = firstWith (ts ++ [Template.post]) id) (id : String) :
    id ∈ r.ids ↔ id = "bluesky-post-template" ∨ ∃ t ∈ ts, t.id = id := by
  have hpost : Template.post.id = "bluesky-post-template" := by decide +kernel
  rw [r.mem_ids_iff, ← Option.isSome_iff_exists, h, firstWith, List.find?_isSome]
  simp only [List.mem_append, List.mem_singleton, decide_eq_true_eq]
  constructor
  · rintro ⟨t, ht | rfl, hname⟩
    · exact .inr ⟨t, ht, hname⟩
    · exact .inl (hname.symm.trans hpost)
  · rintro (rfl | ⟨t, ht, hname⟩)
    · exact ⟨Template.post, .inr rfl, hpost⟩
    · exact ⟨t, .inl ht, hname⟩

/-- What a listing of templates comes to. -/
structure ListingLaw (disk : Disk) (file : Option String) (report : Report) : Prop where
  /-- The ids of the file and the built-in one have a line each, in ascending order. -/
  accepted : ∀ ts, Accepted disk file ts →
    ∃ ids : List String, report = .printed (String.join (ids.map fun id => "• " ++ id ++ "\n")) ∧
      ids.Pairwise (· < ·) ∧ ∀ id, id ∈ ids ↔ id = "bluesky-post-template" ∨ ∃ t ∈ ts, t.id = id
  /-- Nothing is printed of a file that is rejected. -/
  rejected : (¬∃ ts, Accepted disk file ts) → ∃ e, report = .failed e ∧ report.output = ""

/-- What the program makes of a text that it is to print. -/
def printing : Except Error String → Report
  | .ok text => .printed text
  | .error e => .failed e

theorem runLine_eq_printing {words : List String} {file : Option String}
    (hwords : parse words = .ok (.templates file)) (s : Surroundings) :
    runLine s words = .done (printing (listTemplates s file)) := by
  unfold runLine
  rw [hwords]
  dsimp only
  unfold run
  dsimp only [Dialogue.bind]
  cases listTemplates s file <;> rfl

theorem runLine_templates {words : List String} {file : Option String}
    (hwords : parse words = .ok (.templates file)) (s : Surroundings) :
    ∃ report, runLine s words = .done report ∧ ListingLaw s.disk file report := by
  have hrun := runLine_eq_printing hwords s
  rw [listTemplates] at hrun
  by_cases haccepted : ∃ ts, Accepted s.disk file ts
  · obtain ⟨ts, hts⟩ := haccepted
    obtain ⟨r, hbuild, hget⟩ := buildRegistry_of_accepted hts
    rw [hbuild] at hrun
    refine ⟨_, hrun, fun us hus => ⟨r.ids, rfl, FieldMap.keys_ascending _, ?_⟩,
      fun hnone => absurd ⟨ts, hts⟩ hnone⟩
    -- a file has one list of templates
    obtain ⟨r', hbuild', hget'⟩ := buildRegistry_of_accepted hus
    cases hbuild.symm.trans hbuild'
    exact mem_ids_of_get? hget'
  · obtain ⟨e, hbuild⟩ := buildRegistry_of_rejected haccepted
    rw [hbuild] at hrun
    exact ⟨_, hrun, fun ts hts => absurd ⟨ts, hts⟩ haccepted, fun _ => ⟨e, rfl, rfl⟩⟩

/-! ## The content that is rendered -/

/-- What is left to do once there is a content: a record is acquired and bound to a copy, and the
copy is printed. -/
def rendering (o : RenderOptions) (settings : Settings) (client : Http.Client)
    (content : Fragment) : Http.Exchange Report :=
  ((Embed.acquire (chosenHost o) settings.apiBase).refine client.fetch).bind fun
    | .ok record => .done (.printed ((content.bind "data-key" record).1.html ++ "\n"))
    | .error e => .done (.failed e)

/-- A run that comes to its mount fails without a template, and renders the content that it finds
under its id. -/
theorem runLine_of_prepared {words : List String} {o : RenderOptions}
    (hwords : parse words = .ok (.render o)) {s : Surroundings} {p : Preparation}
    (hprepare : prepare s o = .ok p) :
    runLine s words =
      match p.registry.get? (chosenHost o).templateId with
      | some t => rendering o p.settings p.client t.content
      | none => .done (.failed (.templateNotFound (chosenHost o).templateId)) := by
  have hstage : ¬(Embed.ofHost (chosenHost o)).stage ≠ .unmounted := not_not_intro rfl
  rw [runLine_of_mount hwords hprepare, Embed.mount, if_neg hstage, Page.instantiate_eq]
  dsimp only [Embed.ofHost]
  cases p.registry.get? (chosenHost o).templateId with
  | none => rfl
  | some t =>
    dsimp only
    rw [Dialogue.bind_assoc, Dialogue.refine_bind, rendering]
    congr 1
    funext result
    cases result <;> rfl

/-- Which content a run renders under an id, by the templates of its file. -/
structure ContentLaw (ts : List Template) (id : String) (run : Http.Exchange Report)
    (rendering : Fragment → Http.Exchange Report) : Prop where
  /-- The first template of the file that has the id. -/
  fromFile : ∀ before t rest, ts = before ++ t :: rest → t.id = id → (∀ u ∈ before, u.id ≠ id) →
    run = rendering t.content
  /-- Else the built-in template, if it has the id. -/
  builtin : (∀ t ∈ ts, t.id ≠ id) → id = "bluesky-post-template" →
    run = rendering Template.post.content
  /-- Else none, and nothing is asked. -/
  missing : (∀ t ∈ ts, t.id ≠ id) → id ≠ "bluesky-post-template" →
    run = .done (.failed (.templateNotFound id))

theorem contentLaw_of_get? {ts : List Template} {id : String} {found : Option Template}
    {run : Http.Exchange Report} {rendering : Fragment → Http.Exchange Report}
    (hrun : run = match found with
      | some t => rendering t.content
      | none => .done (.failed (.templateNotFound id)))
    (hfound : found = firstWith (ts ++ [Template.post]) id) :
    ContentLaw ts id run rendering := by
  have hpost : Template.post.id = "bluesky-post-template" := by decide +kernel
  rw [Registry.firstWith_append, hpost] at hfound
  refine ⟨fun before t rest hts hname hfirst => ?_, fun hnone hid => ?_, fun hnone hid => ?_⟩
  · rw [Registry.firstWith_eq_some.2 ⟨hname, before, rest, hts, hfirst⟩, Option.some_or] at hfound
    rw [hrun, hfound]
  · rw [Registry.firstWith_eq_none.2 hnone, if_pos hid.symm, Option.none_or] at hfound
    rw [hrun, hfound]
  · rw [Registry.firstWith_eq_none.2 hnone, if_neg (Ne.symm hid), Option.none_or] at hfound
    rw [hrun, hfound]

theorem runLine_render {words : List String} {o : RenderOptions}
    (hwords : parse words = .ok (.render o)) {s : Surroundings} {ts : List Template}
    {settings : Settings} {client : Http.Client} (hfile : Accepted s.disk o.templates ts)
    (hsettings : settingsFor s o = .ok settings) (htag : TemplateName.checkTag o.tag = .ok ())
    (hclient : Http.Client.ofUserAgent settings.effectiveUserAgent = .ok client) :
    ContentLaw ts (o.template.getD (o.tag ++ "-template")) (runLine s words)
      (rendering o settings client) := by
  obtain ⟨r, hbuild, hget⟩ := buildRegistry_of_accepted hfile
  have hprepare : prepare s o = .ok ⟨settings, r, client⟩ := by
    simp only [prepare, hsettings, htag, hbuild]
    show (do let client ← Http.Client.ofUserAgent settings.effectiveUserAgent
             pure (⟨settings, r, client⟩ : Preparation)) = _
    rw [hclient]
    rfl
  have hid : (chosenHost o).templateId = o.template.getD (o.tag ++ "-template") := rfl
  have hrun := runLine_of_prepared hwords hprepare
  rw [hid] at hrun
  exact contentLaw_of_get? hrun (hget _)

/-- With a file of templates, its ids and the built-in one are listed once each, in order; what is
rendered under an id is the first template of the file that has it, and the built-in one only where
the file has none. -/
theorem file_shadows_builtin (s : Surroundings) (words : List String) :
    (∀ file, parse words = .ok (.templates file) →
      ∃ report, runLine s words = .done report ∧ ListingLaw s.disk file report) ∧
    ∀ o, parse words = .ok (.render o) → ∀ ts settings client, Accepted s.disk o.templates ts →
      settingsFor s o = .ok settings → TemplateName.checkTag o.tag = .ok () →
      Http.Client.ofUserAgent settings.effectiveUserAgent = .ok client →
      ContentLaw ts (o.template.getD (o.tag ++ "-template")) (runLine s words)
        (rendering o settings client) :=
  ⟨fun _ hwords => runLine_templates hwords s,
    fun _ hwords _ _ _ hfile hsettings htag hclient =>
      runLine_render hwords hfile hsettings htag hclient⟩

/-- A file that has the id of the built-in template twice. -/
theorem file_shadows_builtin_twice :
    let words := ["render", "a:/1", "--templates", "t.yaml", "--api-base", "http://x"]
    let o : RenderOptions :=
      ⟨"a:/1", Template.defaultTag, none, some "t.yaml", some "http://x", none⟩
    let s : Surroundings := ⟨fun path => if path = "t.yaml" then .ok
      ("templates: [\x7bid: bluesky-post-template, content: [a]\x7d, " ++
        "\x7bid: bluesky-post-template, content: [b]\x7d]") else .error (.missing .notFound), ⟨[]⟩⟩
    let settings : Settings := ⟨some "http://x", none, none⟩
    parse words = .ok (.render o) ∧ settingsFor s o = .ok settings ∧
      TemplateName.checkTag o.tag = .ok () ∧
      Http.Client.ofUserAgent settings.effectiveUserAgent = .ok ⟨"skyslot/0.1.0"⟩ ∧
      runLine s words = rendering o settings ⟨"skyslot/0.1.0"⟩ [.text "a"] ∧
      ∃ ids : List String, (∀ id, id ∈ ids ↔ id = "bluesky-post-template") ∧
        runLine s ["templates", "--templates", "t.yaml"] =
          .done (.printed (String.join (ids.map fun id => "• " ++ id ++ "\n"))) := by
  intro words o s settings
  have hwords : parse words = .ok (.render o) := by decide +kernel
  have hparse : Template.parseFrom "t.yaml"
      ("templates: [\x7bid: bluesky-post-template, content: [a]\x7d, " ++
        "\x7bid: bluesky-post-template, content: [b]\x7d]") =
      .ok [⟨"bluesky-post-template", [.text "a"]⟩,
        ⟨"bluesky-post-template", [.text "b"]⟩] := by
    decide +kernel
  have hfile : Accepted s.disk (some "t.yaml") [⟨"bluesky-post-template", [.text "a"]⟩,
      ⟨"bluesky-post-template", [.text "b"]⟩] :=
    .file rfl hparse (by decide +kernel)
  have hsettings : settingsFor s o = .ok settings := by decide +kernel
  have htag : TemplateName.checkTag o.tag = .ok () := by decide +kernel
  have hclient : Http.Client.ofUserAgent settings.effectiveUserAgent = .ok ⟨"skyslot/0.1.0"⟩ := by
    decide +kernel
  have hcontent := (file_shadows_builtin s words).2 o hwords _ _ _ hfile hsettings htag hclient
  have hrun := hcontent.fromFile [] _ _ rfl (by decide +kernel) nofun
  obtain ⟨report, hlist, hlaw⟩ := (file_shadows_builtin s ["templates", "--templates", "t.yaml"]).1
    (some "t.yaml") (by decide +kernel)
  obtain ⟨ids, rfl, _, hids⟩ := hlaw.accepted _ hfile
  refine ⟨hwords, hsettings, htag, hclient, hrun, ids, fun id => ?_, hlist⟩
  rw [hids]
  simp [eq_comm]

end PostSlots.Command
