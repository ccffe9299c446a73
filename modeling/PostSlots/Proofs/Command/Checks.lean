import PostSlots.Command.Run
import PostSlots.Proofs.Dialogue.Refinement
import PostSlots.Proofs.Embed.Injection
import PostSlots.Proofs.Embed.Lifecycle
import PostSlots.Proofs.Http.Redirects

/-!
# Checks before requests

A run that renders a post depends on files, variables, names and addresses, any of which can be
wrong. All that can be checked at hand is checked before any server is asked, in a fixed order, and
the first check that fails is the one that is reported.

Results:
1. `Command.checked_prepare`: what a run prepares, or the first check that refuses it.
2. `Command.mounting_of_fault`: a mount that fails a check asks for nothing.
3. `Command.render_checks_first`: what a run comes to, and what it asks.
-/

namespace PostSlots.Command

open TemplateName (IsId)

/-! ## What is checked -/

/-- What keeps something from being had, if it cannot be had. -/
def refusal {α : Type} : Except Error α → Option Error
  | .ok _ => none
  | .error e => some e

/-- What keeps templates from being registered: the first bad id. -/
def idFault? (ts : List Template) : Option Error :=
  ts.findSome? fun t => refusal (TemplateName.checkId t.id)

section
variable (s : Surroundings) (o : RenderOptions)

/-- The settings in the file, as far as it can be read. -/
def fileSettings : Settings :=
  ((s.disk (settingsPath s o)).toOption.bind fun text => (Settings.parse text).toOption).getD .unset

/-- The base of all requests, if one is chosen. -/
def chosenBase : Option String :=
  o.apiBase.or ((s.environment.nonempty? "SKYSLOT_API_BASE").or (fileSettings s o).apiBase)

/-- What the client calls itself. -/
def chosenAgent : String :=
  ((s.environment.nonempty? "SKYSLOT_USER_AGENT").or (fileSettings s o).userAgent).getD
    "skyslot/0.1.0"

/-- The templates in the file, as far as it can be read. -/
def fileTemplates : List Template :=
  (o.templates.bind fun path =>
    (s.disk path).toOption.bind fun text => (Template.parseFrom path text).toOption).getD []

/-- The templates of a run: those of the file, and then the built-in one. -/
def chosenRegistry : Registry :=
  (Registry.empty.attempts (fileTemplates s o ++ [Template.post])).2

/-- The element that the post is rendered for. -/
def chosenHost : HostElement := ⟨o.tag, o.template, some o.href⟩

/-- What a run checks on its own. -/
inductive Check where
  | settings
  | timeLimit
  | tag
  | templates
  | client
  | template
  | link
  | base
deriving DecidableEq

namespace Check

/-- The checks before the mount. -/
def early : List Check := [settings, timeLimit, tag, templates, client]

/-- The checks of the mount. -/
def late : List Check := [template, link, base]

/-- All checks, in order. -/
def all : List Check := early ++ late

/-- What a check finds. Of what an earlier check has found missing, it takes the default. -/
def fault? : Check → Option Error
  | settings =>
    match s.disk (settingsPath s o) with
    | .error (.missing _) => none
    | .error (.unreadable fault) =>
      some (.config ("Failed to read config file: " ++ fault.text))
    | .ok text =>
      match Settings.parse text with
      | .ok _ => none
      | .error details => some (.config ("Failed to parse config file: " ++ details))
  | timeLimit =>
    match s.environment.get? "SKYSLOT_TIMEOUT_SECS" with
    | none => none
    | some text =>
      if (Decimal.readWord? text.toList).isSome then none
      else some (.config ("SKYSLOT_TIMEOUT_SECS must be a whole number, got '" ++ text ++ "'"))
  | tag => refusal (TemplateName.checkTag o.tag)
  | templates =>
    match o.templates with
    | none => none
    | some path =>
      match s.disk path with
      | .error fault => some (.io fault.text)
      | .ok text =>
        match Template.parseFrom path text with
        | .error e => some e
        | .ok ts => idFault? ts
  | client => refusal (Http.Client.ofUserAgent (chosenAgent s o))
  | template =>
    if ∃ t ∈ fileTemplates s o ++ [Template.post], t.id = (chosenHost o).templateId then none
    else some (.templateNotFound (chosenHost o).templateId)
  | link => refusal (PostLink.parse o.href)
  | base =>
    match PostLink.parse o.href with
    | .error _ => none
    | .ok address =>
      let root := Request.baseFor (chosenBase s o) address
      match Url.parse (root ++ "/xrpc/" ++ "app.bsky.actor.getProfile") with
      | .ok _ => none
      | .error fault => some (.config ("Invalid XRPC base URL '" ++ root ++ "': " ++ fault.text))

end Check

end

/-! ## Checks one after the other -/

/-- A computation that a check guards: it is refused with what the check finds, or has a result
with a property. -/
inductive Checked {α : Type} (P : α → Prop) : Option Error → Except Error α → Prop
  | refused {e : Error} : Checked P (some e) (.error e)
  | passed {a : α} : P a → Checked P none (.ok a)

/-- Of checks in order, the first one decides, and the others where it finds nothing. -/
theorem findSome?_cons_or {α β : Type} (f : α → Option β) (a : α) (as : List α) :
    (a :: as).findSome? f = (f a).or (as.findSome? f) := by
  rw [List.findSome?_cons]
  cases f a <;> rfl

namespace Checked

variable {α β : Type} {P : α → Prop} {Q : β → Prop}

/-- Of two computations the first one to be refused decides. -/
theorem bind {x : Except Error α} {f : α → Except Error β} {fault later : Option Error}
    (hx : Checked P fault x) (hf : ∀ a, P a → Checked Q later (f a)) :
    Checked Q (fault.or later) (x >>= f) := by
  cases hx with
  | refused => exact .refused
  | passed ha => exact hf _ ha

theorem of_refusal {x : Except Error α} (h : ∀ a, x = .ok a → P a) : Checked P (refusal x) x := by
  cases x with
  | error e => exact .refused
  | ok a => exact .passed (h a rfl)

end Checked

variable (s : Surroundings) (o : RenderOptions)

theorem checked_load :
    Checked (· = fileSettings s o) (Check.settings.fault? s o)
      (Settings.load s.disk (settingsPath s o)) := by
  rw [Settings.load, Check.fault?]
  unfold fileSettings
  cases s.disk (settingsPath s o) with
  | error fault =>
    cases fault with
    | missing fault => exact .passed rfl
    | unreadable fault => exact .refused
  | ok text =>
    dsimp only [Except.toOption, Option.bind]
    cases Settings.parse text with
    | error details => exact .refused
    | ok settings => exact .passed rfl

theorem checked_timeoutIn :
    Checked (fun _ => True) (Check.timeLimit.fault? s o) (Settings.timeoutIn s.environment) := by
  rw [Settings.timeoutIn, Check.fault?]
  cases s.environment.get? "SKYSLOT_TIMEOUT_SECS" with
  | none => exact .passed trivial
  | some text =>
    dsimp only
    cases Decimal.readWord? text.toList with
    | none => exact .refused
    | some secs => exact .passed trivial

/-- The settings of a run, after its first two checks. -/
theorem checked_settingsFor :
    Checked (fun t => t.apiBase = chosenBase s o ∧ t.effectiveUserAgent = chosenAgent s o)
      ((Check.settings.fault? s o).or (Check.timeLimit.fault? s o)) (settingsFor s o) := by
  rw [settingsFor]
  refine (checked_load s o).bind fun settings hsettings => ?_
  subst hsettings
  have htime := checked_timeoutIn s o
  rw [Settings.withEnvironment]
  generalize Check.timeLimit.fault? s o = fault at htime
  generalize Settings.timeoutIn s.environment = limit at htime
  cases htime with
  | refused => exact .refused
  | passed _ => exact .passed ⟨rfl, rfl⟩

/-! ## Templates -/

theorem idFault?_cons {t : Template} (h : IsId t.id) (ts : List Template) :
    idFault? (t :: ts) = idFault? ts := by
  rw [idFault?, List.findSome?_cons, show TemplateName.checkId t.id = .ok () from h]
  rfl

theorem isId_of_idFault? {ts : List Template} (h : idFault? ts = none) : ∀ t ∈ ts, IsId t.id := by
  intro t ht
  have hrefusal := List.findSome?_eq_none_iff.1 h t ht
  cases hid : TemplateName.checkId t.id with
  | error e => rw [hid] at hrefusal; cases hrefusal
  | ok _ => exact hid

theorem register_eq_attempt {t : Template} (h : IsId t.id) (r : Registry) :
    ∃ isNew, r.register t = .ok (isNew, (r.attempt t).2) := by
  rw [Registry.attempt, Registry.register_of_isId h]
  exact ⟨_, rfl⟩

/-- Templates are registered in turn, or the first bad id is reported. -/
theorem checked_registerAll (r : Registry) (ts : List Template) :
    Checked (fun _ => (r.registerAll ts).2 = (r.attempts ts).2) (idFault? ts)
      (r.registerAll ts).1 := by
  induction ts generalizing r with
  | nil => exact .passed rfl
  | cons t ts ih =>
    by_cases hid : IsId t.id
    · obtain ⟨isNew, hregister⟩ := register_eq_attempt hid r
      have hrest := ih (r.attempt t).2
      rw [idFault?_cons hid, Registry.registerAll, hregister]
      dsimp only
      generalize ((r.attempt t).2.registerAll ts).1 = answer at hrest
      generalize idFault? ts = fault at hrest
      cases hrest with
      | refused => exact .refused
      | passed hregistry => exact .passed hregistry
    · obtain ⟨e, he⟩ := Registry.exists_error_of_not_isId hid
      rw [Registry.registerAll, Registry.register_of_bad he, idFault?, List.findSome?_cons, he]
      exact .refused

theorem isId_post : IsId Template.post.id := by
  decide +kernel

/-- The registry of a run, after the check of its file. -/
theorem checked_buildRegistry :
    Checked (· = chosenRegistry s o) (Check.templates.fault? s o)
      (buildRegistry s.disk o.templates) := by
  have hpost (r : Registry) : (r.register Template.post).map Prod.snd =
      .ok (r.attempt Template.post).2 := by
    obtain ⟨isNew, hregister⟩ := register_eq_attempt isId_post r
    rw [hregister]
    rfl
  rw [Check.fault?, chosenRegistry, Registry.attempts_append, fileTemplates]
  unfold buildRegistry
  cases o.templates with
  | none =>
    show Checked _ none ((Registry.empty.register Template.post).map Prod.snd)
    rw [hpost]
    exact .passed rfl
  | some path =>
    dsimp only [Option.bind_some]
    rw [Registry.loadFile]
    cases s.disk path with
    | error fault => exact .refused
    | ok text =>
      dsimp only [Except.toOption, Option.bind_some]
      cases Template.parseFrom path text with
      | error e => exact .refused
      | ok ts =>
        dsimp only [Option.getD_some]
        have hall := checked_registerAll .empty ts
        generalize idFault? ts = fault at hall
        generalize Registry.empty.registerAll ts = answered at hall
        obtain ⟨answer, loaded⟩ := answered
        cases hall with
        | refused => exact .refused
        | passed hloaded =>
          show Checked _ none ((loaded.register Template.post).map Prod.snd)
          rw [hpost]
          exact .passed (congrArg (fun r => (Registry.attempt r Template.post).2) hloaded)

theorem checked_client {t : Settings} (h : t.effectiveUserAgent = chosenAgent s o) :
    Checked (· = ⟨chosenAgent s o⟩) (Check.client.fault? s o)
      (Http.Client.ofUserAgent t.effectiveUserAgent) := by
  rw [h]
  refine .of_refusal fun c hc => ?_
  rw [Http.Client.ofUserAgent] at hc
  split at hc
  · exact (Except.ok.inj hc).symm
  · cases hc

/-- What a run prepares, unless one of the early checks refuses it. -/
theorem checked_prepare :
    Checked (fun p => p.settings.apiBase = chosenBase s o ∧ p.registry = chosenRegistry s o ∧
        p.client = ⟨chosenAgent s o⟩)
      (Check.early.findSome? (Check.fault? s o)) (prepare s o) := by
  -- the settings are one step of a run, in which both of their checks are made
  have hsteps : Check.early.findSome? (Check.fault? s o) =
      ((Check.settings.fault? s o).or (Check.timeLimit.fault? s o)).or
        ((Check.tag.fault? s o).or
          ((Check.templates.fault? s o).or ((Check.client.fault? s o).or none))) := by
    simp only [Check.early, findSome?_cons_or, List.findSome?_nil, Option.or_assoc]
  rw [hsteps, prepare]
  refine (checked_settingsFor s o).bind fun settings hsettings => ?_
  refine (Checked.of_refusal fun _ _ => trivial).bind fun _ _ => ?_
  refine (checked_buildRegistry s o).bind fun registry hregistry => ?_
  refine (checked_client s o hsettings.2).bind fun c hc => ?_
  exact .passed ⟨hsettings.1, hregistry, hc⟩

/-! ## The mount -/

/-- The mount of a run. -/
def mounting : Acquiring (Except Error Rendered × Embed) :=
  (Embed.ofHost (chosenHost o)).mount (chosenRegistry s o) (chosenBase s o)

/-- A post is not acquired where no request can be made. -/
theorem acquire_of_error {apiBase : Option String} {link : PostLink} {e : Error}
    (h : Request.ofParameter (Request.baseFor apiBase link) Request.getProfile
      ("actor", link.fields.username.getD "undefined") = .error e) :
    Post.acquire apiBase link = .done (.error e) := by
  rw [Post.acquire]
  dsimp only [SlotValue.missing]
  rw [h]
  rfl

theorem isId_fileTemplates (h : Check.templates.fault? s o = none) :
    ∀ t ∈ fileTemplates s o, IsId t.id := by
  rw [Check.fault?] at h
  rw [fileTemplates]
  cases hfile : o.templates with
  | none => exact nofun
  | some path =>
    simp only [hfile] at h
    rw [Option.bind_some]
    cases hdisk : s.disk path with
    | error fault => exact nofun
    | ok text =>
      simp only [hdisk] at h
      simp only [Except.toOption, Option.bind_some]
      cases hparse : Template.parseFrom path text with
      | error e => exact nofun
      | ok ts =>
        simp only [hparse] at h
        exact isId_of_idFault? h

/-- A template is found if the built-in one or one of the file has its id. -/
theorem get?_chosenRegistry (h : Check.templates.fault? s o = none) (id : String) :
    (chosenRegistry s o).get? id = none ↔
      ¬∃ t ∈ fileTemplates s o ++ [Template.post], t.id = id := by
  have hreflects := (Registry.reflects_empty.attempts (fileTemplates s o ++ [Template.post])).1 id
  rw [List.nil_append] at hreflects
  rw [chosenRegistry, hreflects]
  by_cases hid : IsId id
  · rw [if_pos hid, Registry.firstWith_eq_none]
    exact ⟨fun hnone ⟨t, ht, hname⟩ => hnone t ht hname, fun hnone t ht hname => hnone ⟨t, ht, hname⟩⟩
  · rw [if_neg hid]
    refine ⟨fun _ ⟨t, ht, hname⟩ => hid ?_, fun _ => rfl⟩
    rw [← hname]
    rcases List.mem_append.1 ht with ht | ht
    · exact isId_fileTemplates s o h t ht
    · exact List.mem_singleton.1 ht ▸ isId_post

/-- A record is not acquired if the link or the base fails its check. -/
theorem acquire_of_fault {e : Error}
    (h : (Check.link.fault? s o).or (Check.base.fault? s o) = some e) :
    Embed.acquire (chosenHost o) (chosenBase s o) = .done (.error e) := by
  rw [Check.fault?, Check.fault?] at h
  rw [Embed.acquire, chosenHost]
  dsimp only
  cases hlink : PostLink.parse o.href with
  | error fault =>
    rw [hlink] at h
    cases h
    rfl
  | ok link =>
    rw [hlink] at h
    refine acquire_of_error ?_
    rw [Request.ofParameter, Request.getProfile]
    dsimp only [refusal] at h ⊢
    rw [Option.none_or] at h
    generalize Url.parse (_ ++ _ ++ _) = url at h ⊢
    cases url with
    | ok url => cases h
    | error fault =>
      cases h
      rfl

/-- A mount that fails a check asks for nothing, provided that the templates of the file have
passed theirs: else the registry would hold only some of them. -/
theorem mounting_of_fault (htemplates : Check.templates.fault? s o = none) {e : Error}
    (h : Check.late.findSome? (Check.fault? s o) = some e) :
    ∃ embed, mounting s o = .done (.error e, embed) := by
  have hsteps : Check.late.findSome? (Check.fault? s o) = (Check.template.fault? s o).or
      ((Check.link.fault? s o).or (Check.base.fault? s o)) := by
    simp only [Check.late, findSome?_cons_or, List.findSome?_nil, Option.or_none]
  have hstage : ¬(Embed.ofHost (chosenHost o)).stage ≠ .unmounted := not_not_intro rfl
  have hfound := get?_chosenRegistry s o htemplates (chosenHost o).templateId
  rw [hsteps, Check.fault?] at h
  rw [mounting, Embed.mount, if_neg hstage, Page.instantiate_eq]
  dsimp only [Embed.ofHost]
  cases hget : (chosenRegistry s o).get? (chosenHost o).templateId with
  | none =>
    rw [if_neg (hfound.1 hget)] at h
    cases h
    exact ⟨_, rfl⟩
  | some t =>
    have hexists := not_not.1 fun hnone => Option.some_ne_none t (hget.symm.trans (hfound.2 hnone))
    rw [if_pos hexists, Option.none_or] at h
    dsimp only
    rw [acquire_of_fault s o h]
    exact ⟨_, rfl⟩

/-! ## The run -/

/-- The mount of a run, with servers that the client asks. -/
def mountedBy (servers : Dialogue.Oracle Http.Get Http.Reply) :
    (Except Error Rendered × Embed) × List Http.Get :=
  ((mounting s o).refine (Http.Client.fetch ⟨chosenAgent s o⟩)).run servers []

/-- What the program makes of a mount. -/
def reportOf : Except Error Rendered → Report
  | .ok rendered => .printed (pageOf rendered)
  | .error e => .failed e

section
variable {s : Surroundings} {o : RenderOptions} {words : List String}
  (hwords : parse words = .ok (.render o)) (servers : Dialogue.Oracle Http.Get Http.Reply)
include hwords

theorem runLine_of_refused {e : Error} (h : prepare s o = .error e) :
    runLine s words = .done (.failed e) := by
  unfold runLine
  rw [hwords]
  dsimp only
  unfold run renderPost
  simp only [h]
  rfl

/-- A run that comes to its mount makes the queries of the mount and reports on it. -/
theorem runLine_of_mount {p : Preparation} (h : prepare s o = .ok p) :
    runLine s words =
      (((Embed.ofHost (chosenHost o)).mount p.registry p.settings.apiBase).bind fun mounted =>
        .done (reportOf mounted.1)).refine p.client.fetch := by
  unfold runLine
  rw [hwords]
  dsimp only
  unfold run renderPost
  simp only [h]
  rw [Dialogue.refine_bind, Dialogue.bind_assoc]
  unfold chosenHost
  congr 1
  funext mounted
  obtain ⟨result, embed⟩ := mounted
  cases result <;> rfl

/-- A run that an early check refuses does not come to its mount. -/
theorem runLine_of_early {e : Error} (h : Check.early.findSome? (Check.fault? s o) = some e) :
    runLine s words = .done (.failed e) := by
  have hprepare := checked_prepare s o
  rw [h] at hprepare
  generalize hp : prepare s o = prepared at hprepare
  cases hprepare
  exact runLine_of_refused hwords hp

/-- Any other run reports on its mount. -/
theorem run_runLine (h : Check.early.findSome? (Check.fault? s o) = none) :
    (runLine s words).run servers [] =
      (reportOf (mountedBy s o servers).1.1, (mountedBy s o servers).2) := by
  have hprepare := checked_prepare s o
  rw [h] at hprepare
  generalize hp : prepare s o = prepared at hprepare
  cases hprepare with
  | @passed p hpassed =>
    obtain ⟨hbase, hregistry, hclient⟩ := hpassed
    rw [runLine_of_mount hwords hp, hbase, hregistry, hclient, Dialogue.refine_bind,
      Dialogue.run_bind]
    rfl

end

-- The link, the file and the tag are wrong.
example :
    runLine ⟨fun _ => .error (.missing .notFound), ⟨[]⟩⟩
        ["render", "x", "--templates", "t.yaml", "--tag", "card"] =
      .done (.failed (.invalidTemplateId "card-template" "tag name must contain a dash")) := by
  rfl

/-- The services that a client makes of servers. -/
def services (servers : Dialogue.Oracle Http.Get Http.Reply) :
    Dialogue.Oracle Request (Except Error Json) :=
  Dialogue.through (Http.Client.fetch ⟨chosenAgent s o⟩) servers (.error (.io "nothing asked")) []

/-- A mount asks services for a record, and these ask servers. -/
theorem mountedBy_eq (servers : Dialogue.Oracle Http.Get Http.Reply) :
    let mounted := (mounting s o).run (services s o servers) []
    mountedBy s o servers = (mounted.1,
      Dialogue.served (Http.Client.fetch ⟨chosenAgent s o⟩) servers [] mounted.2) :=
  Dialogue.run_refine _ servers _ (mounting s o) []

theorem length_asked_mounting (services : Dialogue.Oracle Request (Except Error Json)) :
    ((mounting s o).run services []).2.length ≤ 2 := by
  rw [mounting, Embed.mount]
  split
  · exact Nat.zero_le 2
  · split
    · exact Nat.zero_le 2
    · obtain ⟨result, requests, _, hlength, hrun⟩ :=
        Embed.exists_fetches (chosenHost o) (chosenBase s o) services []
      rw [Dialogue.run_bind]
      dsimp only [Embed.ofHost]
      rw [hrun]
      cases result <;> exact hlength

/-- Two queries of six requests each. -/
theorem length_asked_mountedBy (servers : Dialogue.Oracle Http.Get Http.Reply) :
    (mountedBy s o servers).2.length ≤ 12 := by
  have hserved := Dialogue.length_served_le _ servers
    (fun r asked => Http.Client.length_fetch_le ⟨chosenAgent s o⟩ servers r asked) []
    ((mounting s o).run (services s o servers) []).2
  have hqueries := length_asked_mounting s o (services s o servers)
  rw [mountedBy_eq]
  dsimp only
  rw [List.length_nil] at hserved
  omega

/-- The mount of a run renders a post: the early checks pass, and the client is answered. -/
def Mounts (servers : Dialogue.Oracle Http.Get Http.Reply) (rendered : Rendered) : Prop :=
  Check.early.findSome? (Check.fault? s o) = none ∧
    (mountedBy s o servers).1.1 = .ok rendered

/-- What a run reports and asks that renders a post. -/
structure RenderLaw (servers : Dialogue.Oracle Http.Get Http.Reply) (report : Report)
    (asked : List Http.Get) : Prop where
  /-- The first check that fails is reported, and no request is sent. -/
  refused : ∀ e, Check.all.findSome? (Check.fault? s o) = some e → report = .failed e ∧ asked = []
  /-- Where a request is sent, all checks have passed. -/
  passed : asked ≠ [] → ∀ check : Check, check.fault? s o = none
  code_eq_zero_iff : report.code = 0 ↔ ∃ rendered, Mounts s o servers rendered
  /-- The bound fragment is printed as HTML. -/
  printed : ∀ rendered, Mounts s o servers rendered →
    report.output = rendered.fragment.html ++ "\n" ∧
      ∃ content record, (chosenRegistry s o).instantiate o.template o.tag = .ok content ∧
        ((Embed.acquire (chosenHost o) (chosenBase s o)).run (services s o servers) []).1 =
            .ok record ∧
          rendered.fragment = (content.bind "data-key" record).1
  failed : report.code ≠ 0 → report.code = 1 ∧ report.output = ""
  length_asked : asked.length ≤ 12

theorem findSome?_all :
    Check.all.findSome? (Check.fault? s o) =
      (Check.early.findSome? (Check.fault? s o)).or (Check.late.findSome? (Check.fault? s o)) :=
  List.findSome?_append

theorem fault?_eq_none (h : Check.all.findSome? (Check.fault? s o) = none) (check : Check) :
    check.fault? s o = none := by
  refine List.findSome?_eq_none_iff.1 h check ?_
  cases check <;> decide

/-- A run that a late check refuses fails in its mount, and asks for nothing. -/
theorem mountedBy_of_late {e : Error} (hearly : Check.early.findSome? (Check.fault? s o) = none)
    (h : Check.late.findSome? (Check.fault? s o) = some e)
    (servers : Dialogue.Oracle Http.Get Http.Reply) :
    (mountedBy s o servers).1.1 = .error e ∧ (mountedBy s o servers).2 = [] := by
  have htemplates : Check.templates.fault? s o = none :=
    List.findSome?_eq_none_iff.1 hearly .templates (by decide)
  obtain ⟨embed, hmounting⟩ := mounting_of_fault s o htemplates h
  rw [mountedBy, hmounting]
  exact ⟨rfl, rfl⟩

/-- What a mount renders is its template, bound to a record. -/
theorem fragment_of_mounts {servers : Dialogue.Oracle Http.Get Http.Reply} {rendered : Rendered}
    (h : Mounts s o servers rendered) :
    ∃ content record, (chosenRegistry s o).instantiate o.template o.tag = .ok content ∧
      ((Embed.acquire (chosenHost o) (chosenBase s o)).run (services s o servers) []).1 =
          .ok record ∧
        rendered.fragment = (content.bind Slot.defaultMarker record).1 := by
  have hmounted := h.2
  rw [mountedBy_eq] at hmounted
  obtain ⟨content, record, hcontent, hrecord, rfl⟩ := Embed.mount_ok hmounted
  exact ⟨content, record, hcontent, hrecord, rfl⟩

/-- The law of a run that is refused. -/
theorem renderLaw_of_refused {e : Error} (h : Check.all.findSome? (Check.fault? s o) = some e)
    {servers : Dialogue.Oracle Http.Get Http.Reply}
    (hmounts : ∀ rendered, ¬Mounts s o servers rendered) :
    RenderLaw s o servers (.failed e) [] where
  refused e' he' := by
    rw [h] at he'
    exact ⟨congrArg Report.failed (Option.some.inj he'), rfl⟩
  passed hasked := absurd rfl hasked
  code_eq_zero_iff := ⟨nofun, fun ⟨rendered, hrendered⟩ => absurd hrendered (hmounts rendered)⟩
  printed rendered hrendered := absurd hrendered (hmounts rendered)
  failed _ := ⟨rfl, rfl⟩
  length_asked := Nat.zero_le 12

/-- The law of a run that reports on its mount. -/
theorem renderLaw_of_passed (h : Check.all.findSome? (Check.fault? s o) = none)
    (servers : Dialogue.Oracle Http.Get Http.Reply) :
    RenderLaw s o servers (reportOf (mountedBy s o servers).1.1) (mountedBy s o servers).2 where
  refused e he := by
    rw [h] at he
    cases he
  passed _ := fault?_eq_none s o h
  code_eq_zero_iff := by
    have hearly := (Option.or_eq_none_iff.1 ((findSome?_all s o).symm.trans h)).1
    constructor
    · intro hcode
      cases hmounted : (mountedBy s o servers).1.1 with
      | error e => rw [hmounted] at hcode; cases hcode
      | ok rendered => exact ⟨rendered, hearly, hmounted⟩
    · rintro ⟨rendered, -, hmounted⟩
      rw [hmounted]
      rfl
  printed rendered hrendered := by
    refine ⟨?_, fragment_of_mounts s o hrendered⟩
    rw [hrendered.2]
    rfl
  failed hcode := by
    cases hmounted : (mountedBy s o servers).1.1 with
    | error e => exact ⟨rfl, rfl⟩
    | ok rendered => rw [hmounted] at hcode; exact absurd rfl hcode
  length_asked := length_asked_mountedBy s o servers

/-- Whatever is wrong at hand is reported before a request is sent, the first thing first, and what
is printed is the bound fragment or nothing. -/
theorem render_checks_first {words : List String} {o : RenderOptions}
    (hwords : parse words = .ok (.render o)) (s : Surroundings)
    (servers : Dialogue.Oracle Http.Get Http.Reply) :
    let run := (runLine s words).run servers []
    RenderLaw s o servers run.1 run.2 := by
  intro run
  cases hearly : Check.early.findSome? (Check.fault? s o) with
  | some e =>
    have hrun : run = (.failed e, []) :=
      congrArg (fun program => Dialogue.run servers program []) (runLine_of_early hwords hearly)
    rw [hrun]
    refine renderLaw_of_refused s o ?_ fun rendered hrendered => ?_
    · rw [findSome?_all, hearly, Option.some_or]
    · exact Option.some_ne_none e (hearly.symm.trans hrendered.1)
  | none =>
    have hrun : run = (reportOf (mountedBy s o servers).1.1, (mountedBy s o servers).2) :=
      run_runLine hwords servers hearly
    rw [hrun]
    cases hlate : Check.late.findSome? (Check.fault? s o) with
    | none =>
      refine renderLaw_of_passed s o ?_ servers
      rw [findSome?_all, hearly, hlate, Option.none_or]
    | some e =>
      obtain ⟨hresult, hasked⟩ := mountedBy_of_late s o hearly hlate servers
      rw [hresult, hasked]
      refine renderLaw_of_refused s o ?_ fun rendered hrendered => ?_
      · rw [findSome?_all, hearly, hlate, Option.none_or]
      · cases hresult.symm.trans hrendered.2

/-- A run whose first query is redirected prints a post. -/
theorem render_checks_first_redirect :
    let words := ["render", "https://a.b/profile/c/post/1", "--api-base", "http://x"]
    let o : RenderOptions :=
      ⟨"https://a.b/profile/c/post/1", Template.defaultTag, none, none, some "http://x", none⟩
    let s : Surroundings := ⟨fun _ => .error (.missing .notFound), ⟨[]⟩⟩
    let servers : Dialogue.Oracle Http.Get Http.Reply := fun asked =>
      if asked.length = 1 then .answer 302 (some "/p") none
      else .answer 200 none (some "\x7b\"did\": \"d\", \"posts\": []\x7d")
    parse words = .ok (.render o) ∧ (∀ check : Check, check.fault? s o = none) ∧
      ∃ rendered, Mounts s o servers rendered := by
  intro words o s servers
  have hwords : parse words = .ok (.render o) := by decide +kernel
  have hlaw := render_checks_first hwords s servers
  have hrun : (fun run : Report × List Http.Get => (run.1.code, run.2.length))
      ((runLine s words).run servers []) = (0, 3) := by decide +kernel
  obtain ⟨hcode, hlength⟩ := Prod.ext_iff.1 hrun
  exact ⟨hwords, hlaw.passed (List.ne_nil_of_length_eq_add_one hlength),
    hlaw.code_eq_zero_iff.1 hcode⟩

end PostSlots.Command
