import PostSlots.Proofs.Command.Checks
import PostSlots.Proofs.Dialogue.Questions
import PostSlots.Proofs.Settings.Sources

/-!
# Which source decides

A run that renders a post has three settings, each of them with sources of its own: the command
line for the base alone, a variable, the file, and in the end a default. The first source that
names a value decides. All requests of the run bear the name that is decided on, and all queries
are made below the base.

Results:
1. `Command.sourceLaw`: each setting comes from the first of its sources that names it.
2. `Command.asks_fetch`, `Command.asks_mount`: what a client and a mount ask.
3. `Command.settings_precedence`: when settings can be had, what they are, and what a run does with
   them.
-/

namespace PostSlots.Command

open Decimal (Denotes)
open Settings (FileSays LimitIn Faulty loaded layered)

/-! ## Sources in order -/

/-- Sources decide on a value: the first one that names a value, or else the last resort. A source
is given by what it names. -/
inductive Decided {α : Type} (resort : α) : List (α → Prop) → α → Prop
  | resort : Decided resort [] resort
  | named {names : α → Prop} {rest : List (α → Prop)} {value : α} : names value →
    Decided resort (names :: rest) value
  | silent {names : α → Prop} {rest : List (α → Prop)} {value : α} : (∀ other, ¬names other) →
    Decided resort rest value → Decided resort (names :: rest) value

theorem Decided.getD {α : Type} {resort value : α} {names : α → Prop} {rest : List (α → Prop)}
    {source : Option α} (h : ∀ named, names named ↔ source = some named)
    (hrest : Decided resort rest value) : Decided resort (names :: rest) (source.getD value) := by
  cases source with
  | none => exact .silent (fun other hother => nomatch (h other).1 hother) hrest
  | some named => exact .named ((h named).2 rfl)

/-- The sources of the base, by what is made of their values: the command line, the environment
unless it is set to nothing, and the file. -/
def baseSources {α : Type} (s : Surroundings) (o : RenderOptions) (file : Settings)
    (use : String → α) : List (α → Prop) :=
  [fun base => ∃ value, o.apiBase = some value ∧ base = use value,
    fun base => ∃ value, (s.environment.get? "SKYSLOT_API_BASE" = some value ∧ value ≠ "") ∧
      base = use value,
    fun base => ∃ value, file.apiBase = some value ∧ base = use value]

/-- The settings of a run, by what the file says. -/
structure SourceLaw (s : Surroundings) (o : RenderOptions) (file t : Settings) : Prop where
  chosen : Decided none (baseSources s o file some) t.apiBase
  /-- The base of requests is the chosen one without slashes at its end, or that of the link. -/
  base : ∀ link : PostLink, Decided ("https://public.api." ++ link.url.host?.getD "undefined")
    (baseSources s o file Request.trimBase) (Request.baseFor t.apiBase link)
  agent : Decided "skyslot/0.1.0"
    [fun name => s.environment.get? "SKYSLOT_USER_AGENT" = some name ∧ name ≠ "",
      fun name => file.userAgent = some name]
    t.effectiveUserAgent
  limit : Decided 30
    [fun secs => ∃ text, s.environment.get? "SKYSLOT_TIMEOUT_SECS" = some text ∧
        Denotes text secs,
      fun secs => file.timeoutSecs = some secs]
    t.effectiveTimeoutSecs

theorem baseFor_eq (apiBase : Option String) (link : PostLink) :
    Request.baseFor apiBase link = (apiBase.map Request.trimBase).getD
      ("https://public.api." ++ link.url.host?.getD "undefined") := by
  cases apiBase <;> rfl

variable {s : Surroundings} {o : RenderOptions}

/-- The settings of a run, by what its sources say. -/
def decided (s : Surroundings) (o : RenderOptions) (limit : Option Nat) (file : Settings) :
    Settings :=
  let t := layered s.environment limit file
  { t with apiBase := o.apiBase.or t.apiBase }

theorem settingsFor_eq (s : Surroundings) (o : RenderOptions) :
    settingsFor s o = (loaded s.disk (settingsPath s o) s.environment).map fun t =>
      { t with apiBase := o.apiBase.or t.apiBase } := by
  unfold settingsFor loaded
  cases Settings.load s.disk (settingsPath s o) with
  | error e => rfl
  | ok file =>
    show (file.withEnvironment s.environment >>= _) = (file.withEnvironment s.environment).map _
    cases file.withEnvironment s.environment <;> rfl

theorem settingsFor_eq_ok_iff {t : Settings} :
    settingsFor s o = .ok t ↔ ∃ file limit, FileSays s.disk (settingsPath s o) file ∧
      LimitIn s.environment limit ∧ t = decided s o limit file := by
  rw [settingsFor_eq]
  constructor
  · intro h
    cases hloaded : loaded s.disk (settingsPath s o) s.environment with
    | error e => rw [hloaded] at h; cases h
    | ok u =>
      rw [hloaded] at h
      obtain ⟨file, limit, hfile, hlimit, rfl⟩ := Settings.loaded_eq_ok_iff.1 hloaded
      exact ⟨file, limit, hfile, hlimit, (Except.ok.inj h).symm⟩
  · rintro ⟨file, limit, hfile, hlimit, rfl⟩
    rw [Settings.loaded_eq_ok_iff.2 ⟨file, limit, hfile, hlimit, rfl⟩]
    rfl

theorem decided_base {α : Type} (limit : Option Nat) (file : Settings) (use : String → α)
    (resort : α) :
    Decided resort (baseSources s o file use)
      (((decided s o limit file).apiBase.map use).getD resort) := by
  have hmap (source : Option String) (base : α) :
      (∃ value, source = some value ∧ base = use value) ↔ source.map use = some base := by
    simp [Option.map_eq_some_iff, eq_comm]
  unfold decided layered
  simp only [Option.map_or, Option.getD_or]
  refine .getD (hmap _) (.getD (fun base => ?_) (.getD (hmap _) .resort))
  simp only [← Environment.nonempty?_eq_some_iff]
  exact hmap _ base

/-- Each setting comes from the first of its sources that names it. -/
theorem sourceLaw {file : Settings} {limit : Option Nat} (hlimit : LimitIn s.environment limit) :
    SourceLaw s o file (decided s o limit file) where
  chosen := by
    have hchosen := decided_base (s := s) (o := o) limit file some none
    cases hbase : (decided s o limit file).apiBase <;> rwa [hbase] at hchosen
  base link := by
    rw [baseFor_eq]
    exact decided_base limit file _ _
  agent := by
    rw [Settings.effectiveUserAgent, decided, layered]
    simp only [Option.getD_or]
    exact .getD (fun name => Environment.nonempty?_eq_some_iff.symm)
      (.getD (fun name => Iff.rfl) .resort)
  limit := by
    rw [Settings.effectiveTimeoutSecs, decided, layered]
    simp only [Option.getD_or]
    exact .getD (fun secs => (hlimit.eq_some_iff secs).symm) (.getD (fun secs => Iff.rfl) .resort)

/-! ## Requests -/

theorem asks_settle {p : Http.Get → Prop} {method start : String} {place : Reference}
    {redirected : Reference → Url → Http.Exchange (Except Error Json)}
    (h : ∀ next url, (redirected next url).Asks p) (reply : Http.Reply) :
    (Http.Client.settle method start place redirected reply).Asks p := by
  cases reply with
  | lost => trivial
  | answer status location body =>
    unfold Http.Client.settle
    dsimp only
    split
    · trivial
    · split
      · trivial
      · exact h _ _

/-- A client bears its name wherever it is sent. -/
theorem asks_follow (c : Http.Client) (method start : String) (left : Nat) (place : Reference) :
    (c.follow method start left place).Asks fun g => g.userAgent = c.userAgent := by
  induction left generalizing place with
  | zero => exact ⟨rfl, asks_settle fun next url => trivial⟩
  | succ left ih =>
    refine ⟨rfl, asks_settle fun next url => ?_⟩
    split
    · trivial
    · split
      · trivial
      · exact ih next

theorem asks_fetch (c : Http.Client) (r : Request) :
    (c.fetch r).Asks fun g => g.userAgent = c.userAgent := by
  unfold Http.Client.fetch
  dsimp only
  split
  · exact asks_follow c _ _ _ _
  · trivial

theorem asks_send {p : Request → Prop} {question : Except Error Request}
    (h : ∀ r, question = .ok r → p r) :
    (show ExceptT Error Acquiring Json from Acquiring.send question).run.Asks p := by
  cases question with
  | error e => trivial
  | ok r => exact ⟨h r rfl, fun answer => trivial⟩

theorem asks_bind {α β : Type} {p : Request → Prop} {x : ExceptT Error Acquiring α}
    {f : α → ExceptT Error Acquiring β} (hx : x.run.Asks p) (hf : ∀ a, (f a).run.Asks p) :
    (x >>= f).run.Asks p := by
  refine Dialogue.Asks.bind hx fun result => ?_
  cases result with
  | error e => trivial
  | ok a => exact hf a

/-- A record is asked for below the base. -/
theorem asks_acquire {p : Request → Prop} {apiBase : Option String} {link : PostLink}
    (h : ∀ method pair r,
      Request.ofParameter (Request.baseFor apiBase link) method pair = .ok r → p r) :
    (Post.acquire apiBase link).Asks p := by
  unfold Post.acquire
  dsimp only
  apply asks_bind
  · exact asks_send (h _ _)
  intro profile
  apply asks_bind
  · exact asks_send (h _ _)
  intro body
  -- what is made of the second answer asks for nothing
  apply asks_bind
  · trivial
  intro post
  trivial

theorem asks_mount {p : Request → Prop} (host : HostElement) (registry : Registry)
    {apiBase : Option String}
    (h : ∀ href link method pair r, host.link = some href → PostLink.parse href = .ok link →
      Request.ofParameter (Request.baseFor apiBase link) method pair = .ok r → p r) :
    ((Embed.ofHost host).mount registry apiBase).Asks p := by
  have hacquire : (Embed.acquire host apiBase).Asks p := by
    unfold Embed.acquire
    cases hlink : host.link with
    | none => trivial
    | some href =>
      dsimp only
      cases hparse : PostLink.parse href with
      | error e => trivial
      | ok link => exact asks_acquire fun method pair r => h href link method pair r hlink hparse
  unfold Embed.mount
  split
  · trivial
  · split
    · trivial
    · refine hacquire.bind fun result => ?_
      cases result <;> trivial

/-! ## The run -/

/-- What a run does with its settings. -/
structure RunLaw (o : RenderOptions) (t : Settings) (program : Http.Exchange Report) : Prop where
  /-- All requests bear the name, whatever servers answer. -/
  agent : ∀ servers, ∀ g ∈ (program.run servers []).2, g.userAgent = t.effectiveUserAgent
  /-- Requests are only sent for queries, and all queries are made below the base. -/
  base : ∃ queries : Acquiring Report,
    program = queries.refine (Http.Client.fetch ⟨t.effectiveUserAgent⟩) ∧
      queries.Asks fun r => ∃ link method pair, PostLink.parse o.href = .ok link ∧
        Request.ofParameter (Request.baseFor t.apiBase link) method pair = .ok r

theorem runLaw_of_queries {t : Settings} (queries : Acquiring Report)
    (h : queries.Asks fun r => ∃ link method pair, PostLink.parse o.href = .ok link ∧
      Request.ofParameter (Request.baseFor t.apiBase link) method pair = .ok r) :
    RunLaw o t (queries.refine (Http.Client.fetch ⟨t.effectiveUserAgent⟩)) where
  agent servers g hg := by
    have hasks := h.refine fun r _ => asks_fetch ⟨t.effectiveUserAgent⟩ r
    exact (hasks.of_mem_run servers hg).resolve_left List.not_mem_nil
  base := ⟨queries, rfl, h⟩

theorem eq_of_ofUserAgent {userAgent : String} {c : Http.Client}
    (h : Http.Client.ofUserAgent userAgent = .ok c) : c = ⟨userAgent⟩ := by
  unfold Http.Client.ofUserAgent at h
  split at h
  · exact (Except.ok.inj h).symm
  · cases h

/-- What is prepared are the settings of the run, and a client that bears their name. -/
theorem prepare_eq_ok {p : Preparation} (h : prepare s o = .ok p) :
    settingsFor s o = .ok p.settings ∧ p.client = ⟨p.settings.effectiveUserAgent⟩ := by
  simp only [prepare, bind_eq_ok_iff] at h
  obtain ⟨t, ht, _, _, r, _, c, hclient, hp⟩ := h
  cases hp
  exact ⟨ht, eq_of_ofUserAgent hclient⟩

/-- A run asks what its settings say. -/
theorem runLaw_of_settings {words : List String} (hwords : parse words = .ok (.render o))
    {t : Settings} (ht : settingsFor s o = .ok t) : RunLaw o t (runLine s words) := by
  cases hprepare : prepare s o with
  | error e =>
    rw [runLine_of_refused hwords hprepare]
    exact runLaw_of_queries (.done (.failed e)) trivial
  | ok p =>
    obtain ⟨hsettings, hclient⟩ := prepare_eq_ok hprepare
    cases ht.symm.trans hsettings
    rw [runLine_of_mount hwords hprepare, hclient]
    refine runLaw_of_queries _ (Dialogue.Asks.bind ?_ fun mounted => trivial)
    refine asks_mount _ _ fun href link method pair r hhref hlink hr => ?_
    cases hhref
    exact ⟨link, method, pair, hlink, hr⟩

/-! ## Precedence -/

/-- What becomes of the settings of a run that renders a post. -/
structure PrecedenceLaw (s : Surroundings) (o : RenderOptions) : Prop where
  /-- Settings can be had from the file and the environment unless the file is there and faulty, or
  the time limit is. -/
  fails_iff : (∃ e, loaded s.disk (settingsPath s o) s.environment = .error e) ↔
    Faulty s.disk (settingsPath s o) s.environment
  /-- Without them a run fails, whatever the command line says of the base. -/
  refused : ∀ e, loaded s.disk (settingsPath s o) s.environment = .error e →
    (∃ reason, e = .config reason) ∧
      ∀ words, parse words = .ok (.render o) → runLine s words = .done (.failed e)
  /-- Otherwise each of them comes from the first of its sources that names it. -/
  accepted : ∀ u, loaded s.disk (settingsPath s o) s.environment = .ok u →
    ∃ file t, FileSays s.disk (settingsPath s o) file ∧ settingsFor s o = .ok t ∧
      SourceLaw s o file t ∧
      ∀ words, parse words = .ok (.render o) → RunLaw o t (runLine s words)

/-- Each setting of two runs is the same if its own sources are. -/
structure OwnSources (s s' : Surroundings) (o o' : RenderOptions) (file file' t t' : Settings) :
    Prop where
  base : o.apiBase = o'.apiBase →
    s.environment.get? "SKYSLOT_API_BASE" = s'.environment.get? "SKYSLOT_API_BASE" →
    file.apiBase = file'.apiBase → t.apiBase = t'.apiBase
  agent : s.environment.get? "SKYSLOT_USER_AGENT" = s'.environment.get? "SKYSLOT_USER_AGENT" →
    file.userAgent = file'.userAgent → t.effectiveUserAgent = t'.effectiveUserAgent
  limit : s.environment.get? "SKYSLOT_TIMEOUT_SECS" = s'.environment.get? "SKYSLOT_TIMEOUT_SECS" →
    file.timeoutSecs = file'.timeoutSecs → t.effectiveTimeoutSecs = t'.effectiveTimeoutSecs

theorem precedenceLaw (s : Surroundings) (o : RenderOptions) : PrecedenceLaw s o where
  fails_iff := Settings.loaded_fails_iff
  refused e he := by
    refine ⟨Settings.config_of_loaded he, fun words hwords => ?_⟩
    have hsettings : settingsFor s o = .error e := by
      rw [settingsFor_eq, he]
      rfl
    refine runLine_of_refused hwords ?_
    rw [prepare, hsettings]
    rfl
  accepted u hu := by
    obtain ⟨file, limit, hfile, hlimit, -⟩ := Settings.loaded_eq_ok_iff.1 hu
    have hsettings := settingsFor_eq_ok_iff.2 ⟨file, limit, hfile, hlimit, rfl⟩
    exact ⟨file, _, hfile, hsettings, sourceLaw hlimit,
      fun words hwords => runLaw_of_settings hwords hsettings⟩

/-- The settings of a run are those that its sources decide on. -/
theorem eq_decided {file t : Settings} (hfile : FileSays s.disk (settingsPath s o) file)
    (ht : settingsFor s o = .ok t) :
    ∃ limit, LimitIn s.environment limit ∧ t = decided s o limit file := by
  obtain ⟨file', limit, hfile', hlimit, rfl⟩ := settingsFor_eq_ok_iff.1 ht
  rw [hfile.unique hfile']
  exact ⟨limit, hlimit, rfl⟩

theorem ownSources {s s' : Surroundings} {o o' : RenderOptions} {file file' t t' : Settings}
    (hfile : FileSays s.disk (settingsPath s o) file) (ht : settingsFor s o = .ok t)
    (hfile' : FileSays s'.disk (settingsPath s' o') file') (ht' : settingsFor s' o' = .ok t') :
    OwnSources s s' o o' file file' t t' := by
  obtain ⟨limit, hlimit, rfl⟩ := eq_decided hfile ht
  obtain ⟨limit', hlimit', rfl⟩ := eq_decided hfile' ht'
  refine ⟨fun hflag hget hsays => ?_, fun hget hsays => ?_, fun hget hsays => ?_⟩
  · simp only [decided, layered, Environment.nonempty?, hflag, hget, hsays]
  · simp only [Settings.effectiveUserAgent, decided, layered, Environment.nonempty?, hget, hsays]
  · have hsame : limit = limit' := by
      refine Option.ext fun n => ?_
      rw [hlimit.eq_some_iff, hlimit'.eq_some_iff, hget]
    simp only [Settings.effectiveTimeoutSecs, decided, layered, hsame, hsays]

/-- Each setting comes from the first of its own sources that names it; settings cannot be had
from a faulty file or with a faulty time limit, and what is had decides over what a run asks. -/
theorem settings_precedence (s s' : Surroundings) (o o' : RenderOptions) :
    PrecedenceLaw s o ∧
      ∀ file file' t t', FileSays s.disk (settingsPath s o) file → settingsFor s o = .ok t →
        FileSays s'.disk (settingsPath s' o') file' → settingsFor s' o' = .ok t' →
        OwnSources s s' o o' file file' t t' :=
  ⟨precedenceLaw s o, fun _ _ _ _ hfile ht hfile' ht' => ownSources hfile ht hfile' ht'⟩

/-- An empty base counts for nothing, a time limit may have a plus sign and zeros in front, no file
makes up for a time limit that is not a word, and a path that leads in circles is as good as none,
unlike a directory in the place of the file. -/
theorem settings_precedence_layers :
    let words := ["render", "http://l/", "--config", "c.toml"]
    let o : RenderOptions := ⟨"http://l/", Template.defaultTag, none, none, none, some "c.toml"⟩
    let disk : Disk := fun path => if path = "c.toml" then
      .ok "api_base = \"http://f/\"\ntimeout_secs = 7\nuser_agent = 'f'\n" else .error (.missing .notFound)
    let s : Surroundings := ⟨disk, ⟨[("SKYSLOT_API_BASE", ""), ("SKYSLOT_USER_AGENT", "e"),
      ("SKYSLOT_TIMEOUT_SECS", "+008")]⟩⟩
    let s' : Surroundings := ⟨disk, ⟨[("SKYSLOT_TIMEOUT_SECS", "18446744073709551616")]⟩⟩
    let t : Settings := ⟨some "http://f/", some 8, some "e"⟩
    let circle : Surroundings := ⟨fun _ => .error (.missing .linkLoop), s.environment⟩
    let directory : Surroundings := ⟨fun _ => .error (.unreadable .isDirectory), s.environment⟩
    (settingsFor s o = .ok t ∧ RunLaw o t (runLine s words)) ∧
      (∃ reason, runLine s' words = .done (.failed (.config reason))) ∧
      settingsFor circle o = .ok ⟨none, some 8, some "e"⟩ ∧
      ¬Faulty circle.disk (settingsPath circle o) circle.environment ∧
      ∃ reason, runLine directory words = .done (.failed (.config reason)) := by
  intro words o disk s s' t circle directory
  have hwords : parse words = .ok (.render o) := by decide +kernel
  have hloaded : loaded s.disk (settingsPath s o) s.environment = .ok t := by decide +kernel
  have hsettings : settingsFor s o = .ok t := by decide +kernel
  have hword : Decimal.readWord? "18446744073709551616".toList = none := by decide
  have hfaulty : Faulty s'.disk (settingsPath s' o) s'.environment :=
    .limit rfl fun n hn => Option.some_ne_none n
      ((Decimal.readWord?_eq_some_iff.2 hn).symm.trans hword)
  obtain ⟨_, u, _, hu, _, hrun⟩ := (settings_precedence s s' o o).1.accepted t hloaded
  cases hsettings.symm.trans hu
  obtain ⟨e, he⟩ := (settings_precedence s' s o o).1.fails_iff.2 hfaulty
  obtain ⟨⟨reason, rfl⟩, hfailed⟩ := (settings_precedence s' s o o).1.refused e he
  have hcircle : settingsFor circle o = .ok ⟨none, some 8, some "e"⟩ := by decide +kernel
  have hsound : ¬Faulty circle.disk (settingsPath circle o) circle.environment := by
    intro hbad
    obtain ⟨e, he⟩ := (settings_precedence circle s o o).1.fails_iff.2 hbad
    cases he.symm.trans (show loaded circle.disk (settingsPath circle o) circle.environment =
      .ok ⟨none, some 8, some "e"⟩ by decide +kernel)
  obtain ⟨e, he⟩ := (settings_precedence directory s o o).1.fails_iff.2 (.unreadable rfl)
  obtain ⟨⟨reason', rfl⟩, hrefused⟩ := (settings_precedence directory s o o).1.refused e he
  exact ⟨⟨hsettings, hrun words hwords⟩, ⟨reason, hfailed words hwords⟩, hcircle, hsound, reason',
    hrefused words hwords⟩

end PostSlots.Command
