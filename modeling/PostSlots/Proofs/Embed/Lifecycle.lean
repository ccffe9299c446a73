import PostSlots.Embed
import PostSlots.Post.Canned
import PostSlots.Proofs.Post.Protocol
import PostSlots.Proofs.Template.FirstRegistration

/-!
# An embed renders once

A page mounts its host element as often as it likes. Between two mounts templates come in and
services change their minds. As long as its template is missing an embed waits, and nobody is asked
for anything. The first mount that finds the template is the only one that counts: it renders the
post or fails for good.

Results:
1. `Post.length_asked_acquire`: a record takes two requests at most.
2. `Page.mount_of_settled`, `Page.mount_of_missing` and `Page.mount_of_template`: what one mount
   does, by the stage of the embed and the registry.
3. `Page.Progress.step`: what a step adds to the attempts of an embed.
4. `Page.Progress.run`: the same for steps one after the other.
5. `Page.run_lifecycle`: what holds after any steps from a fresh embed.
-/

namespace PostSlots

/-- The id of the template that a host element is rendered with. -/
def HostElement.templateId (host : HostElement) : String :=
  host.template.getD (host.tag ++ "-template")

/-- What a mount has returned, and the requests that were made for it. -/
structure Attempt where
  result : Except Error Rendered
  requests : List Request

/-- A page with an embed, templates that come in and services that change. -/
structure Page where
  embed : Embed
  registry : Registry
  services : Dialogue.Oracle Request (Except Error Json)
  asked : List Request

namespace Page

/-- What can happen in a page. -/
inductive Step where
  | mount (apiBase : Option String)
  | fill (op : Registry.Operation)
  | serve (services : Dialogue.Oracle Request (Except Error Json))

/-- Mounts the embed. The requests of the attempt are those that were not made before. -/
def mount (p : Page) (apiBase : Option String) : Attempt × Page :=
  let ((result, embed), asked) := (p.embed.mount p.registry apiBase).run p.services p.asked
  (⟨result, asked.drop p.asked.length⟩, { p with embed, asked })

/-- Takes one step, with the attempt that it made. -/
def step (p : Page) : Step → List Attempt × Page
  | .mount apiBase =>
    let (attempt, p) := p.mount apiBase
    ([attempt], p)
  | .fill op => ([], { p with registry := (p.registry.perform op).2 })
  | .serve services => ([], { p with services })

/-- Takes steps one after the other, with all attempts in order. -/
def run (p : Page) : List Step → List Attempt × Page
  | [] => ([], p)
  | s :: steps =>
    let (attempts, p) := p.step s
    let (later, p) := p.run steps
    (attempts ++ later, p)

/-- A page in which nothing has happened yet. -/
def ofHost (host : HostElement) (registry : Registry)
    (services : Dialogue.Oracle Request (Except Error Json)) : Page :=
  ⟨.ofHost host, registry, services, []⟩

end Page

/-! ## Records of links -/

/-- A record takes two requests at most. -/
theorem Post.length_asked_acquire (apiBase : Option String) (link : PostLink)
    (oracle : Dialogue.Oracle Request (Except Error Json)) :
    ((acquire apiBase link).run oracle []).2.length ≤ 2 := by
  rw [run_acquire]
  split
  · exact Nat.zero_le 2
  · split
    · exact Nat.le_succ 1
    · split
      · exact Nat.le_succ 1
      · exact Nat.le_refl 2

theorem PostLink.exists_invalidLink {href : String} {e : Error} (h : parse href = .error e) :
    ∃ reason, e = .invalidLink href reason := by
  rw [parse] at h
  split at h
  · cases h
  · cases h
    exact ⟨_, rfl⟩

namespace Embed

/-- What comes of the link of a host element, and the requests that this takes. -/
inductive Fetches (host : HostElement) (apiBase : Option String)
    (services : Dialogue.Oracle Request (Except Error Json)) (asked : List Request) :
    Except Error Record → List Request → Prop
  | missingLink : host.link = none →
    Fetches host apiBase services asked (.error (.missingLink host.tag)) []
  | invalidLink {href reason : String} : host.link = some href →
    PostLink.parse href = .error (.invalidLink href reason) →
    Fetches host apiBase services asked (.error (.invalidLink href reason)) []
  | acquired {href : String} {link : PostLink} {result : Except Error Record}
    {requests : List Request} : host.link = some href → PostLink.parse href = .ok link →
    (Post.acquire apiBase link).run services asked = (result, asked ++ requests) →
    Fetches host apiBase services asked result requests

theorem exists_fetches (host : HostElement) (apiBase : Option String)
    (services : Dialogue.Oracle Request (Except Error Json)) (asked : List Request) :
    ∃ result requests, Fetches host apiBase services asked result requests ∧
      requests.length ≤ 2 ∧
      (acquire host apiBase).run services asked = (result, asked ++ requests) := by
  cases hlink : host.link with
  | none =>
    refine ⟨_, _, .missingLink hlink, Nat.zero_le 2, ?_⟩
    rw [acquire, hlink, List.append_nil]
    rfl
  | some href =>
    cases hparse : PostLink.parse href with
    | error e =>
      obtain ⟨reason, rfl⟩ := PostLink.exists_invalidLink hparse
      refine ⟨_, _, .invalidLink hlink hparse, Nat.zero_le 2, ?_⟩
      rw [acquire, hlink]
      simp only [hparse, Dialogue.run, List.append_nil]
    | ok link =>
      -- what was asked before only shifts the answers
      have hrun := Dialogue.run_append services (Post.acquire apiBase link) asked []
      rw [List.append_nil] at hrun
      refine ⟨_, _, .acquired hlink hparse hrun, Post.length_asked_acquire apiBase link _, ?_⟩
      rw [acquire, hlink]
      simp only [hparse, hrun]

end Embed

namespace Page

variable {p : Page} {apiBase : Option String}

/-! ## One mount -/

theorem instantiate_eq (r : Registry) (host : HostElement) :
    r.instantiate host.template host.tag =
      match r.get? host.templateId with
      | some t => .ok t.content
      | none => .error (.templateNotFound host.templateId) :=
  rfl

/-- An embed that has once asked for its record is mounted no more. -/
theorem mount_of_settled (h : p.embed.stage ≠ .unmounted) :
    p.mount apiBase = (⟨.error (.alreadyMounted p.embed.host.tag), []⟩, p) := by
  rw [mount, Embed.mount, if_pos h]
  simp only [Dialogue.run, List.drop_length]

/-- Without its template an embed waits. -/
theorem mount_of_missing (h : p.embed.stage = .unmounted)
    (hmissing : p.registry.get? p.embed.host.templateId = none) :
    p.mount apiBase = (⟨.error (.templateNotFound p.embed.host.templateId), []⟩, p) := by
  rw [mount, Embed.mount, if_neg (not_not_intro h), instantiate_eq, hmissing]
  simp only [Dialogue.run, List.drop_length]

/-- A page after a mount that has found the template. -/
def after (p : Page) (stage : Stage) (requests : List Request) : Page :=
  { p with embed := ⟨p.embed.host, stage⟩, asked := p.asked ++ requests }

theorem after_same (p : Page) : p.after p.embed.stage [] = p := by
  rw [after, List.append_nil]

/-- With its template an embed asks for its record, and renders it or fails. -/
theorem mount_of_template {t : Template} (h : p.embed.stage = .unmounted)
    (ht : p.registry.get? p.embed.host.templateId = some t) :
    ∃ result requests, Embed.Fetches p.embed.host apiBase p.services p.asked result requests ∧
      requests.length ≤ 2 ∧
      ((Embed.acquire p.embed.host apiBase).run p.services p.asked).1 = result ∧
      p.mount apiBase =
        match result with
        | .ok record => (⟨.ok (Embed.render t.content record), requests⟩, p.after .bound requests)
        | .error e => (⟨.error e, requests⟩, p.after .acquiring requests) := by
  obtain ⟨result, requests, hfetches, hlength, hrun⟩ :=
    Embed.exists_fetches p.embed.host apiBase p.services p.asked
  refine ⟨result, requests, hfetches, hlength, by rw [hrun], ?_⟩
  rw [mount, Embed.mount, if_neg (not_not_intro h), instantiate_eq, ht]
  simp only [Dialogue.run_bind, hrun]
  cases result with
  | error e => simp only [Dialogue.run, List.drop_left, after]
  | ok record => simp only [Dialogue.run, List.drop_left, after]

/-- What a mount does to a page. -/
structure MountLaw (host : HostElement) (apiBase : Option String) (p : Page) : Prop where
  /-- Without its template the embed stays as it is, and nobody is asked. -/
  missing : p.embed.stage = .unmounted → p.registry.get? host.templateId = none →
    p.mount apiBase = (⟨.error (.templateNotFound host.templateId), []⟩, p)
  /-- With its template the embed fetches its record and is bound, or fails for good. -/
  found : ∀ t, p.embed.stage = .unmounted → p.registry.get? host.templateId = some t →
    (∃ record requests, Embed.Fetches host apiBase p.services p.asked (.ok record) requests ∧
      p.mount apiBase =
        (⟨.ok (Embed.render t.content record), requests⟩, p.after .bound requests)) ∨
    ∃ e requests, Embed.Fetches host apiBase p.services p.asked (.error e) requests ∧
      p.mount apiBase = (⟨.error e, requests⟩, p.after .acquiring requests)
  /-- Any other mount comes too late. -/
  late : p.embed.stage ≠ .unmounted →
    p.mount apiBase = (⟨.error (.alreadyMounted host.tag), []⟩, p)

theorem mountLaw (p : Page) (apiBase : Option String) : MountLaw p.embed.host apiBase p := by
  refine ⟨mount_of_missing, fun t h ht => ?_, mount_of_settled⟩
  obtain ⟨result, requests, hfetches, _, _, hmount⟩ := mount_of_template h ht
  cases result with
  | ok record => exact .inl ⟨record, requests, hfetches, hmount⟩
  | error e => exact .inr ⟨e, requests, hfetches, hmount⟩

end Page

/-! ## Attempts that count -/

namespace Attempt

/-- An attempt that has rendered nothing and asked for nothing. -/
structure IsIdle (a : Attempt) : Prop where
  failed : a.result.isOk = false
  silent : a.requests = []

theorem IsIdle.of_error (e : Error) : IsIdle ⟨.error e, []⟩ :=
  ⟨rfl, rfl⟩

theorem IsIdle.not_isOk {a : Attempt} (h : a.IsIdle) : ¬a.result.isOk = true := by
  rw [h.failed]
  exact Bool.false_ne_true

/-- The stage after an attempt that has found its template. -/
def stage (a : Attempt) : Stage :=
  match a.result with
  | .ok _ => .bound
  | .error _ => .acquiring

theorem stage_ne_unmounted (a : Attempt) : a.stage ≠ .unmounted := by
  rw [stage]
  split <;> exact nofun

theorem stage_eq_bound_iff (a : Attempt) : a.stage = .bound ↔ a.result.isOk = true := by
  rw [stage]
  cases a.result <;> simp [Except.isOk, Except.toBool]

end Attempt

namespace Page

/-- A mount changes nothing, or it is the one that counts. -/
theorem mount_cases (p : Page) (apiBase : Option String) :
    ∃ attempt stage, p.mount apiBase = (attempt, p.after stage attempt.requests) ∧
      (attempt.IsIdle ∧ stage = p.embed.stage ∨
        p.embed.stage = .unmounted ∧ attempt.requests.length ≤ 2 ∧ stage = attempt.stage) := by
  by_cases h : p.embed.stage = .unmounted
  · cases ht : p.registry.get? p.embed.host.templateId with
    | none =>
      exact ⟨_, p.embed.stage, (mount_of_missing h ht).trans (congrArg _ p.after_same.symm),
        .inl ⟨.of_error _, rfl⟩⟩
    | some t =>
      obtain ⟨result, requests, _, hlength, _, hmount⟩ := mount_of_template h ht
      cases result with
      | ok record => exact ⟨_, _, hmount, .inr ⟨h, hlength, rfl⟩⟩
      | error e => exact ⟨_, _, hmount, .inr ⟨h, hlength, rfl⟩⟩
  · exact ⟨_, p.embed.stage, (mount_of_settled h).trans (congrArg _ p.after_same.symm),
      .inl ⟨.of_error _, rfl⟩⟩

/-- How an embed has come to its stage: it has waited all along, or one attempt has counted. -/
inductive Progress : Stage → List Attempt → Prop
  | waiting {attempts : List Attempt} : (∀ a ∈ attempts, a.IsIdle) → Progress .unmounted attempts
  | settled {before later : List Attempt} {a : Attempt} : (∀ b ∈ before, b.IsIdle) →
    a.requests.length ≤ 2 → (∀ b ∈ later, b.IsIdle) → Progress a.stage (before ++ a :: later)

variable {p : Page} {stage : Stage} {attempts : List Attempt}

theorem Progress.idle (h : Progress stage attempts) {a : Attempt} (ha : a.IsIdle) :
    Progress stage (attempts ++ [a]) := by
  have hlast : ∀ b ∈ [a], b.IsIdle := List.forall_mem_singleton.2 ha
  cases h with
  | waiting hidle => exact .waiting (List.forall_mem_append.2 ⟨hidle, hlast⟩)
  | settled hbefore hlength hlater =>
    rw [List.append_assoc, List.cons_append]
    exact .settled hbefore hlength (List.forall_mem_append.2 ⟨hlater, hlast⟩)

theorem Progress.all_idle (h : Progress stage attempts) (hstage : stage = .unmounted) :
    ∀ a ∈ attempts, a.IsIdle := by
  cases h with
  | waiting hidle => exact hidle
  | settled => exact absurd hstage (Attempt.stage_ne_unmounted _)

/-- A step adds what it attempts. -/
theorem Progress.step (h : Progress p.embed.stage attempts) (s : Step) :
    Progress (p.step s).2.embed.stage (attempts ++ (p.step s).1) := by
  cases s with
  | fill op => rwa [Page.step, List.append_nil]
  | serve services => rwa [Page.step, List.append_nil]
  | mount apiBase =>
    obtain ⟨attempt, stage, hmount, hcases⟩ := p.mount_cases apiBase
    rw [Page.step, hmount]
    rcases hcases with ⟨hidle, rfl⟩ | ⟨hstage, hlength, rfl⟩
    · exact h.idle hidle
    · exact .settled (h.all_idle hstage) hlength nofun

/-- So do steps one after the other. -/
theorem Progress.run (h : Progress p.embed.stage attempts) (steps : List Step) :
    Progress (p.run steps).2.embed.stage (attempts ++ (p.run steps).1) := by
  -- the attempts of one step are earlier attempts for the next
  induction steps generalizing p attempts with
  | nil => rwa [Page.run, List.append_nil]
  | cons s steps ih =>
    rw [Page.run, ← List.append_assoc]
    exact ih (h.step s)

/-- What no idle attempt has, one attempt has at most. -/
theorem Progress.countP_le_one (h : Progress stage attempts) {q : Attempt → Bool}
    (hq : ∀ a : Attempt, a.IsIdle → q a = false) : attempts.countP q ≤ 1 := by
  have hnone {idle : List Attempt} (hidle : ∀ a ∈ idle, a.IsIdle) : idle.countP q = 0 :=
    List.countP_eq_zero.2 fun a ha => by rw [hq a (hidle a ha)]; exact Bool.false_ne_true
  cases h with
  | waiting hidle =>
    rw [hnone hidle]
    exact Nat.zero_le 1
  | settled hbefore _ hlater =>
    rw [List.countP_append, List.countP_cons, hnone hbefore, hnone hlater]
    split <;> decide

theorem Progress.bound_iff (h : Progress stage attempts) :
    stage = .bound ↔ ∃ a ∈ attempts, a.result.isOk = true := by
  cases h with
  | waiting hidle =>
    exact ⟨nofun, fun ⟨a, ha, hok⟩ => absurd hok (hidle a ha).not_isOk⟩
  | @settled before later a hbefore _ hlater =>
    rw [a.stage_eq_bound_iff]
    refine ⟨fun hok => ⟨a, by simp, hok⟩, fun ⟨b, hb, hok⟩ => ?_⟩
    rcases List.mem_append.1 hb with hb | hb
    · exact absurd hok (hbefore b hb).not_isOk
    · rcases List.mem_cons.1 hb with rfl | hb
      · exact hok
      · exact absurd hok (hlater b hb).not_isOk

theorem flatMap_requests_of_idle (h : ∀ a ∈ attempts, a.IsIdle) :
    attempts.flatMap Attempt.requests = [] :=
  List.flatMap_eq_nil_iff.2 fun a ha => (h a ha).silent

theorem Progress.length_requests (h : Progress stage attempts) :
    (attempts.flatMap Attempt.requests).length ≤ 2 := by
  cases h with
  | waiting hidle =>
    rw [flatMap_requests_of_idle hidle]
    exact Nat.zero_le 2
  | settled hbefore hlength hlater =>
    rw [List.flatMap_append, List.flatMap_cons, flatMap_requests_of_idle hbefore,
      flatMap_requests_of_idle hlater, List.append_nil]
    exact hlength

/-! ## What stays -/

theorem step_frame (p : Page) (s : Step) :
    (p.step s).2.embed.host = p.embed.host ∧
      (p.step s).2.asked = p.asked ++ (p.step s).1.flatMap Attempt.requests := by
  cases s with
  | fill op => exact ⟨rfl, (List.append_nil _).symm⟩
  | serve services => exact ⟨rfl, (List.append_nil _).symm⟩
  | mount apiBase =>
    obtain ⟨attempt, stage, hmount, _⟩ := p.mount_cases apiBase
    rw [step, hmount]
    exact ⟨rfl, by rw [List.flatMap_singleton]; rfl⟩

/-- The host element stays, and the requests are those of the attempts. -/
theorem run_frame (p : Page) (steps : List Step) :
    (p.run steps).2.embed.host = p.embed.host ∧
      (p.run steps).2.asked = p.asked ++ (p.run steps).1.flatMap Attempt.requests := by
  induction steps generalizing p with
  | nil => exact ⟨rfl, (List.append_nil _).symm⟩
  | cons s steps ih =>
    obtain ⟨hhost, hasked⟩ := p.step_frame s
    obtain ⟨hhost', hasked'⟩ := ih (p.step s).2
    rw [run]
    refine ⟨hhost'.trans hhost, ?_⟩
    rw [hasked', hasked, List.flatMap_append, List.append_assoc]

theorem step_of_settled (h : p.embed.stage ≠ .unmounted) (s : Step) :
    (p.step s).2.embed = p.embed ∧
      ∀ a ∈ (p.step s).1, a = ⟨.error (.alreadyMounted p.embed.host.tag), []⟩ := by
  cases s with
  | fill op => exact ⟨rfl, nofun⟩
  | serve services => exact ⟨rfl, nofun⟩
  | mount apiBase =>
    rw [step, mount_of_settled h]
    exact ⟨rfl, fun a ha => List.mem_singleton.1 ha⟩

/-- An embed that has settled stays as it is, and is told so at each further mount. -/
theorem run_of_settled (h : p.embed.stage ≠ .unmounted) (steps : List Step) :
    (p.run steps).2.embed = p.embed ∧
      ∀ a ∈ (p.run steps).1, a = ⟨.error (.alreadyMounted p.embed.host.tag), []⟩ := by
  induction steps generalizing p with
  | nil => exact ⟨rfl, nofun⟩
  | cons s steps ih =>
    obtain ⟨hembed, hanswers⟩ := step_of_settled h s
    obtain ⟨hembed', hanswers'⟩ := ih (p := (p.step s).2) (hembed ▸ h)
    rw [run]
    refine ⟨hembed'.trans hembed, fun a ha => ?_⟩
    rcases List.mem_append.1 ha with ha | ha
    · exact hanswers a ha
    · rw [← hembed]
      exact hanswers' a ha

/-! ## The whole life -/

theorem mount_of_record {t : Template} {record : Record} (h : p.embed.stage = .unmounted)
    (ht : p.registry.get? p.embed.host.templateId = some t) {apiBase : Option String}
    (hrecord : ((Embed.acquire p.embed.host apiBase).run p.services p.asked).1 = .ok record) :
    ∃ requests, (p.mount apiBase).1 = ⟨.ok (Embed.render t.content record), requests⟩ := by
  obtain ⟨result, requests, _, _, hresult, hmount⟩ := mount_of_template (p := p) h ht
  rw [hrecord] at hresult
  subst hresult
  exact ⟨requests, congrArg Prod.fst hmount⟩

/-- An embed that waits is rendered when its template and its record are there. -/
theorem run_of_waiting (h : p.embed.stage = .unmounted) (hasked : p.asked = [])
    (hid : TemplateName.IsId p.embed.host.templateId) (content : Fragment)
    {apiBase : Option String} {services : Dialogue.Oracle Request (Except Error Json)}
    {record : Record}
    (hrecord : ((Embed.acquire p.embed.host apiBase).run services []).1 = .ok record) :
    ∃ rendered requests,
      (p.run [.fill (.register ⟨p.embed.host.templateId, content⟩), .serve services,
        .mount apiBase]).1 = [⟨.ok rendered, requests⟩] := by
  obtain ⟨t, ht⟩ := p.registry.exists_get?_attempt (t := ⟨p.embed.host.templateId, content⟩) hid
  rw [← hasked] at hrecord
  obtain ⟨requests, hmount⟩ := mount_of_record (p := ⟨p.embed, (p.registry.attempt
    ⟨p.embed.host.templateId, content⟩).2, services, p.asked⟩) h ht hrecord
  exact ⟨_, requests, congrArg (fun attempt => [attempt]) hmount⟩

/-- What holds of a page after some attempts to mount an embed. -/
structure Lifecycle (host : HostElement) (attempts : List Attempt) (p : Page) : Prop where
  /-- Whatever comes next, a mount does what its law says. -/
  mount_law : ∀ apiBase, MountLaw host apiBase p
  /-- An embed that waits has asked for nothing, and a later mount may still render it. -/
  waiting : p.embed.stage = .unmounted → p.asked = [] ∧
    ∀ content apiBase services record, TemplateName.IsId host.templateId →
      ((Embed.acquire host apiBase).run services []).1 = .ok record →
      ∃ rendered requests,
        (p.run [.fill (.register ⟨host.templateId, content⟩), .serve services,
          .mount apiBase]).1 = [⟨.ok rendered, requests⟩]
  /-- Any other embed stays as it is, and every further mount is turned away. -/
  settled : p.embed.stage ≠ .unmounted → ∀ steps, (p.run steps).2.embed = p.embed ∧
    ∀ a ∈ (p.run steps).1, a = ⟨.error (.alreadyMounted host.tag), []⟩
  rendered_once : attempts.countP (fun a => a.result.isOk) ≤ 1
  bound_iff : p.embed.stage = .bound ↔ ∃ a ∈ attempts, a.result.isOk = true
  asked_eq : p.asked = attempts.flatMap Attempt.requests
  asked_once : attempts.countP (fun a => !a.requests.isEmpty) ≤ 1
  length_asked : p.asked.length ≤ 2

/-- Whatever comes into a page and whatever services answer, its embed renders once at most, asks
for its record in one mount with two requests at most, and never leaves the stage this leads to. -/
theorem run_lifecycle (host : HostElement) (registry : Registry)
    (services : Dialogue.Oracle Request (Except Error Json)) (steps : List Step) :
    let run := (ofHost host registry services).run steps
    Lifecycle host run.1 run.2 := by
  intro run
  obtain ⟨hhost, hasked⟩ : run.2.embed.host = host ∧ run.2.asked = run.1.flatMap Attempt.requests :=
    run_frame (ofHost host registry services) steps
  have hprogress : Progress run.2.embed.stage run.1 :=
    Progress.run (p := ofHost host registry services) (.waiting (List.forall_mem_nil _)) steps
  have hlength := hprogress.length_requests
  rw [← hasked] at hlength
  rw [← hhost]
  refine ⟨mountLaw run.2, fun h => ?_, run_of_settled,
    hprogress.countP_le_one fun a ha => ha.failed, hprogress.bound_iff, hasked,
    hprogress.countP_le_one fun a ha => by rw [ha.silent]; rfl, hlength⟩
  have hnone : run.2.asked = [] := by
    rw [hasked, flatMap_requests_of_idle (hprogress.all_idle h)]
  exact ⟨hnone, fun content _ _ _ hid hrecord => run_of_waiting h hnone hid content hrecord⟩

/-- Once its template is there, an embed that has waited is rendered, and mounted no more. -/
example : ((ofHost ⟨"bluesky-post", none, some "https://bsky.app/profile/a.test/post/1"⟩ .empty
    (Request.canned [(Request.getProfile, .object [("did", .string "did:plc:1")]),
      (Request.getPosts, .object [("posts", .array [])])])).run
    [.mount none, .fill .builtin, .mount none, .mount none]).1.map
      (fun a => (a.result.isOk, a.requests.length)) =
    [(false, 0), (true, 2), (false, 0)] := by
  decide +kernel

end Page

end PostSlots
