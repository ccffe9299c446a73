import PostSlots.Http.Routes
import PostSlots.Proofs.Http.Redirects

/-!
# What comes of a query

A query leaves a trail of requests, each but the first one at the place that the reply to the
request before it has named. Where the trail ends, the last reply alone decides: JSON of a server
that reports success is the result, and anything else an error of one of two kinds. Servers answer
as they like, also differently to the same request, may break off a reply in its body, and may send
a client in circles.

Results:
1. `Http.Client.trail_follow`: following redirects makes a trail.
2. `Http.Client.Trail.verdict`: the last reply of a trail decides over the result.
3. `Http.Client.fetch_outcome`: how many requests a query takes, how they follow one another, and
   which result it has.
-/

namespace PostSlots.Http.Client

/-! ## Verdicts -/

/-- All of a body has arrived, and it is JSON of a value. -/
def IsJson (body : Option String) (value : Json) : Prop :=
  ∃ text, body = some text ∧ Json.parse text = .ok value

theorem IsJson.unique {body : Option String} {value value' : Json} (h : IsJson body value)
    (h' : IsJson body value') : value = value' := by
  obtain ⟨text, rfl, hparse⟩ := h
  obtain ⟨_, ⟨⟩, hparse'⟩ := h'
  exact Except.ok.inj (hparse.symm.trans hparse')

/-- What the last reply to a query says of it; there is none if nothing was asked. -/
inductive Verdict (method : String) : Option Reply → Except Error Json → Prop
  | value {status : Nat} {location body : Option String} {value : Json} :
    isSuccess status = true → IsJson body value →
    Verdict method (some (.answer status location body)) (.ok value)
  | notJson {status : Nat} {location body : Option String} {reason : String} :
    isSuccess status = true → (∀ value, ¬IsJson body value) →
    Verdict method (some (.answer status location body)) (.error (.invalidResponse method reason))
  | failed {reply : Option Reply} {reason : String} :
    (∀ status location body, reply = some (.answer status location body) →
      isSuccess status = false) →
    Verdict method reply (.error (.remoteFetch method reason))

theorem verdict_outcome (method : String) (status : Nat) (location body : Option String) :
    Verdict method (some (.answer status location body)) (outcome method status body) := by
  rw [outcome]
  by_cases hsuccess : isSuccess status = true
  · rw [if_pos hsuccess]
    cases body with
    | none => exact .notJson hsuccess nofun
    | some text =>
      dsimp only [Option.map]
      cases hparse : Json.parse text with
      | ok value => exact .value hsuccess ⟨text, rfl, hparse⟩
      | error fault =>
        refine .notJson hsuccess fun value hvalue => ?_
        obtain ⟨_, ⟨⟩, hok⟩ := hvalue
        cases hparse.symm.trans hok
  · rw [if_neg hsuccess]
    refine .failed fun status' location' body' heq => ?_
    cases heq
    exact Bool.eq_false_iff.2 hsuccess

theorem Verdict.ok_iff {method : String} {reply : Option Reply} {result : Except Error Json}
    (h : Verdict method reply result) (value : Json) :
    result = .ok value ↔ ∃ status location body, reply = some (.answer status location body) ∧
      isSuccess status = true ∧ IsJson body value := by
  cases h with
  | value hsuccess hjson =>
    constructor
    · rintro ⟨⟩
      exact ⟨_, _, _, rfl, hsuccess, hjson⟩
    · rintro ⟨_, _, _, ⟨⟩, _, hvalue⟩
      rw [hjson.unique hvalue]
  | notJson hsuccess hnone =>
    refine ⟨nofun, ?_⟩
    rintro ⟨_, _, _, ⟨⟩, _, hvalue⟩
    exact absurd hvalue (hnone value)
  | failed hfailed =>
    refine ⟨nofun, ?_⟩
    rintro ⟨_, _, _, hreply, hsuccess, _⟩
    cases hsuccess.symm.trans (hfailed _ _ _ hreply)

theorem Verdict.invalid_iff {method : String} {reply : Option Reply} {result : Except Error Json}
    (h : Verdict method reply result) :
    (∃ reason, result = .error (.invalidResponse method reason)) ↔
      ∃ status location body, reply = some (.answer status location body) ∧
        isSuccess status = true ∧ ∀ value, ¬IsJson body value := by
  cases h with
  | value hsuccess hjson =>
    refine ⟨nofun, ?_⟩
    rintro ⟨_, _, _, ⟨⟩, _, hnone⟩
    exact absurd hjson (hnone _)
  | notJson hsuccess hnone => exact ⟨fun _ => ⟨_, _, _, rfl, hsuccess, hnone⟩, fun _ => ⟨_, rfl⟩⟩
  | failed hfailed =>
    refine ⟨nofun, ?_⟩
    rintro ⟨_, _, _, hreply, hsuccess, _⟩
    cases hsuccess.symm.trans (hfailed _ _ _ hreply)

theorem Verdict.remote_iff {method : String} {reply : Option Reply} {result : Except Error Json}
    (h : Verdict method reply result) :
    (∃ reason, result = .error (.remoteFetch method reason)) ↔
      ¬∃ status location body, reply = some (.answer status location body) ∧
        isSuccess status = true := by
  cases h with
  | value hsuccess _ => exact ⟨nofun, fun hnone => absurd ⟨_, _, _, rfl, hsuccess⟩ hnone⟩
  | notJson hsuccess _ => exact ⟨nofun, fun hnone => absurd ⟨_, _, _, rfl, hsuccess⟩ hnone⟩
  | failed hfailed =>
    refine ⟨fun _ => ?_, fun _ => ⟨_, rfl⟩⟩
    rintro ⟨_, _, _, hreply, hsuccess⟩
    cases hsuccess.symm.trans (hfailed _ _ _ hreply)

/-! ## Redirects -/

theorem redirectTarget?_eq_some {place next : Reference} {status : Nat} {location : Option String}
    (h : redirectTarget? place status location = some next) :
    isRedirect status = true ∧ ∃ text, location = some text := by
  rw [redirectTarget?] at h
  obtain ⟨base, -, h⟩ := Option.bind_eq_some_iff.1 h
  by_cases hredirect : isRedirect status = true
  · rw [if_pos hredirect] at h
    obtain ⟨text, hlocation, -⟩ := Option.bind_eq_some_iff.1 h
    exact ⟨hredirect, text, hlocation⟩
  · rw [if_neg hredirect] at h
    cases h

/-- A server that sends a client elsewhere does not report success. -/
theorem isSuccess_of_isRedirect {status : Nat} (h : isRedirect status = true) :
    isSuccess status = false := by
  have hmem : status ∈ [301, 302, 303, 307, 308] := by simpa [isRedirect] using h
  simp only [List.mem_cons, List.not_mem_nil, or_false] at hmem
  rcases hmem with rfl | rfl | rfl | rfl | rfl <;> rfl

/-- A place that a client goes on to when it is sent there. -/
def IsOpen (place : Reference) : Prop :=
  ∃ url, Url.parse place.text = .ok url ∧ url.isWeb = true ∧ place.authority.isSome = true

/-- The requests from some place on, with so many redirects left, after the requests of the past,
and the result that they have. -/
inductive Trail (c : Client) (servers : Dialogue.Oracle Get Reply) (method : String) :
    Nat → Reference → List Get → List Get → Except Error Json → Prop
  | lost {left : Nat} {place : Reference} {past : List Get} {reason : String} :
    servers (past ++ [⟨place, c.userAgent⟩]) = .lost →
    Trail c servers method left place past [⟨place, c.userAgent⟩]
      (.error (.remoteFetch method reason))
  | settled {left status : Nat} {place : Reference} {past : List Get}
    {location body : Option String} :
    servers (past ++ [⟨place, c.userAgent⟩]) = .answer status location body →
    redirectTarget? place status location = none →
    Trail c servers method left place past [⟨place, c.userAgent⟩] (outcome method status body)
  | refused {left status : Nat} {place next : Reference} {past : List Get}
    {location body : Option String} {reason : String} :
    servers (past ++ [⟨place, c.userAgent⟩]) = .answer status location body →
    redirectTarget? place status location = some next → (left = 0 ∨ ¬IsOpen next) →
    Trail c servers method left place past [⟨place, c.userAgent⟩]
      (.error (.remoteFetch method reason))
  | followed {left status : Nat} {place next : Reference} {past asked : List Get}
    {location body : Option String} {result : Except Error Json} :
    servers (past ++ [⟨place, c.userAgent⟩]) = .answer status location body →
    redirectTarget? place status location = some next → IsOpen next →
    Trail c servers method left next (past ++ [⟨place, c.userAgent⟩]) asked result →
    Trail c servers method (left + 1) place past (⟨place, c.userAgent⟩ :: asked) result

variable {c : Client} {servers : Dialogue.Oracle Get Reply} {method : String}

/-- A reply ends a trail, unless it leads to another place from which the trail goes on. -/
theorem trail_settle {start : String} {left : Nat} {place : Reference} {past : List Get}
    {redirected : Reference → Url → Exchange (Except Error Json)}
    (h : ∀ status location body next url,
      servers (past ++ [⟨place, c.userAgent⟩]) = .answer status location body →
      redirectTarget? place status location = some next → Url.parse next.text = .ok url →
      ∃ asked result, Trail c servers method left place past asked result ∧
        (redirected next url).run servers (past ++ [⟨place, c.userAgent⟩]) =
          (result, past ++ asked)) :
    ∃ asked result, Trail c servers method left place past asked result ∧
      (Dialogue.ask ⟨place, c.userAgent⟩ (settle method start place redirected)).run servers past =
        (result, past ++ asked) := by
  rw [Dialogue.run]
  cases hreply : servers (past ++ [⟨place, c.userAgent⟩]) with
  | lost => exact ⟨_, _, .lost hreply, rfl⟩
  | answer status location body =>
    rw [settle]
    cases htarget : redirectTarget? place status location with
    | none => exact ⟨_, _, .settled hreply htarget, rfl⟩
    | some next =>
      dsimp only
      cases hurl : Url.parse next.text with
      | error fault =>
        have hclosed : ¬IsOpen next := by
          rintro ⟨url, hparse, -⟩
          cases hurl.symm.trans hparse
        exact ⟨_, _, .refused hreply htarget (.inr hclosed), rfl⟩
      | ok url => exact h _ _ _ _ _ hreply htarget hurl

/-- Following redirects makes a trail. -/
theorem trail_follow (c : Client) (servers : Dialogue.Oracle Get Reply) (method start : String)
    (left : Nat) (place : Reference) (past : List Get) :
    ∃ asked result, Trail c servers method left place past asked result ∧
      (c.follow method start left place).run servers past = (result, past ++ asked) := by
  induction left generalizing place past with
  | zero =>
    refine trail_settle fun status location body next url hreply htarget _ => ?_
    exact ⟨_, _, .refused hreply htarget (.inl rfl), rfl⟩
  | succ left ih =>
    refine trail_settle fun status location body next url hreply htarget hurl => ?_
    -- a place that is not open is refused for one of two reasons
    have hclosed (h : url.isWeb = false ∨ next.authority = none) : ¬IsOpen next := by
      rintro ⟨url', hparse, hweb, hauthority⟩
      cases hurl.symm.trans hparse
      rcases h with h | h
      · cases hweb.symm.trans h
      · rw [h] at hauthority
        cases hauthority
    by_cases hweb : url.isWeb = true
    · cases hauthority : next.authority with
      | none =>
        refine ⟨_, .error (failure method (.lost start)),
          .refused hreply htarget (.inr (hclosed (.inr hauthority))), ?_⟩
        simp only [hweb, Bool.not_true, Bool.false_eq_true, if_false, Option.isNone_none, if_true]
        rfl
      | some authority =>
        obtain ⟨asked, result, htrail, hrun⟩ := ih next (past ++ [⟨place, c.userAgent⟩])
        have hopen : IsOpen next := ⟨url, hurl, hweb, by rw [hauthority]; rfl⟩
        refine ⟨_, _, .followed hreply htarget hopen htrail, ?_⟩
        simp only [hweb, Bool.not_true, Bool.false_eq_true, if_false, Option.isNone_some]
        rw [hrun, List.append_assoc]
        rfl
    · have hweb : url.isWeb = false := Bool.eq_false_iff.2 hweb
      refine ⟨_, .error (failure method (.unsupported url.text)),
        .refused hreply htarget (.inr (hclosed (.inl hweb))), ?_⟩
      simp only [hweb, Bool.not_false, if_true]
      rfl

namespace Trail

variable {left : Nat} {place : Reference} {past asked : List Get} {result : Except Error Json}

/-- A trail starts at its place. -/
theorem exists_cons (h : Trail c servers method left place past asked result) :
    ∃ later, asked = ⟨place, c.userAgent⟩ :: later := by
  cases h <;> exact ⟨_, rfl⟩

/-- The last reply of a trail decides over the result. -/
theorem verdict (h : Trail c servers method left place past asked result) :
    Verdict method (some (servers (past ++ asked))) result := by
  induction h with
  | lost hreply =>
    rw [hreply]
    exact .failed nofun
  | settled hreply _ =>
    rw [hreply]
    exact verdict_outcome _ _ _ _
  | refused hreply htarget _ =>
    rw [hreply]
    refine .failed fun _ _ _ heq => ?_
    cases heq
    exact isSuccess_of_isRedirect (redirectTarget?_eq_some htarget).1
  | followed _ _ _ _ ih =>
    rw [List.append_assoc] at ih
    exact ih

/-- A request that another one follows is answered by the place of that one. -/
theorem hop (h : Trail c servers method left place past asked result) {before after : List Get}
    {g g' : Get} (hasked : asked = before ++ g :: g' :: after) :
    ∃ status location body,
      servers (past ++ before ++ [g]) = .answer status (some location) body ∧
        isRedirect status = true ∧
        redirectTarget? g.place status (some location) = some g'.place ∧ IsOpen g'.place := by
  induction h generalizing before with
  | lost _ | settled _ _ | refused _ _ _ =>
    have hlength := congrArg List.length hasked
    simp only [List.length_append, List.length_cons, List.length_nil] at hlength
    omega
  | followed hreply htarget hopen htrail ih =>
    cases before with
    | nil =>
      obtain ⟨rfl, hlater⟩ := List.cons.inj hasked
      obtain ⟨later, rfl⟩ := htrail.exists_cons
      obtain ⟨rfl, -⟩ := List.cons.inj hlater
      obtain ⟨hredirect, text, rfl⟩ := redirectTarget?_eq_some htarget
      rw [List.append_nil]
      exact ⟨_, text, _, hreply, hredirect, htarget, hopen⟩
    | cons first before =>
      obtain ⟨rfl, hlater⟩ := List.cons.inj hasked
      simpa only [List.append_assoc, List.cons_append, List.nil_append] using ih hlater

theorem eq_of_singleton {g g' : Get} {before : List Get} (h : [g] = before ++ [g']) : g = g' :=
  Option.some.inj ((congrArg List.getLast? h).trans List.getLast?_concat)

/-- A trail does not end at a reply that leads to an open place while redirects are left. -/
theorem stopped (h : Trail c servers method left place past asked result) {before : List Get}
    {g : Get} (hasked : asked = before ++ [g]) {status : Nat} {location body : Option String}
    {next : Reference}
    (hreply : servers (past ++ asked) = .answer status location body)
    (htarget : redirectTarget? g.place status location = some next) :
    asked.length = left + 1 ∨ ¬IsOpen next := by
  induction h generalizing before with
  | lost hlost => cases hlost.symm.trans hreply
  | settled hanswer hnone =>
    cases hanswer.symm.trans hreply
    cases eq_of_singleton hasked
    cases hnone.symm.trans htarget
  | refused hanswer hnext hwhy =>
    cases hanswer.symm.trans hreply
    cases eq_of_singleton hasked
    cases hnext.symm.trans htarget
    exact hwhy.imp_left fun hleft => by rw [hleft]; rfl
  | followed _ _ _ htrail ih =>
    cases before with
    | nil =>
      obtain ⟨later, rfl⟩ := htrail.exists_cons
      cases (List.cons.inj hasked).2
    | cons first before =>
      rw [List.append_cons] at hreply
      exact (ih (List.cons.inj hasked).2 hreply).imp_left fun hlength => congrArg Nat.succ hlength

end Trail

/-! ## Queries -/

/-- The last reply to some requests that come after those of the past, if there are any. -/
def lastReply? (servers : Dialogue.Oracle Get Reply) (past asked : List Get) : Option Reply :=
  if asked = [] then none else some (servers (past ++ asked))

/-- A query that can be sent: its address is one of the web, of a host that can be asked, and not
too long. -/
def IsSendable (r : Request) : Prop :=
  r.url.isWeb = true ∧ isPlain (Reference.ofUrl r.url) = true ∧
    r.url.publicText.utf8ByteSize ≤ placeLimit

/-- How the last reply decides over the result of a query. -/
structure OutcomeLaw (method : String) (reply : Option Reply) (result : Except Error Json) :
    Prop where
  /-- JSON from a server that reports success is the result. -/
  ok_iff : ∀ value, result = .ok value ↔ ∃ status location body,
    reply = some (.answer status location body) ∧ (200 ≤ status ∧ status < 300) ∧
      IsJson body value
  /-- Anything else from such a server is an invalid response. -/
  invalid_iff : (∃ reason, result = .error (.invalidResponse method reason)) ↔
    ∃ status location body, reply = some (.answer status location body) ∧
      (200 ≤ status ∧ status < 300) ∧ ∀ value, ¬IsJson body value
  /-- In every other case the request has failed. -/
  remote_iff : (∃ reason, result = .error (.remoteFetch method reason)) ↔
    ¬∃ status location body, reply = some (.answer status location body) ∧
      (200 ≤ status ∧ status < 300)
  /-- Every error is of one of these kinds and names the method. -/
  named : ∀ e, result = .error e →
    ∃ reason, e = .invalidResponse method reason ∨ e = .remoteFetch method reason
  /-- Neither an empty body is JSON, nor one that never arrives. -/
  empty_body : ∀ status location body, body = some "" ∨ body = none →
    reply = some (.answer status location body) → 200 ≤ status ∧ status < 300 →
      ∃ reason, result = .error (.invalidResponse method reason)

/-- The codes that report success. -/
theorem isSuccess_iff {status : Nat} : isSuccess status = true ↔ 200 ≤ status ∧ status < 300 := by
  rw [isSuccess, Bool.and_eq_true, decide_eq_true_iff, decide_eq_true_iff]

theorem parse_empty_ne (value : Json) : Json.parse "" ≠ .ok value := by
  intro h
  have hnone : (Json.parse "").toOption.isNone = true := by decide +kernel
  rw [h] at hnone
  cases hnone

theorem Verdict.outcomeLaw {reply : Option Reply} {result : Except Error Json}
    (h : Verdict method reply result) : OutcomeLaw method reply result where
  ok_iff value := by simpa only [isSuccess_iff] using h.ok_iff value
  invalid_iff := by simpa only [isSuccess_iff] using h.invalid_iff
  remote_iff := by simpa only [isSuccess_iff] using h.remote_iff
  named e he := by
    cases h with
    | value _ _ => cases he
    | notJson _ _ => exact ⟨_, .inl (Except.error.inj he).symm⟩
    | failed _ => exact ⟨_, .inr (Except.error.inj he).symm⟩
  empty_body status location body hbody hreply hstatus := by
    refine h.invalid_iff.2 ⟨status, location, body, hreply, isSuccess_iff.2 hstatus, ?_⟩
    rintro value ⟨text, htext, hparse⟩
    rcases hbody with rfl | rfl
    · cases htext
      exact parse_empty_ne value hparse
    · cases htext

/-- The requests that a client sends for a query, after those of the past, and its result. -/
structure FetchLaw (c : Client) (r : Request) (servers : Dialogue.Oracle Get Reply)
    (past asked : List Get) (result : Except Error Json) : Prop where
  /-- The first request, and one more for each of five redirects. -/
  length_le : asked.length ≤ 6
  outcome : OutcomeLaw r.method (lastReply? servers past asked) result
  /-- The first request is for the address of the query. -/
  first : IsSendable r → ∃ later, asked = ⟨Reference.ofUrl r.url, c.userAgent⟩ :: later
  unsent : ¬IsSendable r → asked = []
  /-- Each further request is for the location that a redirect has named. -/
  hop : ∀ before g g' after, asked = before ++ g :: g' :: after → ∃ status location body,
    servers (past ++ before ++ [g]) = .answer status (some location) body ∧
      status ∈ [301, 302, 303, 307, 308] ∧
      redirectTarget? g.place status (some location) = some g'.place ∧ IsOpen g'.place
  /-- A redirect is followed unless five have been, or its location is not of the web. -/
  stopped : ∀ before g, asked = before ++ [g] → ∀ status location body next,
    servers (past ++ asked) = .answer status location body →
      redirectTarget? g.place status location = some next → asked.length = 6 ∨ ¬IsOpen next

theorem Trail.fetchLaw {r : Request} {past asked : List Get} {result : Except Error Json}
    (hsendable : IsSendable r) (hlength : asked.length ≤ 6)
    (h : Trail c servers r.method redirectLimit (Reference.ofUrl r.url) past asked result) :
    FetchLaw c r servers past asked result where
  length_le := hlength
  outcome := by
    obtain ⟨later, hasked⟩ := h.exists_cons
    rw [lastReply?, if_neg (hasked ▸ List.cons_ne_nil _ _)]
    exact h.verdict.outcomeLaw
  first _ := h.exists_cons
  unsent hunsent := absurd hsendable hunsent
  hop before g g' after hasked := by
    obtain ⟨status, location, body, hreply, hredirect, htarget, hopen⟩ := h.hop hasked
    exact ⟨status, location, body, hreply, by simpa [isRedirect] using hredirect, htarget, hopen⟩
  stopped before g hasked status location body next hreply htarget :=
    h.stopped hasked hreply htarget

/-- A query that cannot be sent has failed. -/
theorem fetchLaw_of_unsent {r : Request} (h : ¬IsSendable r) (past : List Get) (reason : String) :
    FetchLaw c r servers past [] (.error (.remoteFetch r.method reason)) where
  length_le := Nat.zero_le 6
  outcome := Verdict.outcomeLaw (.failed nofun)
  first hsendable := absurd hsendable h
  unsent _ := rfl
  hop before g g' after hasked := by cases before <;> cases hasked
  stopped before g hasked := by cases before <;> cases hasked

theorem isSendable_iff (r : Request) :
    IsSendable r ↔ (r.url.isWeb && isPlain (Reference.ofUrl r.url) &&
      r.url.publicText.utf8ByteSize ≤ placeLimit) = true := by
  rw [IsSendable, Bool.and_eq_true, Bool.and_eq_true, decide_eq_true_iff, and_assoc]

/-- However servers answer, a query is over after six requests, and the last reply decides over its
result. -/
theorem fetch_outcome (c : Client) (r : Request) (servers : Dialogue.Oracle Get Reply)
    (past : List Get) :
    ∃ asked result, (c.fetch r).run servers past = (result, past ++ asked) ∧
      FetchLaw c r servers past asked result := by
  by_cases hsendable : IsSendable r
  · obtain ⟨asked, result, htrail, hrun⟩ := trail_follow c servers r.method r.url.publicText
      redirectLimit (Reference.ofUrl r.url) past
    have hfetch : (c.fetch r).run servers past = (result, past ++ asked) := by
      rw [fetch, if_pos ((isSendable_iff r).1 hsendable)]
      exact hrun
    have hlength := length_fetch_le c servers r past
    rw [hfetch, List.length_append] at hlength
    exact ⟨asked, result, hfetch, htrail.fetchLaw hsendable (Nat.le_of_add_le_add_left hlength)⟩
  · refine ⟨[], .error (failure r.method (.unsupported r.url.publicText)), ?_,
      fetchLaw_of_unsent hsendable past _⟩
    rw [fetch, if_neg (mt (isSendable_iff r).2 hsendable), List.append_nil]
    rfl

-- A server that sends a client in circles.
example :
    let routes : Routes := [("/a", [.answer 302 (some "a") none])]
    (Url.parse "http://h/a").toOption.map (fun url =>
      let run := (fetch ⟨"skyslot"⟩ ⟨"m", url⟩).run routes.oracle []
      (run.2.length, run.1.toOption.isNone)) = some (6, true) := by
  decide +kernel

end PostSlots.Http.Client
