import PostSlots.Post.Acquire
import PostSlots.Post.Canned
import PostSlots.Proofs.Url.Base
import PostSlots.Proofs.Url.Form

/-!
# How a record is asked for

A record takes two requests, the second of which depends on the answer to the first. Whoever
answers, and whatever names the link and the answers hold, both requests go to the place that the
base determines, and the query of each holds one pair.

Results:
1. `Request.parse_agree`: a base is a base for both methods or for neither.
2. `Request.exists_query`: the request of a method holds its one parameter.
3. `Post.run_acquire`: the questions and the result, by what is answered.
4. `Post.acquire_protocol`: the protocol as a whole.
-/

namespace PostSlots

open Url (Agree BothBare IsPlain IsVisible)

namespace Request

/-- Names that change nothing about a base when they are put behind it. -/
def IsMethod (name : String) : Prop :=
  IsPlain name.toList ∧ IsVisible name.toList

theorem isMethod_getProfile : IsMethod getProfile :=
  ⟨.of_all (by decide), .of_all (by decide)⟩

theorem isMethod_getPosts : IsMethod getPosts :=
  ⟨.of_all (by decide), .of_all (by decide)⟩

theorem isMethod_of_mem {method : String}
    (h : method ∈ ["app.bsky.actor.getProfile", "app.bsky.feed.getPosts"]) : IsMethod method := by
  rcases List.mem_cons.1 h with rfl | h
  · exact isMethod_getProfile
  · rcases List.mem_cons.1 h with rfl | h
    · exact isMethod_getPosts
    · cases h

/-- Where a method is found below a base. -/
def place (base method : String) : String :=
  base ++ "/xrpc/" ++ method

theorem toList_place (base method : String) :
    (place base method).toList =
      base.toList ++ '/' :: 'x' :: ['r', 'p', 'c'] ++ '/' :: method.toList := by
  rw [place, String.toList_append, String.toList_append]
  simp

theorem isVisible_below {name : String} (hname : IsMethod name) :
    IsVisible ('x' :: ['r', 'p', 'c'] ++ '/' :: name.toList) := by
  have hsegment : IsVisible ('x' :: ['r', 'p', 'c']) := .of_all (by decide)
  intro c hc
  rcases List.mem_append.1 hc with hc | hc
  · exact hsegment c hc
  · rcases List.mem_cons.1 hc with rfl | hc
    · decide
    · exact hname.2 c hc

/-- A base is a base for both methods or for neither. -/
theorem parse_agree {base m n : String} (hbase : IsPlain base.toList) (hm : IsMethod m)
    (hn : IsMethod n) : Agree BothBare (Url.parse (place base m)) (Url.parse (place base n)) := by
  have hword : IsPlain ('x' :: ['r', 'p', 'c']) := .of_all (by decide)
  exact Url.parse_agree (toList_place base m) (toList_place base n) hbase (by decide) hword hm.1
    hn.1 (isVisible_below hm) (isVisible_below hn)

/-- A request for a method below a base whose query holds one pair and nothing else. -/
structure IsQuery (base method : String) (pair : String × String) (q : Request) : Prop where
  method_eq : q.method = method
  place_eq : ∃ url, Url.parse (place base method) = .ok url ∧ q.url.scheme = url.scheme ∧
    q.url.authority = url.authority ∧ q.url.path = url.path
  query : ∃ text, q.url.query = some text ∧ Url.Query.decodePairs? text = some [pair]
  fragment : q.url.fragment = none

/-- The request of a method holds its one parameter, whatever it is. -/
theorem isQuery_withPair {base method : String} {url : Url}
    (h : Url.parse (place base method) = .ok url) (hbare : url.IsBare) (pair : String × String) :
    IsQuery base method pair ⟨method, url.withPair pair⟩ := by
  obtain ⟨hquery, hfragment⟩ := hbare
  have htext : (url.withPair pair).query = some (String.ofList (Url.Query.encodePair pair)) := by
    simp only [Url.withPair, hquery, List.nil_append]
  exact ⟨rfl, ⟨url, h, rfl, rfl, rfl⟩, ⟨_, htext, Url.Query.decodePairs?_encodePair pair⟩,
    hfragment⟩

/-- Where one method can be asked, so can every other. -/
theorem exists_query {base m n : String} (hbase : IsPlain base.toList) (hm : IsMethod m)
    (hn : IsMethod n) {url : Url} (h : Url.parse (place base m) = .ok url)
    (pair : String × String) :
    ∃ q, ofParameter base n pair = .ok q ∧ IsQuery base n pair q := by
  have hagree := parse_agree hbase hm hn
  rw [h] at hagree
  cases hn' : Url.parse (place base n) with
  | error fault => rw [hn'] at hagree; cases hagree
  | ok url' =>
    rw [hn'] at hagree
    cases hagree with
    | ok hbare =>
      refine ⟨⟨n, url'.withPair pair⟩, ?_, isQuery_withPair hn' hbare.2 pair⟩
      change Url.parse (base ++ "/xrpc/" ++ n) = .ok url' at hn'
      rw [ofParameter, hn']

/-- Where one method cannot be asked, the settings are to blame, whatever is asked. -/
theorem exists_config {base m n : String} (hbase : IsPlain base.toList) (hm : IsMethod m)
    (hn : IsMethod n) {fault : Url.Fault} (h : Url.parse (place base m) = .error fault)
    (pair : String × String) :
    ∃ reason, ofParameter base n pair = .error (.config reason) := by
  have hagree := parse_agree hbase hm hn
  rw [h] at hagree
  cases hn' : Url.parse (place base n) with
  | ok url => rw [hn'] at hagree; cases hagree
  | error fault' =>
    change Url.parse (base ++ "/xrpc/" ++ n) = .error fault' at hn'
    rw [ofParameter, hn']
    exact ⟨_, rfl⟩

end Request

namespace Post

/-- What comes of the answer to the second request. -/
def recordOf (fields : LinkFields) (answer : Except Error Json) : Except Error Record := do
  let post ← firstOf (← answer)
  pure (Record.merge post fields)

/-- A question is answered before anything that depends on the answer. -/
theorem run_send_bind {ρ : Type} (oracle : Dialogue.Oracle Request (Except Error Json))
    (question : Except Error Request) (next : Json → ExceptT Error Acquiring ρ)
    (asked : List Request) :
    (ExceptT.run ((show ExceptT Error Acquiring Json from Acquiring.send question) >>= next)).run
        oracle asked =
      match question with
      | .error e => (.error e, asked)
      | .ok q =>
        match oracle (asked ++ [q]) with
        | .error e => (.error e, asked ++ [q])
        | .ok answer => (next answer).run.run oracle (asked ++ [q]) := by
  cases question with
  | error e => rfl
  | ok q =>
    refine (Dialogue.run_bind oracle (.ask q .done) _ asked).trans ?_
    dsimp only [Dialogue.run]
    cases oracle (asked ++ [q]) with
    | error e => rfl
    | ok answer => rfl

theorem run_acquire (apiBase : Option String) (link : PostLink)
    (oracle : Dialogue.Oracle Request (Except Error Json)) :
    (acquire apiBase link).run oracle [] =
      match Request.ofParameter (Request.baseFor apiBase link) Request.getProfile
        ("actor", link.fields.username.getD "undefined") with
      | .error e => (.error e, [])
      | .ok first =>
        match oracle [first] with
        | .error e => (.error e, [first])
        | .ok profile =>
          match Request.ofParameter (Request.baseFor apiBase link) Request.getPosts
            ("uris", Request.postUri (didOf profile) (link.fields.postId.getD "undefined")) with
          | .error e => (.error e, [first])
          | .ok second => (recordOf link.fields (oracle [first, second]), [first, second]) := by
  rw [acquire]
  dsimp only [SlotValue.missing]
  rw [run_send_bind]
  cases Request.ofParameter (Request.baseFor apiBase link) Request.getProfile
    ("actor", link.fields.username.getD "undefined") with
  | error e => rfl
  | ok first =>
    dsimp only [List.nil_append]
    cases oracle [first] with
    | error e => rfl
    | ok profile =>
      dsimp only
      refine (run_send_bind oracle _ _ [first]).trans ?_
      cases Request.ofParameter (Request.baseFor apiBase link) Request.getPosts
        ("uris", Request.postUri (didOf profile) (link.fields.postId.getD "undefined")) with
      | error e => rfl
      | ok second =>
        dsimp only [List.cons_append, List.nil_append]
        cases oracle [first, second] with
        | error e => rfl
        | ok body =>
          dsimp only
          change _ = ((firstOf body).bind fun post => .ok (Record.merge post link.fields),
            [first, second])
          cases firstOf body with
          | error e => rfl
          | ok post => rfl

theorem postUri_didOf (profile : Json) (postId : String) :
    Request.postUri (didOf profile) postId =
      "at://" ++ (stringField? "did" profile).getD "undefined" ++
        "/app.bsky.feed.post/" ++ postId := by
  have hmiddle : "/" ++ Request.postCollection ++ "/" = "/app.bsky.feed.post/" := by decide
  rw [Request.postUri, ← hmiddle, didOf]
  simp only [SlotValue.missing, String.append_assoc]

/-- A record comes of an answer that lists posts. -/
theorem recordOf_eq_ok {fields : LinkFields} {answer : Except Error Json} {record : Record} :
    recordOf fields answer = .ok record ↔
      ∃ body posts, answer = .ok (.object body) ∧ body.lookup "posts" = some (.array posts) ∧
        record = Record.merge posts.head? fields := by
  constructor
  · intro h
    cases answer with
    | error e => cases h
    | ok value =>
      change ((firstOf value).bind fun post => .ok (Record.merge post fields)) = .ok record at h
      unfold firstOf at h
      split at h
      · next body =>
        split at h
        · next posts hposts =>
          cases h
          exact ⟨body, posts, rfl, hposts, rfl⟩
        · cases h
      · cases h
  · rintro ⟨body, posts, rfl, hposts, rfl⟩
    have hfirst : firstOf (.object body) = .ok posts.head? := by
      rw [firstOf, hposts]
    change ((firstOf (.object body)).bind fun post => .ok (Record.merge post fields)) = _
    rw [hfirst]
    rfl

/-- Two requests at most, the second by the answer to the first, both where the base leads, each
with its one pair; and a record if and only if both are answered and the second answer lists
posts. -/
theorem acquire_protocol (apiBase : Option String) (link : PostLink)
    (oracle : Dialogue.Oracle Request (Except Error Json))
    (hbase : ∀ c ∈ (Request.baseFor apiBase link).toList, c ≠ '?' ∧ c ≠ '#') :
    let base := Request.baseFor apiBase link
    let run := (acquire apiBase link).run oracle []
    ∀ method ∈ ["app.bsky.actor.getProfile", "app.bsky.feed.getPosts"],
      (∀ fault, Url.parse (base ++ "/xrpc/" ++ method) = .error fault →
        ∃ reason, run = (.error (.config reason), [])) ∧
      ∀ url, Url.parse (base ++ "/xrpc/" ++ method) = .ok url →
        ∃ first, Request.IsQuery base "app.bsky.actor.getProfile"
            ("actor", link.fields.username.getD "undefined") first ∧
          (∀ e, oracle [first] = .error e → run = (.error e, [first])) ∧
          ∀ profile, oracle [first] = .ok profile →
            ∃ second, Request.IsQuery base "app.bsky.feed.getPosts"
                ("uris", "at://" ++ (stringField? "did" profile).getD "undefined" ++
                  "/app.bsky.feed.post/" ++ link.fields.postId.getD "undefined") second ∧
              run.2 = [first, second] ∧
              (∀ e, oracle [first, second] = .error e → run.1 = .error e) ∧
              ∀ record, run.1 = .ok record ↔
                ∃ body posts, oracle [first, second] = .ok (.object body) ∧
                  body.lookup "posts" = some (.array posts) ∧
                  record = Record.merge posts.head? link.fields := by
  intro base run method hmethod
  have hplain : IsPlain base.toList := .of_ne hbase
  have hname := Request.isMethod_of_mem hmethod
  have hrun := run_acquire apiBase link oracle
  refine ⟨fun fault hfault => ?_, fun url hurl => ?_⟩
  · obtain ⟨reason, hfirst⟩ := Request.exists_config hplain hname Request.isMethod_getProfile hfault
      ("actor", link.fields.username.getD "undefined")
    rw [hfirst] at hrun
    exact ⟨reason, hrun⟩
  · obtain ⟨first, hfirst, hisFirst⟩ := Request.exists_query hplain hname
      Request.isMethod_getProfile hurl ("actor", link.fields.username.getD "undefined")
    rw [hfirst] at hrun
    -- the first answer decides whether there is a second question
    refine ⟨first, hisFirst, fun e he => ?_, fun profile hprofile => ?_⟩
    · simp only [he] at hrun
      exact hrun
    · obtain ⟨second, hsecond, hisSecond⟩ := Request.exists_query hplain hname
        Request.isMethod_getPosts hurl
        ("uris", Request.postUri (didOf profile) (link.fields.postId.getD "undefined"))
      rw [postUri_didOf] at hisSecond
      simp only [hprofile] at hrun
      rw [hsecond] at hrun
      have hboth : run = (recordOf link.fields (oracle [first, second]), [first, second]) := hrun
      rw [hboth]
      refine ⟨second, hisSecond, rfl, fun e he => ?_, fun record => recordOf_eq_ok⟩
      rw [he]
      rfl

/-- An id with separators of queries in it asks for no second post. -/
theorem acquire_protocol_separators :
    ∃ (link : PostLink) (oracle : Dialogue.Oracle Request (Except Error Json)),
      PostLink.parse "https://bsky.app/profile/a.test/post/1" = .ok link ∧
      (∀ c ∈ (Request.baseFor (some "https://api.test/") link).toList, c ≠ '?' ∧ c ≠ '#') ∧
      ∃ first second record,
        (acquire (some "https://api.test/") link).run oracle [] = (.ok record, [first, second]) ∧
        Request.IsQuery (Request.baseFor (some "https://api.test/") link) "app.bsky.feed.getPosts"
          ("uris", "at://did:1&uris=#/app.bsky.feed.post/1") second := by
  have hlink : PostLink.parse "https://bsky.app/profile/a.test/post/1" =
      .ok ⟨⟨"https", some ⟨"", "", some (.name "bsky.app"), none⟩,
        .segments ["profile", "a.test", "post", "1"], none, none⟩⟩ := by
    decide +kernel
  have hchars : (Request.baseFor (some "https://api.test/") ⟨⟨"https",
      some ⟨"", "", some (.name "bsky.app"), none⟩, .segments ["profile", "a.test", "post", "1"],
      none, none⟩⟩).toList.all (fun c => c != '?' && c != '#') = true := by
    decide +kernel
  have hbase := fun c hc => by simpa using List.all_eq_true.1 hchars c hc
  obtain ⟨first, hfirst, _, hprofile⟩ := (acquire_protocol _ _ (Request.canned
    [(Request.getProfile, .object [("did", .string "did:1&uris=#")]),
      (Request.getPosts, .object [("posts", .array [])])]) hbase _ List.mem_cons_self).2
    ⟨"https", some ⟨"", "", some (.name "api.test"), none⟩,
      .segments ["xrpc", "app.bsky.actor.getProfile"], none, none⟩ (by decide +kernel)
  obtain ⟨second, hsecond, hasked, _, hrecord⟩ := hprofile
    (.object [("did", .string "did:1&uris=#")]) (congrArg (Request.cannedAnswer _) hfirst.method_eq)
  have hanswered := (hrecord _).2 ⟨[("posts", .array [])], [],
    congrArg (Request.cannedAnswer _) hsecond.method_eq, rfl, rfl⟩
  exact ⟨_, _, hlink, hbase, first, second, _, Prod.ext hanswered hasked, hsecond⟩

end Post

end PostSlots
