import Mathlib.Logic.ExistsUnique
import PostSlots.Template.Builtin
import PostSlots.Template.File

/-!
# The first registration stays

Templates come into a registry one at a time: from a caller, from the program, or out of a file,
which is worked through up to its first bad id. What a registry holds after any number of such
operations, and what each of them has answered, follows from the sequence of single attempts alone:
the first attempt with a good id wins. Several callers whose registrations are interleaved make one
such sequence.

Results:
1. `Registry.Reflects.attempt`: what one attempt does to a registry that reflects earlier ones.
2. `Registry.Reflects.attempts`: the same for attempts one after the other.
3. `Registry.perform_eq`: an operation consists of its attempts, and answers with the ids that
   they have added.
4. `Registry.first_registration_wins`: the law for a whole run from the empty registry.
-/

namespace PostSlots

/-- An id that templates can be registered under. -/
def TemplateName.IsId (id : String) : Prop :=
  checkId id = .ok ()

open TemplateName (IsId)

instance (id : String) : Decidable (IsId id) :=
  match h : TemplateName.checkId id with
  | .ok () => isTrue h
  | .error _ => isFalse (by simp [IsId, h])

namespace Registry

/-- One attempt to register a template, which changes nothing if the template is refused. -/
def attempt (r : Registry) (t : Template) : Except Error Bool × Registry :=
  match r.register t with
  | .ok (isNew, r) => (.ok isNew, r)
  | .error e => (.error e, r)

/-- Attempts one after the other, with their answers. -/
def attempts (r : Registry) : List Template → List (Except Error Bool) × Registry
  | [] => ([], r)
  | t :: ts =>
    let (answer, r) := r.attempt t
    let (answers, r) := r.attempts ts
    (answer :: answers, r)

/-! ## Operations -/

/-- What can be done to fill a registry. -/
inductive Operation where
  | register (t : Template)
  | builtin
  | load (disk : Disk) (path : String)

/-- Performs an operation, which answers with the ids that it has added. -/
def perform (r : Registry) : Operation → Except Error (List String) × Registry
  | .register t =>
    let (answer, r) := r.attempt t
    (answer.map fun isNew => if isNew then [t.id] else [], r)
  | .builtin =>
    let (answer, r) := r.attempt Template.post
    (answer.map fun isNew => if isNew then [Template.post.id] else [], r)
  | .load disk path => r.loadFile disk path

/-- Performs operations one after the other. -/
def performAll (r : Registry) : List Operation → List (Except Error (List String)) × Registry
  | [] => ([], r)
  | op :: ops =>
    let (answer, r) := r.perform op
    let (answers, r) := r.performAll ops
    (answer :: answers, r)

namespace Operation

/-- Templates up to the first one with a bad id, which is the last to be attempted. -/
def upToBad : List Template → List Template
  | [] => []
  | t :: ts => if IsId t.id then t :: upToBad ts else [t]

/-- The templates that an operation has to offer. -/
def offered : Operation → Except Error (List Template)
  | register t => .ok [t]
  | builtin => .ok [Template.post]
  | load disk path =>
    match disk path with
    | .error fault => .error (.io fault.text)
    | .ok text => Template.parseFrom path text

/-- The templates that an operation attempts to register. -/
def attempted (op : Operation) : List Template :=
  match op.offered with
  | .error _ => []
  | .ok ts => upToBad ts

/-- The ids of the templates that were added, or the first refusal. -/
def addedIds : List Template → List (Except Error Bool) → Except Error (List String)
  | t :: ts, answer :: answers => do
    let isNew ← answer
    let ids ← addedIds ts answers
    pure (if isNew then t.id :: ids else ids)
  | _, _ => .ok []

/-- The answer of an operation by the answers of its attempts. -/
def answerOf (op : Operation) (answers : List (Except Error Bool)) : Except Error (List String) := do
  addedIds (upToBad (← op.offered)) answers

/-- The answers of operations by the answers of all their attempts. -/
def answersOf : List Operation → List (Except Error Bool) → List (Except Error (List String))
  | [], _ => []
  | op :: ops, answers =>
    op.answerOf (answers.take op.attempted.length) ::
      answersOf ops (answers.drop op.attempted.length)

end Operation

/-! ## Attempts -/

theorem exists_error_of_not_isId {id : String} (h : ¬IsId id) :
    ∃ e, TemplateName.checkId id = .error e := by
  cases hid : TemplateName.checkId id with
  | error e => exact ⟨e, rfl⟩
  | ok _ => exact absurd hid h

theorem register_of_bad {t : Template} {e : Error} (h : TemplateName.checkId t.id = .error e)
    (r : Registry) : r.register t = .error e := by
  rw [register, h]
  rfl

theorem register_of_isId {t : Template} (h : IsId t.id) (r : Registry) :
    r.register t =
      .ok (if r.contains t.id then (false, r) else (true, ⟨r.templates.insert t.id t⟩)) := by
  rw [register, show TemplateName.checkId t.id = .ok () from h]
  show (if r.contains t.id then Except.ok (false, r) else .ok (true, _)) = _
  split <;> rfl

theorem attempt_of_bad {t : Template} {e : Error} (h : TemplateName.checkId t.id = .error e)
    (r : Registry) : r.attempt t = (.error e, r) := by
  rw [attempt, register_of_bad h]

theorem attempt_of_isId {t : Template} (h : IsId t.id) (r : Registry) :
    r.attempt t =
      if r.contains t.id then (.ok false, r) else (.ok true, ⟨r.templates.insert t.id t⟩) := by
  rw [attempt, register_of_isId h]
  cases r.contains t.id <;> rfl

/-- After an attempt with a good id there is a template under it. -/
theorem exists_get?_attempt (r : Registry) {t : Template} (h : TemplateName.IsId t.id) :
    ∃ u, (r.attempt t).2.get? t.id = some u := by
  rw [attempt_of_isId h]
  cases hcontains : r.contains t.id with
  | true => exact (FieldMap.contains_iff _ _).1 hcontains
  | false => exact ⟨t, FieldMap.get?_insert_self _ _ _⟩

theorem attempts_cons (r : Registry) (t : Template) (ts : List Template) :
    r.attempts (t :: ts) =
      ((r.attempt t).1 :: ((r.attempt t).2.attempts ts).1, ((r.attempt t).2.attempts ts).2) :=
  rfl

/-- The first of some templates that has a given id. -/
def firstWith (ts : List Template) (id : String) : Option Template :=
  ts.find? fun t => t.id = id

theorem firstWith_append (ts : List Template) (t : Template) (id : String) :
    firstWith (ts ++ [t]) id = (firstWith ts id).or (if t.id = id then some t else none) := by
  rw [firstWith, List.find?_append]
  by_cases h : t.id = id <;> simp [firstWith, h]

theorem firstWith_eq_none {ts : List Template} {id : String} :
    firstWith ts id = none ↔ ∀ t ∈ ts, t.id ≠ id := by
  simp [firstWith, List.find?_eq_none]

/-- What an attempt answers that follows on earlier ones. -/
def answerAfter (earlier : List Template) (t : Template) : Except Error Bool :=
  (TemplateName.checkId t.id).map fun _ => decide (∀ u ∈ earlier, u.id ≠ t.id)

theorem answerAfter_of_isId {t : Template} (h : IsId t.id) (earlier : List Template) :
    answerAfter earlier t = .ok (decide (∀ u ∈ earlier, u.id ≠ t.id)) := by
  rw [answerAfter, show TemplateName.checkId t.id = .ok () from h]
  rfl

/-- A registry holds what attempts leave: under each good id the first template attempted. -/
def Reflects (r : Registry) (made : List Template) : Prop :=
  ∀ id, r.get? id = if IsId id then firstWith made id else none

theorem reflects_empty : Registry.empty.Reflects [] := by
  intro id
  simp [empty, get?, firstWith]

variable {r : Registry} {made : List Template}

theorem Reflects.contains_iff (h : r.Reflects made) {id : String} (hid : IsId id) :
    r.contains id = false ↔ firstWith made id = none := by
  have hget : r.get? id = firstWith made id := by rw [h id, if_pos hid]
  rw [← hget]
  exact Option.isSome_eq_false_iff.trans Option.isNone_iff_eq_none

/-- An attempt is added to those that a registry reflects, and answers by them. -/
theorem Reflects.attempt (h : r.Reflects made) (t : Template) :
    (r.attempt t).2.Reflects (made ++ [t]) ∧ (r.attempt t).1 = answerAfter made t := by
  by_cases hid : IsId t.id
  · rw [attempt_of_isId hid, answerAfter_of_isId hid]
    cases hcontains : r.contains t.id with
    | true =>
      -- an earlier template keeps the id
      have hfound : firstWith made t.id ≠ none := fun hnone => by
        rw [(h.contains_iff hid).2 hnone] at hcontains
        cases hcontains
      refine ⟨fun id => ?_, by simpa [firstWith_eq_none] using hfound⟩
      rw [if_pos rfl, h id, firstWith_append]
      by_cases hname : t.id = id
      · subst hname
        rw [Option.or_of_isSome (Option.isSome_iff_ne_none.2 hfound)]
      · rw [if_neg hname, Option.or_none]
    | false =>
      have hnone : firstWith made t.id = none := (h.contains_iff hid).1 hcontains
      refine ⟨fun id => ?_, by simpa using firstWith_eq_none.1 hnone⟩
      rw [firstWith_append]
      show (r.templates.insert t.id t).get? id = _
      rw [FieldMap.get?_insert]
      by_cases hname : id = t.id
      · subst hname
        rw [if_pos rfl, if_pos hid, if_pos rfl, hnone]
        rfl
      · rw [if_neg hname, if_neg (Ne.symm hname), Option.or_none]
        exact h id
  · obtain ⟨e, he⟩ := exists_error_of_not_isId hid
    rw [attempt_of_bad he]
    refine ⟨fun id => ?_, by rw [answerAfter, he]; rfl⟩
    rw [h id, firstWith_append]
    by_cases hname : t.id = id
    · rw [← hname, if_neg hid, if_neg hid]
    · rw [if_neg hname, Option.or_none]

/-- Attempts one after the other are added to those that a registry reflects, and each answers by
all before it. -/
theorem Reflects.attempts (h : r.Reflects made) (ts : List Template) :
    (r.attempts ts).2.Reflects (made ++ ts) ∧
      ∀ before t after, ts = before ++ t :: after →
        (r.attempts ts).1[before.length]? = some (answerAfter (made ++ before) t) := by
  induction ts generalizing r made with
  | nil =>
    refine ⟨by rwa [List.append_nil], fun before t after hts => ?_⟩
    exact absurd hts.symm (by simp)
  | cons u us ih =>
    obtain ⟨hstep, hanswer⟩ := h.attempt u
    obtain ⟨hrun, hanswers⟩ := ih hstep
    rw [List.append_assoc, List.singleton_append] at hrun
    refine ⟨hrun, fun before t after hts => ?_⟩
    cases before with
    | nil =>
      obtain ⟨rfl, rfl⟩ := List.cons.inj hts
      rw [List.append_nil, ← hanswer]
      rfl
    | cons b before =>
      obtain ⟨rfl, hus⟩ := List.cons.inj hts
      have hat := hanswers before t after hus
      rw [List.append_assoc, List.singleton_append] at hat
      exact hat

theorem length_attempts (r : Registry) (ts : List Template) :
    (r.attempts ts).1.length = ts.length := by
  induction ts generalizing r with
  | nil => rfl
  | cons t ts ih => exact congrArg (· + 1) (ih _)

theorem attempts_append (r : Registry) (ts us : List Template) :
    r.attempts (ts ++ us) =
      ((r.attempts ts).1 ++ ((r.attempts ts).2.attempts us).1, ((r.attempts ts).2.attempts us).2) := by
  induction ts generalizing r with
  | nil => rfl
  | cons t ts ih => rw [List.cons_append, attempts_cons, ih, attempts_cons, List.cons_append]

/-! ## Operations by their attempts -/

open Operation (upToBad addedIds answersOf)

/-- Registering a list of templates is to attempt them up to the first bad one. -/
theorem registerAll_eq (r : Registry) (ts : List Template) :
    r.registerAll ts =
      (addedIds (upToBad ts) (r.attempts (upToBad ts)).1, (r.attempts (upToBad ts)).2) := by
  induction ts generalizing r with
  | nil => rfl
  | cons t ts ih =>
    rw [registerAll, upToBad]
    by_cases hid : IsId t.id
    · rw [if_pos hid, register_of_isId hid, attempts_cons, attempt_of_isId hid]
      dsimp only
      rw [ih]
      split <;> rfl
    · obtain ⟨e, he⟩ := exists_error_of_not_isId hid
      rw [if_neg hid, register_of_bad he, attempts_cons, attempt_of_bad he]
      rfl

theorem upToBad_singleton (t : Template) : upToBad [t] = [t] := by
  rw [upToBad]
  split <;> rfl

/-- An operation that offers one template makes one attempt. -/
theorem single_eq {op : Operation} {t : Template} (h : op.offered = .ok [t]) (r : Registry) :
    (op.answerOf (r.attempts op.attempted).1, (r.attempts op.attempted).2) =
      ((r.attempt t).1.map (fun isNew => if isNew then [t.id] else []), (r.attempt t).2) := by
  have hattempted : op.attempted = [t] := by rw [Operation.attempted, h]; exact upToBad_singleton t
  have hanswer (answer : Except Error Bool) : op.answerOf [answer] =
      answer.map fun isNew => if isNew then [t.id] else [] := by
    rw [Operation.answerOf, h]
    show addedIds (upToBad [t]) [answer] = _
    rw [upToBad_singleton]
    cases answer <;> rfl
  rw [hattempted, attempts_cons, ← hanswer]
  rfl

/-- An operation consists of its attempts. -/
theorem perform_eq (r : Registry) (op : Operation) :
    r.perform op = (op.answerOf (r.attempts op.attempted).1, (r.attempts op.attempted).2) := by
  cases op with
  | register t => exact (single_eq rfl r).symm
  | builtin => exact (single_eq rfl r).symm
  | load disk path =>
    rw [perform, loadFile, Operation.attempted, Operation.answerOf, Operation.offered]
    cases disk path with
    | error fault => rfl
    | ok text =>
      dsimp only
      cases Template.parseFrom path text with
      | error e => rfl
      | ok ts => exact registerAll_eq r ts

/-- Operations one after the other consist of all their attempts in one sequence. -/
theorem performAll_eq (r : Registry) (ops : List Operation) :
    r.performAll ops =
      (answersOf ops (r.attempts (ops.flatMap Operation.attempted)).1,
        (r.attempts (ops.flatMap Operation.attempted)).2) := by
  induction ops generalizing r with
  | nil => rfl
  | cons op ops ih =>
    have hlength := r.length_attempts op.attempted
    rw [performAll, perform_eq]
    dsimp only
    rw [ih, List.flatMap_cons, attempts_append, answersOf, List.take_left' hlength,
      List.drop_left' hlength]

/-! ## The law -/

/-- What attempts from the empty registry come to: their answers, and the registry they leave. -/
structure FirstWins (made : List Template) (answers : List (Except Error Bool)) (r : Registry) :
    Prop where
  /-- A registry gives out the first template that was attempted under a good id. -/
  get?_iff : ∀ id t, r.get? id = some t ↔ IsId id ∧ t.id = id ∧
    ∃ before after, made = before ++ t :: after ∧ ∀ u ∈ before, u.id ≠ id
  contains_iff : ∀ id, r.contains id = true ↔ ∃ t, r.get? id = some t
  mem_ids_iff : ∀ id, id ∈ r.ids ↔ IsId id ∧ ∃ t ∈ made, t.id = id
  ids_ascending : r.ids.Pairwise (· < ·)
  size_eq : r.size = r.ids.length
  isEmpty_iff : r.isEmpty = true ↔ r.ids = []
  /-- The first attempt under a good id, and no other, is told that its template is new. -/
  answer_of_isId : ∀ before t after, made = before ++ t :: after → IsId t.id →
    answers[before.length]? = some (.ok (decide (∀ u ∈ before, u.id ≠ t.id)))
  existsUnique_new : ∀ id, IsId id → (∃ t ∈ made, t.id = id) →
    ∃! i : Nat, (∃ t : Template, made[i]? = some t ∧ t.id = id) ∧
      answers[i]? = some (Except.ok true)
  /-- An attempt under a bad id is refused and changes nothing. -/
  refused : ∀ before t after, made = before ++ t :: after → ¬IsId t.id →
    (∃ e, answers[before.length]? = some (.error e)) ∧
      (Registry.empty.attempts (before ++ [t])).2 = (Registry.empty.attempts before).2

theorem firstWith_eq_some {ts : List Template} {id : String} {t : Template} :
    firstWith ts id = some t ↔
      t.id = id ∧ ∃ before after, ts = before ++ t :: after ∧ ∀ u ∈ before, u.id ≠ id := by
  simp [firstWith, List.find?_eq_some_iff_append]

theorem Reflects.get?_iff (h : r.Reflects made) (id : String) (t : Template) :
    r.get? id = some t ↔ IsId id ∧ t.id = id ∧
      ∃ before after, made = before ++ t :: after ∧ ∀ u ∈ before, u.id ≠ id := by
  rw [h id]
  by_cases hid : IsId id
  · rw [if_pos hid, firstWith_eq_some, and_iff_right hid]
  · rw [if_neg hid]
    exact ⟨nofun, fun h => absurd h.1 hid⟩

theorem Reflects.mem_ids_iff (h : r.Reflects made) (id : String) :
    id ∈ r.ids ↔ IsId id ∧ ∃ t ∈ made, t.id = id := by
  show id ∈ r.templates.keys ↔ _
  rw [FieldMap.mem_keys_iff]
  show (∃ t, r.get? id = some t) ↔ _
  rw [h id]
  by_cases hid : IsId id
  · rw [if_pos hid, and_iff_right hid, ← Option.isSome_iff_exists, firstWith, List.find?_isSome]
    simp
  · rw [if_neg hid]
    exact ⟨nofun, fun h => absurd h.1 hid⟩

/-- Of two attempts that were both told that their templates are new, the ids differ. -/
theorem eq_of_new {answers : List (Except Error Bool)} {i j : Nat} {t u : Template}
    (hanswers : ∀ before t after, made = before ++ t :: after → IsId t.id →
      answers[before.length]? = some (.ok (decide (∀ u ∈ before, u.id ≠ t.id))))
    (hid : IsId t.id) (hsame : u.id = t.id) (ht : made[i]? = some t) (hu : made[j]? = some u)
    (hnew : answers[i]? = some (.ok true)) : i ≤ j := by
  obtain ⟨hi, rfl⟩ := List.getElem?_eq_some_iff.1 ht
  have hsplit : made = made.take i ++ made[i] :: made.drop (i + 1) := by
    rw [← List.drop_eq_getElem_cons hi, List.take_append_drop]
  have hanswer := hanswers _ _ _ hsplit hid
  rw [List.length_take_of_le (Nat.le_of_lt hi), hnew] at hanswer
  have hfirst : ∀ v ∈ made.take i, v.id ≠ made[i].id := by simpa using hanswer
  refine Nat.le_of_not_lt fun hlt => ?_
  exact hfirst u (List.mem_of_getElem? ((List.getElem?_take_of_lt hlt).trans hu)) hsame

theorem firstWins_attempts (made : List Template) :
    FirstWins made (Registry.empty.attempts made).1 (Registry.empty.attempts made).2 := by
  obtain ⟨hreflects, hanswers⟩ := reflects_empty.attempts made
  rw [List.nil_append] at hreflects
  have hgood : ∀ before t after, made = before ++ t :: after → IsId t.id →
      (Registry.empty.attempts made).1[before.length]? =
        some (.ok (decide (∀ u ∈ before, u.id ≠ t.id))) := by
    intro before t after hmade hid
    rw [hanswers before t after hmade, List.nil_append, answerAfter_of_isId hid]
  refine ⟨hreflects.get?_iff, fun id => FieldMap.contains_iff _ id, hreflects.mem_ids_iff,
    FieldMap.keys_ascending _, FieldMap.size_eq _, FieldMap.isEmpty_iff _, hgood, ?_, ?_⟩
  · intro id hid hattempted
    obtain ⟨t, ht⟩ : ∃ t, firstWith made id = some t := by
      rw [← Option.isSome_iff_exists, firstWith, List.find?_isSome]
      simpa using hattempted
    obtain ⟨rfl, before, after, hmade, hfirst⟩ := firstWith_eq_some.1 ht
    have hplace : made[before.length]? = some t := by rw [hmade]; simp
    have hnew : (Registry.empty.attempts made).1[before.length]? = some (.ok true) := by
      rw [hgood before t after hmade hid, decide_eq_true hfirst]
    refine ⟨before.length, ⟨⟨t, hplace, rfl⟩, hnew⟩, ?_⟩
    rintro j ⟨⟨u, hu, hsame⟩, hnew'⟩
    refine Nat.le_antisymm ?_ (eq_of_new hgood hid hsame hplace hu hnew)
    exact eq_of_new hgood (hsame ▸ hid) hsame.symm hu hplace hnew'
  · intro before t after hmade hbad
    obtain ⟨e, he⟩ := exists_error_of_not_isId hbad
    refine ⟨⟨e, ?_⟩, ?_⟩
    · rw [hanswers before t after hmade, answerAfter, he]
      rfl
    · rw [attempts_append, attempts_cons, attempt_of_bad he]
      rfl

/-- Operations on the empty registry are attempts one after the other, and of all attempts under a
good id the first one wins. -/
theorem first_registration_wins (ops : List Operation) :
    let made := ops.flatMap Operation.attempted
    let run := Registry.empty.attempts made
    Registry.empty.performAll ops = (answersOf ops run.1, run.2) ∧ FirstWins made run.1 run.2 :=
  ⟨performAll_eq _ ops, firstWins_attempts _⟩

end Registry

end PostSlots
