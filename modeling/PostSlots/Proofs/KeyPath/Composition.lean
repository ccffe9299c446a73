import PostSlots.Proofs.KeyPath.Spelling

/-!
# Paths one after the other

A delimiter between two expressions makes one expression of them. It spells the steps of the first
and then those of the second, so that the second is resolved in what the first finds. The ends
that meet may not be blank: blanks count inside of an expression, and do not at its ends.

Results:
1. `KeyPath.parse_append`: the steps of two expressions with a delimiter between them.
2. `KeyPath.apply_append`: walks along two paths, one after the other.
3. `KeyPath.isPart_of_apply`: a walk ends inside of the value in which it starts.
4. `KeyPath.resolve_join`: what two expressions find together, and where.
-/

namespace PostSlots

/-! ## Trimming around a visible character -/

namespace Text

variable {α : Type} {p : α → Bool} {c : α}

theorem dropEndWhile_append_stop (hc : p c = false) (cs ds : List α) :
    dropEndWhile p (cs ++ c :: ds) = cs ++ c :: dropEndWhile p ds := by
  have hreverse : (cs ++ c :: ds).reverse = ds.reverse ++ c :: cs.reverse := by simp
  rw [dropEndWhile, hreverse, dropWhile_append_stop hc, dropEndWhile]
  simp

/-- What is dropped at the front takes nothing from a visible end. -/
theorem getLast?_dropWhile {cs : List α} (hlast : ∀ d, cs.getLast? = some d → p d = false) :
    ∀ d, (cs.dropWhile p).getLast? = some d → p d = false := by
  intro d hd
  refine hlast d ?_
  rw [← List.takeWhile_append_dropWhile (p := p) (l := cs), List.getLast?_append, hd]
  rfl

/-- Between visible characters nothing is trimmed. -/
theorem trimWhile_append_stop (hc : p c = false) {cs ds : List α}
    (hcs : ∀ d, cs.getLast? = some d → p d = false)
    (hds : ∀ d, ds.head? = some d → p d = false) :
    trimWhile p (cs ++ c :: ds) = trimWhile p cs ++ c :: trimWhile p ds := by
  have hfront : trimWhile p cs = cs.dropWhile p := dropEndWhile_of_getLast? (getLast?_dropWhile hcs)
  have hback : trimWhile p ds = dropEndWhile p ds := by rw [trimWhile, dropWhile_of_head? hds]
  rw [hfront, hback, trimWhile, dropWhile_append_stop hc, dropEndWhile_append_stop hc]

end Text

/-! ## Parts of a value -/

/-- A value is a part of itself, and of what has an item or a member that it is a part of. -/
inductive Json.IsPart (part : Json) : Json → Prop where
  | self : IsPart part part
  | item {items : List Json} {value : Json} (hmem : value ∈ items) (h : IsPart part value) :
      IsPart part (.array items)
  | member {fields : List (String × Json)} {key : String} {value : Json}
      (hmem : (key, value) ∈ fields) (h : IsPart part value) : IsPart part (.object fields)

namespace KeyPath

/-! ## Steps -/

/-- A step goes from a value into one that it holds. -/
theorem isPart_of_step {value next part : Json} {segment : Segment}
    (h : step value segment = some next) (hpart : part.IsPart next) : part.IsPart value := by
  cases value with
  | array items =>
    cases segment with
    | index n => exact .item (List.mem_of_getElem? h) hpart
    | field name => cases h
  | object fields =>
    rw [step_object] at h
    obtain ⟨before, after, rfl, -⟩ := List.lookup_eq_some_iff.1 h
    exact .member (List.mem_append_right before List.mem_cons_self) hpart
  | _ => cases segment <;> cases h

/-- A walk ends inside of the value in which it starts. -/
theorem isPart_of_apply {path : KeyPath} {value part : Json} (h : apply value path = some part) :
    part.IsPart value := by
  induction path generalizing value with
  | nil =>
    cases h
    exact .self
  | cons segment path ih =>
    rw [apply_cons] at h
    obtain ⟨next, hstep, hrest⟩ := Option.bind_eq_some_iff.1 h
    exact isPart_of_step hstep (ih hrest)

/-- Two paths are walked one after the other. -/
theorem apply_append (value : Json) (path more : KeyPath) :
    apply value (path ++ more) = (apply value path).bind fun next => apply next more := by
  induction path generalizing value with
  | nil => rfl
  | cons segment path ih =>
    rw [List.cons_append, apply_cons, apply_cons, Option.bind_assoc]
    exact congrArg _ (funext fun next => ih next)

/-! ## Expressions -/

section
variable {a b : String} {c : Char}

/-- An expression that goes on behind a delimiter spells the steps of both of its sides. -/
theorem parse_append (hc : c ∈ delimiters)
    (ha : ∀ d, a.toList.getLast? = some d → Text.isBlank d = false)
    (hb : ∀ d, b.toList.head? = some d → Text.isBlank d = false) :
    parse (a ++ String.singleton c ++ b) = parse a ++ parse b := by
  have hchars : (a ++ String.singleton c ++ b).toList = a.toList ++ c :: b.toList := by simp
  have htrim : Text.trim (a.toList ++ c :: b.toList) =
      Text.trim a.toList ++ c :: Text.trim b.toList :=
    Text.trimWhile_append_stop (isBlank_of_mem hc) ha hb
  rw [parse, hchars, htrim, Text.tokens_append_sep (isDelimiter_iff.2 hc), List.map_append]
  rfl

/-- The second of two expressions is resolved in what the first one finds. -/
theorem resolve_append (hc : c ∈ delimiters)
    (ha : ∀ d, a.toList.getLast? = some d → Text.isBlank d = false)
    (hb : ∀ d, b.toList.head? = some d → Text.isBlank d = false) (value : Json) :
    resolve (a ++ String.singleton c ++ b) value = (resolve a value).bind (resolve b) := by
  rw [resolve, parse_append hc ha hb, apply_append]
  rfl

end

/-- Two expressions with a delimiter between them spell the steps of both, and find what the second
finds in what the first does, or nothing where the first finds nothing. What is found stands in
the value, and no further step makes up for one that misses. -/
theorem resolve_join :
    (∀ a b : String, ∀ c ∈ delimiters,
      (∀ d, a.toList.getLast? = some d → Text.isBlank d = false) →
      (∀ d, b.toList.head? = some d → Text.isBlank d = false) →
      parse (a ++ String.singleton c ++ b) = parse a ++ parse b ∧
      ∀ value,
        (∀ next, resolve a value = some next →
          resolve (a ++ String.singleton c ++ b) value = resolve b next) ∧
        (resolve a value = none → resolve (a ++ String.singleton c ++ b) value = none)) ∧
    (∀ expression value part, resolve expression value = some part → part.IsPart value) ∧
    ∀ value path more, apply value path = none → apply value (path ++ more) = none := by
  refine ⟨fun a b c hc ha hb => ⟨parse_append hc ha hb, fun value => ⟨?_, ?_⟩⟩, ?_, ?_⟩
  · intro next hnext
    rw [resolve_append hc ha hb, hnext, Option.bind_some]
  · intro hmiss
    rw [resolve_append hc ha hb, hmiss, Option.bind_none]
  · intro expression value part h
    exact isPart_of_apply h
  · intro value path more h
    rw [apply_append, h, Option.bind_none]

/-- Sides with blanks outside, an empty token where they meet, and a blank one within. -/
theorem resolve_join_blanks :
    ∃ value miss : Json,
      parse (" a." ++ String.singleton '[' ++ "0]. .b\n") = parse " a." ++ parse "0]. .b\n" ∧
      resolve " a." value = some (.array [.object [(" ", .object [("b", .bool true)])]]) ∧
      resolve (" a." ++ String.singleton '[' ++ "0]. .b\n") value = some (.bool true) ∧
      Json.IsPart (.bool true) value ∧
      resolve " a." miss = none ∧
      resolve (" a." ++ String.singleton '[' ++ "0]. .b\n") miss = none ∧
      apply miss [.field "a", .index 0] = none := by
  obtain ⟨hjoin, hpart, hmiss⟩ := resolve_join
  obtain ⟨hparse, hresolve⟩ := hjoin " a." "0]. .b\n" '['
    (by decide) (by rintro _ ⟨⟩; decide) (by rintro _ ⟨⟩; decide)
  refine ⟨.object [("a", .array [.object [(" ", .object [("b", .bool true)])]])],
    .object [("b", .null)], hparse, ?_, ?_, ?_, ?_, ?_, ?_⟩
  · decide +kernel
  · refine ((hresolve _).1 (.array [.object [(" ", .object [("b", .bool true)])]]) ?_).trans ?_
    · decide +kernel
    · decide +kernel
  · refine hpart "a[0]. .b" _ _ ?_
    decide +kernel
  · decide +kernel
  · refine (hresolve _).2 ?_
    decide +kernel
  · refine hmiss _ [.field "a"] [.index 0] ?_
    decide +kernel

-- a blank end that meets the delimiter is no longer trimmed
example : parse ("a " ++ String.singleton '.' ++ "b") = [.field "a ", .field "b"] ∧
    parse "a " ++ parse "b" = [.field "a", .field "b"] := by decide +kernel

end KeyPath

end PostSlots
