import PostSlots.Binding.Slot
import PostSlots.KeyPath

/-!
# How markers spell paths

A marker lists key paths between commas, with blanks around them and blank items among them. A path
lists its tokens behind points or in brackets, with as many delimiters between two tokens as one
likes. This file gives the spellings by a grammar that knows nothing of cutting and trimming: every
spelling is read as the paths that it spells, and a value is walked step by step along them.

Results:
1. `Segment.IsToken.ofToken_eq`: a token is read as the step it denotes.
2. `KeyPath.Spells.parse_eq`: a spelling is read as its path.
3. `KeyPath.apply_eq_walk`: the value at a place is the one that a walk along the path finds.
4. `Slot.parse_keys_of_lists`: the keys of a marker are the paths that it lists.
-/

namespace PostSlots

/-! ## Spellings -/

/-- What stands between two tokens. -/
def KeyPath.delimiters : List Char := ['.', '[', ']']

/-- A name that no reader takes for a number, a delimiter or a blank. -/
structure Segment.IsName (name : String) : Prop where
  first : ∃ c, name.toList.head? = some c ∧ c.isDigit = false ∧ c ≠ '+' ∧ c ≠ '-' ∧
    Text.isBlank c = false
  last : ∀ c, name.toList.getLast? = some c → Text.isBlank c = false
  unbroken : ∀ c ∈ name.toList, c ∉ KeyPath.delimiters ∧ c ≠ ','

/-- A token denotes a step: an index by its decimal digits, a field by its name. -/
inductive Segment.IsToken : List Char → Segment → Prop where
  | index {n : Nat} (h : n < Decimal.wordBound) : IsToken (toString n).toList (.index n)
  | field {name : String} (h : IsName name) : IsToken name.toList (.field name)

namespace KeyPath

/-- A text spells a path: delimiters stand anywhere but inside of tokens, and one at least stands
between two tokens. -/
inductive Spells : List Char → KeyPath → Prop where
  | done : Spells [] []
  | delimiter {c : Char} {rest : List Char} {path : KeyPath} (hc : c ∈ delimiters)
      (h : Spells rest path) : Spells (c :: rest) path
  | token {token rest : List Char} {segment : Segment} {path : KeyPath}
      (htoken : Segment.IsToken token segment) (hrest : ∀ c, rest.head? = some c → c ∈ delimiters)
      (h : Spells rest path) : Spells (token ++ rest) (segment :: path)

/-- A token behind a point. -/
theorem Spells.point {token rest : List Char} {segment : Segment} {path : KeyPath}
    (htoken : Segment.IsToken token segment) (hrest : ∀ c, rest.head? = some c → c ∈ delimiters)
    (h : Spells rest path) : Spells ('.' :: token ++ rest) (segment :: path) :=
  .delimiter (by decide) (.token htoken hrest h)

/-- A token in brackets. -/
theorem Spells.bracket {token rest : List Char} {segment : Segment} {path : KeyPath}
    (htoken : Segment.IsToken token segment) (h : Spells rest path) :
    Spells ('[' :: token ++ ']' :: rest) (segment :: path) :=
  .delimiter (by decide) (.token htoken (by simp [delimiters]) (.delimiter (by decide) h))

end KeyPath

/-- The items of a marker list paths: an item is blank, or it is a path between blanks. -/
inductive Slot.Lists : List (List Char) → List KeyPath → Prop where
  | done : Lists [] []
  | blank {item : List Char} {items : List (List Char)} {paths : List KeyPath}
      (hitem : ∀ c ∈ item, Text.isBlank c = true) (h : Lists items paths) :
      Lists (item :: items) paths
  | path {before text after : List Char} {path : KeyPath} {items : List (List Char)}
      {paths : List KeyPath} (hpath : path ≠ []) (htext : KeyPath.Spells text path)
      (hbefore : ∀ c ∈ before, Text.isBlank c = true)
      (hafter : ∀ c ∈ after, Text.isBlank c = true) (h : Lists items paths) :
      Lists ((before ++ text ++ after) :: items) (path :: paths)

/-- The marker with some items. -/
def Slot.markerOf (items : List (List Char)) : String :=
  String.ofList ([','].intercalate items)

/-- The name of the member that a step asks an object for. -/
def Segment.member : Segment → String
  | .field name => name
  | .index n => toString n

/-- What is found in a value by a walk: items by their positions, members by their names, a number
being the name that its decimal digits are. -/
def Json.walk : Json → KeyPath → Option Json
  | value, [] => some value
  | .array items, .index n :: path => items[n]?.bind fun item => item.walk path
  | .object fields, .index n :: path => (fields.lookup (toString n)).bind fun value =>
    value.walk path
  | .object fields, .field name :: path => (fields.lookup name).bind fun value => value.walk path
  | _, _ :: _ => none

/-! ## Tokens -/

/-- What a token is made of: no delimiter, no comma, and no blank at its ends. -/
structure Segment.IsTokenText (token : List Char) : Prop where
  ne_nil : token ≠ []
  unbroken : ∀ c ∈ token, KeyPath.isDelimiter c = false ∧ c ≠ ','
  first : ∀ c, token.head? = some c → Text.isBlank c = false
  last : ∀ c, token.getLast? = some c → Text.isBlank c = false

namespace KeyPath

theorem isDelimiter_iff {c : Char} : isDelimiter c = true ↔ c ∈ delimiters := by
  simp [isDelimiter, delimiters, or_assoc]

theorem isDelimiter_of_notMem {c : Char} (hc : c ∉ delimiters) : isDelimiter c = false :=
  Bool.eq_false_iff.2 fun h => hc (isDelimiter_iff.1 h)

theorem isBlank_of_mem {c : Char} (hc : c ∈ delimiters) : Text.isBlank c = false := by
  rcases List.mem_cons.1 hc with rfl | hc
  · decide
  · rcases List.mem_cons.1 hc with rfl | hc
    · decide
    · rw [List.mem_singleton.1 hc]; decide

end KeyPath

namespace Segment

theorem isBlank_of_isDigit {c : Char} (hc : c.isDigit = true) : Text.isBlank c = false := by
  obtain ⟨hlow, hhigh⟩ := Char.isDigit_iff_toNat.1 hc
  have h0 : '0'.toNat = 48 := by decide
  have h9 : '9'.toNat = 57 := by decide
  unfold Text.isBlank
  simp
  omega

theorem isTokenText_of_isDigit {token : List Char} (hne : token ≠ [])
    (hdigit : ∀ c ∈ token, c.isDigit = true) : IsTokenText token := by
  have hblank : ∀ c ∈ token, Text.isBlank c = false := fun c hc =>
    isBlank_of_isDigit (hdigit c hc)
  refine ⟨hne, fun c hc => ⟨KeyPath.isDelimiter_of_notMem fun hmem => ?_, ?_⟩,
    fun c hc => hblank c (List.mem_of_head? hc), fun c hc => hblank c (List.mem_of_getLast? hc)⟩
  · have hall : ∀ d ∈ KeyPath.delimiters, d.isDigit = false := by simp [KeyPath.delimiters]
    have := hdigit c hc
    rw [hall c hmem] at this
    cases this
  · rintro rfl
    exact absurd (hdigit ',' hc) (by decide)

theorem isTokenText_toDigits (n : Nat) : IsTokenText (Nat.toDigits 10 n) :=
  isTokenText_of_isDigit Nat.toDigits_ne_nil fun _ hc =>
    Nat.isDigit_of_mem_toDigits (by decide) (by decide) hc

/-- A name without blanks is found to be one character by character. -/
theorem IsName.of_all {name : String} {c : Char} {cs : List Char} (hname : name.toList = c :: cs)
    (hfirst : c.isDigit = false ∧ c ≠ '+' ∧ c ≠ '-')
    (h : (c :: cs).all (fun d => !Text.isBlank d && !KeyPath.isDelimiter d && d != ',') = true) :
    IsName name := by
  have hall : ∀ d ∈ name.toList, (Text.isBlank d = false ∧ KeyPath.isDelimiter d = false) ∧
      d ≠ ',' := by
    rw [hname]
    simpa only [Bool.and_eq_true, Bool.not_eq_true', bne_iff_ne] using List.all_eq_true.1 h
  refine ⟨⟨c, by rw [hname]; rfl, hfirst.1, hfirst.2.1, hfirst.2.2, ?_⟩, fun d hd => ?_,
    fun d hd => ⟨fun hmem => ?_, (hall d hd).2⟩⟩
  · exact (hall c (hname ▸ List.mem_cons_self)).1.1
  · exact (hall d (List.mem_of_getLast? hd)).1.1
  · exact absurd (KeyPath.isDelimiter_iff.2 hmem) (Bool.eq_false_iff.1 (hall d hd).1.2)

variable {token : List Char} {segment : Segment}

theorem IsToken.isTokenText (h : IsToken token segment) : IsTokenText token := by
  cases h with
  | @index n h => rw [Nat.toString_eq_ofList_toDigits, String.toList_ofList]; exact isTokenText_toDigits n
  | @field name h =>
    obtain ⟨c, hc, _, _, _, hblank⟩ := h.first
    refine ⟨fun hnil => ?_, fun d hd => ?_, fun d hd => ?_, h.last⟩
    · rw [hnil] at hc; cases hc
    · exact ⟨KeyPath.isDelimiter_of_notMem (h.unbroken d hd).1, (h.unbroken d hd).2⟩
    · rw [hc] at hd; cases hd; exact hblank

/-- A token is read as the step that it denotes. -/
theorem IsToken.ofToken_eq (h : IsToken token segment) : ofToken token = segment := by
  cases h with
  | @index n h =>
    rw [Nat.toString_eq_ofList_toDigits, String.toList_ofList, ofToken,
      Decimal.readWord?_toDigits h]
  | @field name h =>
    obtain ⟨c, hc, hdigit, hplus, hminus, _⟩ := h.first
    obtain ⟨cs, hcs⟩ := List.head?_eq_some_iff.1 hc
    have hpoint : c ≠ '.' := by
      rintro rfl
      exact (h.unbroken '.' (List.mem_of_head? hc)).1 (by decide)
    rw [hcs, ofToken, Decimal.readWord?_of_head hdigit hplus,
      Decimal.Numeral.read?_of_head hdigit hplus hminus hpoint, ← hcs]
    simp

end Segment

/-! ## Paths -/

namespace KeyPath

/-- What is made like a token is a path of one step. -/
theorem parse_of_isTokenText {token : List Char} (h : Segment.IsTokenText token) :
    parse (String.ofList token) = [Segment.ofToken token] := by
  have htrim : Text.trim ([] ++ token ++ []) = token :=
    Text.trimWhile_append (by simp) (by simp) h.ne_nil h.first h.last
  have htokens : Text.tokens isDelimiter (token ++ []) = token :: Text.tokens isDelimiter [] :=
    Text.tokens_append_piece h.ne_nil (fun c hc => (h.unbroken c hc).1) (by simp)
  rw [List.append_nil, List.nil_append] at htrim
  rw [List.append_nil] at htokens
  rw [parse, String.toList_ofList, htrim, htokens]
  rfl

variable {text : List Char} {path : KeyPath}

theorem Spells.tokens_eq (h : Spells text path) :
    (Text.tokens isDelimiter text).map Segment.ofToken = path := by
  induction h with
  | done => rfl
  | delimiter hc _ ih => rw [Text.tokens_cons_sep (isDelimiter_iff.2 hc), ih]
  | token htoken hrest _ ih =>
    have htext := htoken.isTokenText
    rw [Text.tokens_append_piece htext.ne_nil (fun d hd => (htext.unbroken d hd).1)
      (fun d hd => isDelimiter_iff.2 (hrest d hd)), List.map_cons, htoken.ofToken_eq, ih]

theorem Spells.notMem (h : Spells text path) : ',' ∉ text := by
  induction h with
  | done => exact List.not_mem_nil
  | delimiter hc _ ih =>
    refine List.not_mem_cons_of_ne_of_not_mem ?_ ih
    rintro rfl
    exact absurd hc (by decide)
  | token htoken _ _ ih =>
    refine fun hmem => (List.mem_append.1 hmem).elim (fun hmem => ?_) ih
    exact (htoken.isTokenText.unbroken ',' hmem).2 rfl

theorem Spells.first (h : Spells text path) :
    ∀ c, text.head? = some c → Text.isBlank c = false := by
  intro c hc
  cases h with
  | done => cases hc
  | delimiter hd _ => cases hc; exact isBlank_of_mem hd
  | @token token rest segment path htoken _ _ =>
    have htext := htoken.isTokenText
    obtain ⟨d, ds, rfl⟩ := List.exists_cons_of_ne_nil htext.ne_nil
    exact htext.first c hc

theorem getLast?_append_visible {front rest : List Char}
    (hfront : ∀ c, front.getLast? = some c → Text.isBlank c = false)
    (hrest : ∀ c, rest.getLast? = some c → Text.isBlank c = false) :
    ∀ c, (front ++ rest).getLast? = some c → Text.isBlank c = false := by
  intro c hc
  rw [List.getLast?_append, Option.or_eq_some_iff] at hc
  rcases hc with hc | ⟨_, hc⟩
  · exact hrest c hc
  · exact hfront c hc

theorem Spells.last (h : Spells text path) :
    ∀ c, text.getLast? = some c → Text.isBlank c = false := by
  induction h with
  | done => intro c hc; cases hc
  | @delimiter d rest path hd _ ih =>
    have hfront : ∀ c, [d].getLast? = some c → Text.isBlank c = false := by
      rintro c ⟨⟩
      exact isBlank_of_mem hd
    exact getLast?_append_visible hfront ih
  | token htoken _ _ ih => exact getLast?_append_visible htoken.isTokenText.last ih

/-- Between blanks, a text that spells a step is found again. -/
theorem Spells.trim_eq (h : Spells text path) (hpath : path ≠ []) {before after : List Char}
    (hbefore : ∀ c ∈ before, Text.isBlank c = true)
    (hafter : ∀ c ∈ after, Text.isBlank c = true) : Text.trim (before ++ text ++ after) = text := by
  refine Text.trimWhile_append hbefore hafter ?_ h.first h.last
  rintro rfl
  exact hpath h.tokens_eq.symm

/-- A spelling is read as the path that it spells. -/
theorem Spells.parse_eq (h : Spells text path) (hpath : path ≠ []) :
    parse (String.ofList text) = path := by
  have htrim : Text.trim ([] ++ text ++ []) = text := h.trim_eq hpath (by simp) (by simp)
  rw [List.append_nil, List.nil_append] at htrim
  rw [parse, String.toList_ofList, htrim, h.tokens_eq]

/-! ## Walks -/

theorem apply_cons (value : Json) (segment : Segment) (path : KeyPath) :
    apply value (segment :: path) = (step value segment).bind fun next => apply next path :=
  rfl

/-- An object is asked for the member that a step names. -/
theorem step_object (fields : List (String × Json)) (segment : Segment) :
    step (.object fields) segment = fields.lookup segment.member := by
  cases segment with
  | field name => rfl
  | index n => rw [step, Decimal.digitsOf, Segment.member, Nat.toString_eq_ofList_toDigits]

/-- Nothing is below a string. -/
theorem step_string (text : String) (segment : Segment) : step (.string text) segment = none := by
  cases segment with
  | field name => rfl
  | index n => rfl

/-- The value at a place is found by a walk. -/
theorem apply_eq_walk (path : KeyPath) (value : Json) : apply value path = value.walk path := by
  induction path generalizing value with
  | nil => cases value <;> rfl
  | cons segment path ih =>
    rw [apply_cons]
    cases value with
    | array items =>
      cases segment with
      | index n => simp only [step, Json.walk, ih]
      | field name => rfl
    | object fields =>
      cases segment with
      | index n => simp only [step, Json.walk, ih, Nat.toString_eq_ofList_toDigits]; rfl
      | field name => simp only [step, Json.walk, ih]
    | _ => cases segment <;> rfl

theorem resolve_eq_walk (expression : String) (value : Json) :
    resolve expression value = value.walk (parse expression) :=
  apply_eq_walk _ value

end KeyPath

/-! ## Markers -/

namespace Slot

theorem parseKeys_markerOf {items : List (List Char)} (hitems : ∀ item ∈ items, ',' ∉ item) :
    parseKeys (markerOf items) =
      ((items.map Text.trim).filter fun key => !key.isEmpty).map String.ofList := by
  rw [parseKeys, markerOf, String.toList_ofList]
  by_cases hne : items = []
  · subst hne
    rfl
  · rw [Text.cut_intercalate hne hitems]

variable {items : List (List Char)} {paths : List KeyPath}

theorem Lists.notMem (h : Lists items paths) : ∀ item ∈ items, ',' ∉ item := by
  have hcomma : Text.isBlank ',' = false := by decide
  have hblank {cs : List Char} (hcs : ∀ c ∈ cs, Text.isBlank c = true) : ',' ∉ cs := by
    intro hmem
    rw [hcs ',' hmem] at hcomma
    cases hcomma
  induction h with
  | done => exact fun item hitem => absurd hitem List.not_mem_nil
  | blank hitem _ ih => exact List.forall_mem_cons.2 ⟨hblank hitem, ih⟩
  | path _ htext hbefore hafter _ ih =>
    refine List.forall_mem_cons.2 ⟨?_, ih⟩
    simp only [List.mem_append, not_or]
    exact ⟨⟨hblank hbefore, htext.notMem⟩, hblank hafter⟩

/-- The keys of a marker are read as the paths that it lists, in order. -/
theorem Lists.parse_parseKeys (h : Lists items paths) :
    (parseKeys (markerOf items)).map KeyPath.parse = paths := by
  rw [parseKeys_markerOf h.notMem]
  induction h with
  | done => rfl
  | blank hitem _ ih =>
    rw [List.map_cons, Text.trim, Text.trimWhile_eq_nil hitem]
    exact ih
  | @path before text after path items paths hpath htext hbefore hafter _ ih =>
    have hne : (!text.isEmpty) = true := by
      rw [Bool.not_eq_true', List.isEmpty_eq_false_iff]
      rintro rfl
      exact hpath htext.tokens_eq.symm
    have hkeep : (text :: items.map Text.trim).filter (fun key => !key.isEmpty) =
        text :: (items.map Text.trim).filter fun key => !key.isEmpty :=
      List.filter_cons_of_pos hne
    rw [List.map_cons, htext.trim_eq hpath hbefore hafter, hkeep, List.map_cons, List.map_cons,
      htext.parse_eq hpath, ih]

/-- Whatever the spelling, the keys of a marker are the paths that it lists, and what they name in
a value is what walks along these paths find. -/
theorem parse_keys_of_lists (h : Lists items paths) :
    (parseKeys (markerOf items)).map KeyPath.parse = paths ∧
      ∀ value : Json, (parseKeys (markerOf items)).map (fun key => KeyPath.resolve key value) =
        paths.map value.walk := by
  have hparse := h.parse_parseKeys
  refine ⟨hparse, fun value => ?_⟩
  calc (parseKeys (markerOf items)).map (fun key => KeyPath.resolve key value)
      = (parseKeys (markerOf items)).map (fun key => value.walk (KeyPath.parse key)) :=
        List.map_congr_left fun key _ => KeyPath.resolve_eq_walk key value
    _ = ((parseKeys (markerOf items)).map KeyPath.parse).map value.walk := by
        rw [List.map_map]; rfl
    _ = paths.map value.walk := by rw [hparse]

/-- A blank item, blanks, words that could be numbers, and all ways to set a token apart. -/
theorem parse_keys_of_lists_mixed :
    ∃ (items : List (List Char)) (paths : List KeyPath), Lists items paths ∧
      paths = [[.field "inf", .index 0, .field "e5"]] ∧
      markerOf items = "\t, inf[0]..e5] " ∧
      (parseKeys (markerOf items)).map KeyPath.parse = paths := by
  have hinf : Segment.IsName "inf" := .of_all (c := 'i') rfl (by decide) (by decide)
  have he5 : Segment.IsName "e5" := .of_all (c := 'e') rfl (by decide) (by decide)
  have h0 : Segment.IsToken ['0'] (.index 0) := .index (n := 0) (by decide)
  have htail : KeyPath.Spells ('.' :: '.' :: "e5".toList ++ [']']) [.field "e5"] :=
    .delimiter (by decide)
      (.point (.field he5) (by simp [KeyPath.delimiters]) (.delimiter (by decide) .done))
  have htext : KeyPath.Spells
      ("inf".toList ++ ('[' :: ['0'] ++ ']' :: ('.' :: '.' :: "e5".toList ++ [']'])))
      [.field "inf", .index 0, .field "e5"] :=
    .token (.field hinf) (by simp [KeyPath.delimiters]) (.bracket h0 htail)
  have hblank {c : Char} (hc : Text.isBlank c = true) : ∀ d ∈ [c], Text.isBlank d = true :=
    List.forall_mem_singleton.2 hc
  have hlists : Lists [['\t'], [' '] ++
      ("inf".toList ++ ('[' :: ['0'] ++ ']' :: ('.' :: '.' :: "e5".toList ++ [']']))) ++ [' ']]
      [[.field "inf", .index 0, .field "e5"]] :=
    .blank (hblank (by decide))
      (.path (by simp) htext (hblank (by decide)) (hblank (by decide)) .done)
  exact ⟨_, _, hlists, rfl, by decide, (parse_keys_of_lists hlists).1⟩

end Slot

end PostSlots
