import PostSlots.Post.Link
import PostSlots.Proofs.Url.Plain

/-!
# What a link says however it is written

The same address can be written with more slashes than it needs, with blanks around it, and with a
query and a fragment. What it says of its post does not depend on them: the host, the segment
behind the first `profile` and the last segment.

Results:
1. `PostLink.usernameIn_eq`: the user name as a place among the segments.
2. `PostLink.parse_spelling`: a spelled address is read, with its host and its segments.
3. `PostLink.fields_of_spelling`: the fields of a spelled address.
-/

namespace PostSlots.PostLink

/-- The letters and slashes of a plain query or fragment. -/
def IsPlainTail (text : String) : Prop :=
  ∀ c ∈ text.toList, c.isAlpha = true ∨ c = '/'

instance (text : String) : Decidable (IsPlainTail text) :=
  decidable_of_iff (text.toList.all (fun c => c.isAlpha || c == '/') = true) <| by
    simp only [IsPlainTail, List.all_eq_true, Bool.or_eq_true, beq_iff_eq]

/-- A way to write the address of a host and segments: blanks around it, needless slashes in front of
the segments and behind them, and a query and a fragment. -/
structure Spelling where
  before : List Char
  labels : List (List Char)
  pieces : List (Nat × String)
  trailing : Nat
  query : Option String
  fragment : Option String
  after : List Char
  blank_before : ∀ c ∈ before, Text.isBlank c = true
  labels_ne_nil : labels ≠ []
  isLabel : ∀ label ∈ labels, Url.IsLabel label
  isSegment : ∀ piece ∈ pieces, Url.IsSegment piece.2.toList
  plain_query : ∀ text ∈ query, IsPlainTail text
  plain_fragment : ∀ text ∈ fragment, IsPlainTail text
  blank_after : ∀ c ∈ after, Text.isBlank c = true

namespace Spelling

def host (s : Spelling) : String := String.ofList (Url.hostOf s.labels)

/-- The segments without the slashes around them. -/
def names (s : Spelling) : List String := s.pieces.map Prod.snd

/-- The query and the fragment with their marks. -/
def tail (s : Spelling) : List Char := Url.suffix '?' s.query ++ Url.suffix '#' s.fragment

/-- The address without the blanks around it. -/
def address (s : Spelling) : List Char :=
  Url.webMark ++ (Url.hostOf s.labels ++ (Url.pathOf s.pieces s.trailing ++ s.tail))

def href (s : Spelling) : String := String.ofList (s.before ++ s.address ++ s.after)

variable (s : Spelling)

/-! ## The text of a spelling -/

theorem mem_tail {c : Char} (hc : c ∈ s.tail) : c = '?' ∨ c = '#' ∨ c.isAlpha = true ∨ c = '/' := by
  have hsuffix {mark : Char} {part : Option String} (hpart : ∀ text ∈ part, IsPlainTail text)
      (hmem : c ∈ Url.suffix mark part) : c = mark ∨ c.isAlpha = true ∨ c = '/' := by
    cases part with
    | none => cases hmem
    | some text => exact (List.mem_cons.1 hmem).imp_right (hpart text rfl c)
  rcases List.mem_append.1 hc with hc | hc
  · exact (hsuffix s.plain_query hc).imp_right .inr
  · exact .inr (hsuffix s.plain_fragment hc)

theorem visible_of_mem_tail {c : Char} (hc : c ∈ s.tail) : ' ' < c ∧ Text.isBlank c = false := by
  rcases s.mem_tail hc with rfl | rfl | hc | rfl
  · decide
  · decide
  · have hinert : Url.IsInert c := .of_isPlainChar (by simp [Url.isPlainChar, Char.isAlphanum, hc])
    exact ⟨hinert.visible, hinert.not_blank⟩
  · decide

theorem endsPath_of_head?_tail : ∀ c, s.tail.head? = some c → Url.endsPath c = true := by
  intro c hc
  rw [tail] at hc
  cases hquery : s.query with
  | some text =>
    rw [hquery] at hc
    cases hc
    rfl
  | none =>
    rw [hquery] at hc
    cases hfragment : s.fragment with
    | some text =>
      rw [hfragment] at hc
      cases hc
      rfl
    | none =>
      rw [hfragment] at hc
      cases hc

theorem not_blank_of_mem_address {c : Char} (hc : c ∈ s.address) : Text.isBlank c = false := by
  have hmark : ∀ c ∈ Url.webMark, Text.isBlank c = false := by
    simp only [Url.webMark, List.forall_mem_cons, List.not_mem_nil, false_imp_iff, implies_true]
    decide
  simp only [address, List.mem_append] at hc
  rcases hc with hc | hc | hc | hc
  · exact hmark c hc
  · exact (Url.isHostChar_hostOf s.isLabel c hc).inert.not_blank
  · rcases Url.mem_pathOf hc with rfl | ⟨piece, hpiece, hc⟩
    · decide
    · exact ((s.isSegment piece hpiece).inert c hc).not_blank
  · exact (s.visible_of_mem_tail hc).2

/-- The blanks around an address are trimmed, and nothing else is. -/
theorem trim_href : Text.trim s.href.toList = s.address := by
  have hne : s.address ≠ [] := by simp [address, Url.webMark]
  rw [href, String.toList_ofList]
  exact Text.trimWhile_append s.blank_before s.blank_after hne
    (fun c hc => s.not_blank_of_mem_address (List.mem_of_head? hc))
    (fun c hc => s.not_blank_of_mem_address (List.mem_of_getLast? hc))

end Spelling

/-! ## Fields -/

/-- The user name stands one place behind the first `profile`. -/
theorem usernameIn_eq (names : List String) :
    usernameIn names = names[names.idxOf "profile" + 1]? := by
  induction names with
  | nil => rfl
  | cons name names ih =>
    by_cases hname : name = "profile"
    · rw [usernameIn, if_pos hname, hname, List.idxOf_cons_self]
      cases names <;> rfl
    · have hbeq : (name == "profile") = false := beq_eq_false_iff_ne.2 hname
      rw [usernameIn, if_neg hname, ih, List.idxOf_cons, hbeq]
      rfl

/-- A spelled address is read, with its host and its segments. -/
theorem parse_spelling (s : Spelling) :
    ∃ link, parse s.href = .ok link ∧ link.url.host? = some s.host ∧ link.segments = s.names := by
  obtain ⟨url, hurl, hhost, hsegments⟩ := Url.parse_plain s.labels_ne_nil s.isLabel s.isSegment
    s.trailing s.endsPath_of_head?_tail fun c hc => (s.visible_of_mem_tail hc).1
  refine ⟨⟨url⟩, ?_, hhost, hsegments⟩
  rw [parse, s.trim_href, Spelling.address, hurl]

/-- However an address is written, it can be read, and says the host, the segment behind the first
`profile` and the last segment of those that are not empty. -/
theorem fields_of_spelling (s : Spelling) :
    ∃ link, parse s.href = .ok link ∧
      link.fields.hostname = some s.host ∧
      link.fields.username = s.names[s.names.idxOf "profile" + 1]? ∧
      link.fields.postId = s.names.getLast? := by
  obtain ⟨link, hlink, hhost, hsegments⟩ := parse_spelling s
  refine ⟨link, hlink, hhost, ?_, ?_⟩
  · rw [← usernameIn_eq, ← hsegments]
    rfl
  · rw [← hsegments]
    rfl

/-- Three segments `profile`, of which the second is a user name and the third a post, more slashes than
needed, and another `profile` in the query and the fragment. -/
theorem fields_of_spelling_profiles :
    ∃ link,
      parse "\u00a0https://ab.c//~:/profile///profile/..-/profile//?/profile/x#/profile/y\n" =
        .ok link ∧
      link.fields.hostname = some "ab.c" ∧ link.fields.username = some "profile" ∧
      link.fields.postId = some "profile" := by
  obtain ⟨link, hlink, hhost, husername, hpostId⟩ := fields_of_spelling
    { before := ['\u00a0']
      labels := [['a', 'b'], ['c']]
      pieces := [(1, "~:"), (0, "profile"), (2, "profile"), (0, "..-"), (0, "profile")]
      trailing := 2
      query := some "/profile/x"
      fragment := some "/profile/y"
      after := ['\n']
      blank_before := List.all_eq_true.1 (by decide)
      labels_ne_nil := by decide
      isLabel := by decide
      isSegment := by decide
      plain_query := by rintro _ ⟨⟩; decide
      plain_fragment := by rintro _ ⟨⟩; decide
      blank_after := List.all_eq_true.1 (by decide) }
  exact ⟨link, hlink, hhost, husername, hpostId⟩

end PostSlots.PostLink
