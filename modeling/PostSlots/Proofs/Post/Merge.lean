import PostSlots.Post.Record
import PostSlots.Proofs.KeyPath.Spelling

/-!
# Whose fields a record has

A record has the fields of a post and those of a link. Over four names the link decides alone: what
it gives is the value, what it does not give is missing, and a post cannot say anything under these
names or below them. Under all other names the post is heard, whatever else it holds. Keys are paths,
so that this is said of paths: the first step of a path decides whom it asks.

Results:
1. `Record.get?_merge`: the fields of a record, name by name.
2. `Record.resolve_merge_link`, `Record.resolve_merge_below`: paths that ask the link.
3. `Record.resolve_merge_post`, `Record.resolve_merge_of_not_object`: paths that ask the post.
4. `Record.merge_eq_iff`: two posts give one record if they agree under the other names.
5. `Record.merge_precedence`: all of this for one link.
-/

namespace PostSlots

/-- The names that a link decides over. -/
def LinkFields.names : List String := ["url", "hostname", "username", "postId"]

/-- What a link gives under a name. -/
def LinkFields.value? (link : LinkFields) (name : String) : Option String :=
  if name = "url" then some link.url
  else if name = "hostname" then link.hostname
  else if name = "username" then link.username
  else if name = "postId" then link.postId
  else none

/-- No position is spelled like a name that a link decides over. -/
theorem Segment.eq_field_of_member {segment : Segment} (h : segment.member ∈ LinkFields.names) :
    segment = .field segment.member := by
  cases segment with
  | field name => rfl
  | index n =>
    have hletter : ∀ name ∈ LinkFields.names, name.toList.any (fun c => !c.isDigit) = true := by
      decide
    obtain ⟨c, hc, hletter⟩ := List.any_eq_true.1 (hletter _ h)
    rw [member, Nat.toString_eq_ofList_toDigits, String.toList_ofList] at hc
    rw [Nat.isDigit_of_mem_toDigits (by decide) (by decide) hc] at hletter
    cases hletter

namespace Record

/-! ## The fields of a record -/

theorem get?_put (fields : FieldMap Json) (name key : String) (value : Option String) :
    (put fields name value).get? key =
      if key = name then value.map .string else fields.get? key := by
  cases value with
  | some value => exact fields.get?_insert name key (.string value)
  | none => exact fields.get?_erase name key

/-- Under a name the link decides, or the post. -/
theorem get?_merge (post : Option Json) (link : LinkFields) (name : String) :
    (merge post link).fields.get? name =
      if name ∈ LinkFields.names then (link.value? name).map .string
      else (postFields post).get? name := by
  by_cases hname : name ∈ LinkFields.names
  · rw [if_pos hname]
    simp only [LinkFields.names, List.mem_cons, List.not_mem_nil, or_false] at hname
    rcases hname with rfl | rfl | rfl | rfl <;> simp [merge, get?_put, LinkFields.value?]
  · rw [if_neg hname]
    simp only [LinkFields.names, List.mem_cons, List.not_mem_nil, or_false, not_or] at hname
    obtain ⟨hurl, hhostname, husername, hpostId⟩ := hname
    rw [merge]
    simp only [get?_put]
    rw [if_neg hpostId, if_neg husername, if_neg hhostname, if_neg hurl]

theorem get?_merge_of_notMem (post : Option Json) (link : LinkFields) {name : String}
    (hname : name ∉ LinkFields.names) :
    (merge post link).fields.get? name = (postFields post).get? name := by
  rw [get?_merge, if_neg hname]

/-- A post that is an object has its own fields. -/
theorem postFields_object (m : FieldMap Json) : postFields (some (.object m.entries)) = m :=
  m.ofList_entries

theorem postFields_of_not_object {post : Option Json}
    (hpost : ∀ fields, post ≠ some (.object fields)) : postFields post = .empty := by
  unfold postFields
  split
  · exact absurd rfl (hpost _)
  · rfl

/-! ## Paths -/

section
variable {expression : String} {segment : Segment} {rest : KeyPath}

/-- The first step of a path asks for a field, and the others go on from there. -/
theorem resolve_cons (r : Record) (h : KeyPath.parse expression = segment :: rest) :
    r.resolve expression =
      (r.fields.get? segment.member).bind fun value => KeyPath.apply value rest := by
  rw [resolve, KeyPath.resolve, h, KeyPath.apply_cons, toJson, KeyPath.step_object]
  rfl

theorem notMem_names (hsegment : ∀ name ∈ LinkFields.names, segment ≠ .field name) :
    segment.member ∉ LinkFields.names := fun hmem =>
  hsegment _ hmem (Segment.eq_field_of_member hmem)

/-- A path of one name finds what the link gives. -/
theorem resolve_merge_link (post : Option Json) (link : LinkFields) {name : String}
    (hname : name ∈ LinkFields.names) (h : KeyPath.parse expression = [.field name]) :
    (merge post link).resolve expression = (link.value? name).map .string := by
  rw [resolve_cons _ h, Segment.member, get?_merge, if_pos hname]
  exact Option.bind_fun_some _

/-- A path that goes on below a name of the link finds nothing. -/
theorem resolve_merge_below (post : Option Json) (link : LinkFields) {name : String}
    (hname : name ∈ LinkFields.names)
    (h : KeyPath.parse expression = .field name :: segment :: rest) :
    (merge post link).resolve expression = none := by
  rw [resolve_cons _ h, Segment.member, get?_merge, if_pos hname]
  cases link.value? name with
  | none => rfl
  | some text =>
    rw [Option.map_some, Option.bind_some, KeyPath.apply_cons, KeyPath.step_string]
    rfl

/-- Any other path finds what it finds in the post. -/
theorem resolve_merge_post (m : FieldMap Json) (link : LinkFields)
    (h : KeyPath.parse expression = segment :: rest)
    (hsegment : ∀ name ∈ LinkFields.names, segment ≠ .field name) :
    (merge (some (.object m.entries)) link).resolve expression =
      KeyPath.resolve expression (.object m.entries) := by
  have hpost : KeyPath.resolve expression (.object m.entries) = resolve ⟨m⟩ expression := rfl
  rw [hpost, resolve_cons _ h, resolve_cons _ h, get?_merge_of_notMem _ _ (notMem_names hsegment),
    postFields_object]

/-- There is nothing to be found in a post that is no object. -/
theorem resolve_merge_of_not_object {post : Option Json} (link : LinkFields)
    (hpost : ∀ fields, post ≠ some (.object fields))
    (h : KeyPath.parse expression = segment :: rest)
    (hsegment : ∀ name ∈ LinkFields.names, segment ≠ .field name) :
    (merge post link).resolve expression = none := by
  rw [resolve_cons _ h, get?_merge_of_notMem _ _ (notMem_names hsegment),
    postFields_of_not_object hpost]
  rfl

end

/-! ## Records of one link -/

/-- Of a post a record keeps what it says under the names that are not the link's. -/
theorem merge_eq_iff (m n : FieldMap Json) (link : LinkFields) :
    merge (some (.object m.entries)) link = merge (some (.object n.entries)) link ↔
      ∀ key, key ∉ LinkFields.names → m.get? key = n.get? key := by
  have hpost (m : FieldMap Json) {key : String} (hkey : key ∉ LinkFields.names) :
      (merge (some (.object m.entries)) link).fields.get? key = m.get? key := by
    rw [get?_merge_of_notMem _ _ hkey, postFields_object]
  constructor
  · intro h key hkey
    rw [← hpost m hkey, h, hpost n hkey]
  · intro h
    refine congrArg Record.mk (FieldMap.ext_get? fun key => ?_)
    by_cases hkey : key ∈ LinkFields.names
    · have hlink (post : Option Json) :
          (merge post link).fields.get? key = (link.value? key).map .string := by
        rw [get?_merge, if_pos hkey]
      exact (hlink _).trans (hlink _).symm
    · exact (hpost m hkey).trans ((h key hkey).trans (hpost n hkey).symm)

/-- Over its four names a link decides alone, down to what is below them. Under every other name the
post is heard, if it is an object, and what it says there is all that a record keeps of it. -/
theorem merge_precedence (link : LinkFields) :
    (∀ post,
      (merge post link).fields.get? "url" = some (.string link.url) ∧
      (merge post link).fields.get? "hostname" = link.hostname.map .string ∧
      (merge post link).fields.get? "username" = link.username.map .string ∧
      (merge post link).fields.get? "postId" = link.postId.map .string) ∧
    (∀ expression segment rest, KeyPath.parse expression = segment :: rest →
      (∀ name ∈ LinkFields.names, segment ≠ .field name) →
      (∀ m : FieldMap Json, (merge (some (.object m.entries)) link).resolve expression =
        KeyPath.resolve expression (.object m.entries)) ∧
      ∀ post, (∀ fields, post ≠ some (.object fields)) →
        (merge post link).resolve expression = none) ∧
    (∀ expression name, name ∈ LinkFields.names → ∀ post,
      (KeyPath.parse expression = [.field name] →
        (merge post link).resolve expression = (link.value? name).map .string) ∧
      ∀ below rest, KeyPath.parse expression = .field name :: below :: rest →
        (merge post link).resolve expression = none) ∧
    ∀ m n : FieldMap Json,
      merge (some (.object m.entries)) link = merge (some (.object n.entries)) link ↔
        ∀ key, key ∉ LinkFields.names → m.get? key = n.get? key := by
  refine ⟨fun post => ?_, fun expression segment rest h hsegment => ?_,
    fun expression name hname post => ?_, fun m n => merge_eq_iff m n link⟩
  · refine ⟨?_, ?_, ?_, ?_⟩ <;> rw [get?_merge] <;> rfl
  · exact ⟨fun m => resolve_merge_post m link h hsegment,
      fun post hpost => resolve_merge_of_not_object link hpost h hsegment⟩
  · exact ⟨fun h => resolve_merge_link post link hname h,
      fun below rest h => resolve_merge_below post link hname h⟩

/-- A post that speaks in the name of its author and has a member that is asked for by a position. -/
theorem merge_precedence_collision :
    ∃ (link : LinkFields) (m : FieldMap Json),
      KeyPath.parse "[0].x" = [.index 0, .field "x"] ∧
      (∀ name ∈ LinkFields.names, Segment.index 0 ≠ .field name) ∧
      KeyPath.resolve "[0].x" (.object m.entries) = some (.bool true) ∧
      (merge (some (.object m.entries)) link).resolve "[0].x" = some (.bool true) ∧
      (∀ fields, some (Json.array [.object m.entries]) ≠ some (.object fields)) ∧
      (merge (some (.array [.object m.entries])) link).resolve "[0].x" = none ∧
      "username" ∈ LinkFields.names ∧
      KeyPath.parse "username.x" = [.field "username", .field "x"] ∧
      KeyPath.resolve "username.x" (.object m.entries) = some .null ∧
      (merge (some (.object m.entries)) link).resolve "username.x" = none := by
  obtain ⟨_, hpost, hlink, _⟩ := merge_precedence ⟨"https://a.test/", none, none, some "p"⟩
  have hindex : KeyPath.parse "[0].x" = [.index 0, .field "x"] := by decide +kernel
  have hbelow : KeyPath.parse "username.x" = [.field "username", .field "x"] := by decide +kernel
  have hother : ∀ name ∈ LinkFields.names, Segment.index 0 ≠ .field name := by decide
  have hname : "username" ∈ LinkFields.names := by decide
  obtain ⟨hobject, harray⟩ := hpost _ _ _ hindex hother
  refine ⟨_, .ofList [("0", .object [("x", .bool true)]), ("username", .object [("x", .null)])],
    hindex, hother, ?_, (hobject _).trans ?_, ?_, harray _ ?_, hname, hbelow, ?_,
    (hlink _ _ hname _).2 _ _ hbelow⟩
  · decide +kernel
  · decide +kernel
  · simp
  · simp
  · decide +kernel

end Record

end PostSlots
