import PostSlots.Proofs.Template.FirstRegistration

/-!
# Names in kebab case

Names are checked byte by byte. Only characters of ASCII are a byte each: every other character
begins with a byte that no name has, so that what passes the check is a name in kebab case, read by
its characters. A tag with a dash gives rise to the id of a template, and another tag to another id.

Results:
1. `utf8EncodeChar_of_ascii`, `exists_utf8EncodeChar`: the bytes of a character.
2. `checkKebab_eq_ok_iff`, `checkTag_eq_ok_iff`: which names pass.
3. `IsKebab.ofTag`: the template of a tag has a good id.
4. `tag_names_template`: a template can be registered for every good tag, and is found by it.
-/

namespace PostSlots.TemplateName

/-- A lowercase letter. -/
def IsLetter (c : Char) : Prop := 'a' ≤ c ∧ c ≤ 'z'

/-- What a name goes on with. -/
def IsNameChar (c : Char) : Prop := IsLetter c ∨ ('0' ≤ c ∧ c ≤ '9') ∨ c = '-'

/-- A lowercase letter, then any number of lowercase letters, digits and dashes. -/
def IsKebab (name : String) : Prop :=
  ∃ first rest, name.toList = first :: rest ∧ IsLetter first ∧ ∀ c ∈ rest, IsNameChar c

/-! ## The bytes of a character -/

section
variable {c : Char}

theorem isLetter_iff : IsLetter c ↔ 97 ≤ c.toNat ∧ c.toNat ≤ 122 := by
  simp only [IsLetter, Char.le_def, UInt32.le_iff_toNat_le]
  rfl

theorem isNameChar_iff :
    IsNameChar c ↔
      (97 ≤ c.toNat ∧ c.toNat ≤ 122) ∨ (48 ≤ c.toNat ∧ c.toNat ≤ 57) ∨ c.toNat = 45 := by
  have hdigit : '0' ≤ c ∧ c ≤ '9' ↔ 48 ≤ c.toNat ∧ c.toNat ≤ 57 := by
    simp only [Char.le_def, UInt32.le_iff_toNat_le]
    rfl
  have hdash : c = '-' ↔ c.toNat = 45 := Char.toNat_inj.symm
  rw [IsNameChar, isLetter_iff, hdigit, hdash]

/-- A character of ASCII is one byte. -/
theorem utf8EncodeChar_of_ascii (hc : c.toNat < 128) :
    String.utf8EncodeChar c = [UInt8.ofNat c.toNat] :=
  if_pos (Nat.le_of_lt_succ hc)

theorem toNat_ofNat_ascii (hc : c.toNat < 128) : (UInt8.ofNat c.toNat).toNat = c.toNat := by
  rw [UInt8.toNat_ofNat', Nat.mod_eq_of_lt (by omega)]

/-- Any other character begins with a byte that no character of ASCII is. -/
theorem exists_utf8EncodeChar (hc : 128 ≤ c.toNat) :
    ∃ b bs, String.utf8EncodeChar c = b :: bs ∧ 128 ≤ b.toNat := by
  have hlarge : ¬c.val.toNat ≤ 127 := Nat.not_le.2 hc
  have hlead {n : Nat} (hlow : 128 ≤ n) (hhigh : n < 256) : 128 ≤ (UInt8.ofNat n).toNat := by
    rw [UInt8.toNat_ofNat', Nat.mod_eq_of_lt hhigh]
    exact hlow
  unfold String.utf8EncodeChar
  dsimp only
  rw [if_neg hlarge]
  -- two bytes, three or four
  split
  · exact ⟨_, _, rfl, hlead (by omega) (by omega)⟩
  · split
    · exact ⟨_, _, rfl, hlead (by omega) (by omega)⟩
    · exact ⟨_, _, rfl, hlead (by omega) (by omega)⟩

end

/-- The bytes of a name are those of its characters. -/
theorem bytes_eq (name : String) :
    name.toUTF8.data.toList = name.toList.flatMap String.utf8EncodeChar := by
  rw [String.toUTF8_eq_toByteArray, ← String.utf8Encode_toList, List.utf8Encode,
    List.toList_data_toByteArray]

/-! ## Bytes that are allowed -/

section
variable {b : UInt8}

theorem isHead_iff : isHead b = true ↔ 97 ≤ b.toNat ∧ b.toNat ≤ 122 := by
  rw [isHead, Bool.and_eq_true, decide_eq_true_eq, decide_eq_true_eq, UInt8.le_iff_toNat_le,
    UInt8.le_iff_toNat_le]
  rfl

theorem isTail_iff :
    isTail b = true ↔
      (97 ≤ b.toNat ∧ b.toNat ≤ 122) ∨ (48 ≤ b.toNat ∧ b.toNat ≤ 57) ∨ b.toNat = 45 := by
  rw [isTail, Bool.or_eq_true, Bool.or_eq_true, Bool.and_eq_true, decide_eq_true_eq,
    decide_eq_true_eq, UInt8.le_iff_toNat_le, UInt8.le_iff_toNat_le, beq_iff_eq, isHead_iff,
    ← UInt8.toNat_inj, or_assoc]
  rfl

end

section
variable {c : Char}

/-- The bytes of a character can go on a name if the character can. -/
theorem all_isTail_iff : (String.utf8EncodeChar c).all isTail = true ↔ IsNameChar c := by
  rw [isNameChar_iff]
  rcases Nat.lt_or_ge c.toNat 128 with hascii | hlarge
  · rw [utf8EncodeChar_of_ascii hascii, List.all_cons, List.all_nil, Bool.and_true, isTail_iff,
      toNat_ofNat_ascii hascii]
  · obtain ⟨b, bs, hbytes, hb⟩ := exists_utf8EncodeChar hlarge
    rw [hbytes, List.all_cons, Bool.and_eq_true, isTail_iff]
    constructor
    · rintro ⟨hlead, -⟩
      omega
    · omega

/-- They can begin a name if the character is a letter. -/
theorem exists_isHead_iff (c : Char) :
    ∃ b bs, String.utf8EncodeChar c = b :: bs ∧
      (isHead b = true ∧ bs.all isTail = true ↔ IsLetter c) := by
  rcases Nat.lt_or_ge c.toNat 128 with hascii | hlarge
  · refine ⟨_, _, utf8EncodeChar_of_ascii hascii, ?_⟩
    rw [isHead_iff, toNat_ofNat_ascii hascii, isLetter_iff]
    exact and_iff_left rfl
  · obtain ⟨b, bs, hbytes, hb⟩ := exists_utf8EncodeChar hlarge
    refine ⟨b, bs, hbytes, ?_⟩
    rw [isHead_iff, isLetter_iff]
    constructor
    · rintro ⟨hlead, -⟩
      omega
    · omega

end

/-! ## Names that pass -/

theorem checkKebab_eq_ok_iff (name : String) : checkKebab name = .ok () ↔ IsKebab name := by
  rw [checkKebab, bytes_eq, IsKebab]
  cases name.toList with
  | nil => exact ⟨nofun, nofun⟩
  | cons c cs =>
    obtain ⟨b, bs, hbytes, hhead⟩ := exists_isHead_iff c
    have hrest : (cs.flatMap String.utf8EncodeChar).all isTail = true ↔ ∀ d ∈ cs, IsNameChar d := by
      rw [List.all_flatMap, List.all_eq_true]
      exact forall₂_congr fun d _ => all_isTail_iff
    have hcheck : (isHead b && (bs ++ cs.flatMap String.utf8EncodeChar).all isTail) = true ↔
        IsLetter c ∧ ∀ d ∈ cs, IsNameChar d := by
      rw [List.all_append, ← Bool.and_assoc, Bool.and_eq_true, Bool.and_eq_true, hhead, hrest]
    rw [List.flatMap_cons, hbytes, List.cons_append]
    constructor
    · intro h
      dsimp only at h
      split at h
      · next hok => exact ⟨c, cs, rfl, hcheck.1 hok⟩
      · cases h
    · rintro ⟨first, rest, hname, hfirst, hall⟩
      obtain ⟨rfl, rfl⟩ := List.cons.inj hname
      exact if_pos (hcheck.2 ⟨hfirst, hall⟩)

theorem checkId_eq_ok_iff (id : String) : checkId id = .ok () ↔ IsKebab id := by
  rw [checkId, mapError_eq_ok_iff, checkKebab_eq_ok_iff]

theorem checkTag_eq_ok_iff (tag : String) :
    checkTag tag = .ok () ↔ IsKebab tag ∧ '-' ∈ tag.toList := by
  have hdash : (if tag.toList.contains '-' then pure () else throw Fault.noDash) =
      Except.ok (ε := Fault) () ↔ '-' ∈ tag.toList := by
    by_cases hmem : '-' ∈ tag.toList
    · exact iff_of_true (if_pos (List.contains_iff_mem.2 hmem)) hmem
    · rw [if_neg fun h => hmem (List.contains_iff_mem.1 h)]
      exact iff_of_false nofun hmem
  rw [checkTag, mapError_eq_ok_iff, checkTagForm, bind_eq_ok_iff, ← checkKebab_eq_ok_iff]
  constructor
  · rintro ⟨⟨⟩, hkebab, h⟩
    exact ⟨hkebab, hdash.1 h⟩
  · rintro ⟨hkebab, hmem⟩
    exact ⟨(), hkebab, hdash.2 hmem⟩

/-! ## The template of a tag -/

theorem toList_ofTag (tag : String) : (ofTag tag).toList = tag.toList ++ "-template".toList :=
  String.toList_append

/-- The template of a tag has a good id if the tag is in kebab case. -/
theorem IsKebab.ofTag {tag : String} (h : IsKebab tag) : IsKebab (ofTag tag) := by
  obtain ⟨first, rest, htag, hfirst, hrest⟩ := h
  have hending : ∀ c ∈ "-template".toList, IsNameChar c := by
    simp [isNameChar_iff]
  refine ⟨first, rest ++ "-template".toList, ?_, hfirst, List.forall_mem_append.2 ⟨hrest, hending⟩⟩
  rw [toList_ofTag, htag, List.cons_append]

theorem ofTag_injective : Function.Injective ofTag := by
  intro s t h
  have hlist := congrArg String.toList h
  rw [toList_ofTag, toList_ofTag, List.append_left_inj] at hlist
  exact String.toList_injective hlist

/-- A template that is registered under the free id of a tag is the one that the tag gets. -/
theorem instantiate_registered {r : Registry} {t : Template} {tag : String} (hgood : IsId t.id)
    (hid : t.id = ofTag tag) (hfree : r.contains t.id = false) :
    ∃ r', r.register t = .ok (true, r') ∧ r'.instantiate none tag = .ok t.content := by
  have hregister : r.register t = .ok (true, ⟨r.templates.insert t.id t⟩) := by
    rw [Registry.register_of_isId hgood, hfree]
    rfl
  have hfound : (⟨r.templates.insert t.id t⟩ : Registry).get? (ofTag tag) = some t := by
    rw [← hid]
    exact FieldMap.get?_insert_self _ _ _
  refine ⟨_, hregister, ?_⟩
  rw [Registry.instantiate]
  dsimp only [Option.getD_none]
  rw [hfound]

/-- Ids are the names in kebab case, and tags those with a dash. For every tag a template can be
registered whose id is derived from it, as long as none has been, and the tag gets this template.
Another tag has another id. -/
theorem tag_names_template (s : String) :
    (checkId s = .ok () ↔ IsKebab s) ∧
    (checkTag s = .ok () ↔ IsKebab s ∧ '-' ∈ s.toList) ∧
    (checkTag s = .ok () →
      (∀ (r : Registry) (t : Template), t.id = ofTag s → r.contains (ofTag s) = false →
        ∃ r', r.register t = .ok (true, r') ∧ r'.instantiate none s = .ok t.content) ∧
      ∀ s', checkTag s' = .ok () → s' ≠ s → ofTag s' ≠ ofTag s) := by
  refine ⟨checkId_eq_ok_iff s, checkTag_eq_ok_iff s, fun htag => ⟨?_, ?_⟩⟩
  · intro r t hid hfree
    have hkebab : IsKebab (ofTag s) := ((checkTag_eq_ok_iff s).1 htag).1.ofTag
    have hgood : IsId t.id := by
      rw [hid]
      exact (checkId_eq_ok_iff _).2 hkebab
    rw [← hid] at hfree
    exact instantiate_registered hgood hid hfree
  · intro s' _ hne
    exact ofTag_injective.ne hne

/-- A tag that ends in its dash, beside the template of a tag with one dash more. -/
theorem tag_names_template_dashes :
    ∃ (r : Registry) (t : Template), checkTag "a-" = .ok () ∧ checkTag "a--" = .ok () ∧
      t.id = "a--template" ∧ r.ids = ["a---template"] ∧
      (∃ r', r.register t = .ok (true, r') ∧ r'.instantiate none "a-" = .ok [.text "new"]) ∧
      ofTag "a--" ≠ ofTag "a-" := by
  have htag : checkTag "a-" = .ok () := rfl
  have hother : checkTag "a--" = .ok () := rfl
  obtain ⟨-, -, htemplate⟩ := tag_names_template "a-"
  obtain ⟨hregister, hinjective⟩ := htemplate htag
  refine ⟨⟨.ofList [("a---template", ⟨"a---template", [.text "old"]⟩)]⟩,
    ⟨"a--template", [.text "new"]⟩, htag, hother, rfl, by decide +kernel, ?_, ?_⟩
  · exact hregister _ _ (by decide +kernel) (by decide +kernel)
  · exact hinjective "a--" hother (by decide +kernel)

end PostSlots.TemplateName
