import PostSlots.Proofs.Url.Base
import PostSlots.Proofs.Url.Form

/-!
# Plain web addresses

A web address is plain if its host is made of lower-case letters and points, and if the segments of
its path hold only characters about which nothing has to be done. It is read without a fault, and
the host and the segments stay as they are. Slashes between segments can be repeated, and what
follows a question mark or a number sign has no part in either.

Results:
1. `Host.readSpecial_of_labels`: a host of letters stays as it is.
2. `filter_readPathStart`: but for empty ones, the segments of a path are the texts between slashes.
3. `parse_plain`: a plain web address is read, with its host and the segments of its path.
-/

namespace PostSlots.Url

/-! ## Characters -/

/-- Letters, digits and the marks that stand for themselves in a host or a path. -/
def isPlainChar (c : Char) : Bool :=
  c.isAlphanum || c == '-' || c == '.' || c == '_' || c == '~' || c == ':'

/-- A character that no reader strips, cuts at, or decodes. -/
structure IsInert (c : Char) : Prop where
  visible : ' ' < c
  not_blank : Text.isBlank c = false
  not_slash : isSlash true c = false
  not_end : endsPath c = false
  not_encoded : inPathSet c = false
  not_percent : c ≠ '%'
  lower_percent : c.toLower ≠ '%'
  lower_point : c.toLower = '.' → c = '.'

/-- A character of a host that stays as it is and is no part of the marks around a host. -/
structure IsHostChar (c : Char) : Prop where
  inert : IsInert c
  isAscii : Idna.isAscii c = true
  toLower : c.toLower = c
  allowed : Host.isForbiddenInDomain c = false
  not_digit : c.isDigit = false
  not_decimal : Ipv4.isDigitIn 10 c = false
  not_colon : c ≠ ':'
  not_at : c ≠ '@'
  not_bracket : c ≠ '['

theorem isAlphanum_of_isLower {c : Char} (h : c.isLower = true) : c.isAlphanum = true :=
  Bool.or_eq_true_iff.2 (.inl (Bool.or_eq_true_iff.2 (.inr h)))

theorem toNat_lt_of_isAlphanum {c : Char} (h : c.isAlphanum = true) : c.toNat < 128 := by
  have hbound {d : Char} (hd : d.val.toNat < 128) (hle : c.val ≤ d.val) : c.toNat < 128 :=
    Nat.lt_of_le_of_lt (UInt32.le_iff_toNat_le.1 hle) hd
  rcases Bool.or_eq_true_iff.1 h with halpha | hdigit
  · rcases Bool.or_eq_true_iff.1 halpha with hupper | hlower
    · exact hbound (by decide) (of_decide_eq_true hupper).2
    · exact hbound (by decide) (of_decide_eq_true (Bool.and_eq_true_iff.1 hlower).2)
  · exact hbound (by decide) (of_decide_eq_true (Bool.and_eq_true_iff.1 hdigit).2)

theorem IsInert.of_isPlainChar {c : Char} (h : isPlainChar c = true) : IsInert c := by
  have hcodes : ∀ n < 128, isPlainChar (Char.ofNat n) = true →
      ' ' < Char.ofNat n ∧ Text.isBlank (Char.ofNat n) = false ∧
      isSlash true (Char.ofNat n) = false ∧ endsPath (Char.ofNat n) = false ∧
      inPathSet (Char.ofNat n) = false ∧ Char.ofNat n ≠ '%' ∧ (Char.ofNat n).toLower ≠ '%' ∧
      ((Char.ofNat n).toLower = '.' → Char.ofNat n = '.') := by
    decide +kernel
  have hlt : c.toNat < 128 := by
    simp only [isPlainChar, Bool.or_eq_true, beq_iff_eq] at h
    rcases h with ((((h | rfl) | rfl) | rfl) | rfl) | rfl
    · exact toNat_lt_of_isAlphanum h
    all_goals decide
  have hc := hcodes c.toNat hlt
  rw [Char.ofNat_toNat] at hc
  obtain ⟨hvisible, hblank, hslash, hend, hencoded, hpercent, hlower, hpoint⟩ := hc h
  exact ⟨hvisible, hblank, hslash, hend, hencoded, hpercent, hlower, hpoint⟩

theorem IsHostChar.of_isLower {c : Char} (h : c.isLower = true ∨ c = '.') : IsHostChar c := by
  have hcodes : ∀ n < 128, ((Char.ofNat n).isLower = true ∨ Char.ofNat n = '.') →
      isPlainChar (Char.ofNat n) = true ∧ Idna.isAscii (Char.ofNat n) = true ∧
      (Char.ofNat n).toLower = Char.ofNat n ∧
      Host.isForbiddenInDomain (Char.ofNat n) = false ∧ (Char.ofNat n).isDigit = false ∧
      Ipv4.isDigitIn 10 (Char.ofNat n) = false ∧ Char.ofNat n ≠ ':' ∧ Char.ofNat n ≠ '@' ∧
      Char.ofNat n ≠ '[' := by
    decide +kernel
  have hlt : c.toNat < 128 := by
    rcases h with h | rfl
    · exact toNat_lt_of_isAlphanum (isAlphanum_of_isLower h)
    · decide
  have hc := hcodes c.toNat hlt
  rw [Char.ofNat_toNat] at hc
  obtain ⟨hplain, hascii, hlower, hallowed, hdigit, hdecimal, hcolon, hat, hbracket⟩ := hc h
  exact ⟨.of_isPlainChar hplain, hascii, hlower, hallowed, hdigit, hdecimal, hcolon, hat, hbracket⟩

/-! ## Hosts -/

/-- A label of lower-case letters. -/
structure IsLabel (label : List Char) : Prop where
  ne_nil : label ≠ []
  isLower : ∀ c ∈ label, c.isLower = true

instance (label : List Char) : Decidable (IsLabel label) :=
  decidable_of_iff ((!label.isEmpty && label.all Char.isLower) = true) <| by
    rw [Bool.and_eq_true, Bool.not_eq_true', List.isEmpty_eq_false_iff, List.all_eq_true]
    exact ⟨fun h => ⟨h.1, h.2⟩, fun h => ⟨h.ne_nil, h.isLower⟩⟩

/-- Labels with points between them. -/
def hostOf (labels : List (List Char)) : List Char := ['.'].intercalate labels

section
variable {labels : List (List Char)}

theorem isHostChar_hostOf (hlabels : ∀ label ∈ labels, IsLabel label) :
    ∀ c ∈ hostOf labels, IsHostChar c := by
  have hletters {label : List Char} (h : IsLabel label) : ∀ c ∈ label, IsHostChar c :=
    fun c hc => .of_isLower (.inl (h.isLower c hc))
  induction labels with
  | nil => exact fun c hc => absurd hc List.not_mem_nil
  | cons label labels ih =>
    obtain ⟨hlabel, hrest⟩ := List.forall_mem_cons.1 hlabels
    cases labels with
    | nil =>
      rw [hostOf, List.intercalate_singleton]
      exact hletters hlabel
    | cons next labels =>
      rw [hostOf, List.intercalate_cons_cons]
      intro c hc
      rcases List.mem_append.1 hc with hc | hc
      · rcases List.mem_append.1 hc with hc | hc
        · exact hletters hlabel c hc
        · exact .of_isLower (.inr (List.mem_singleton.1 hc))
      · exact ih hrest c hc

theorem cut_hostOf (hne : labels ≠ []) (hlabels : ∀ label ∈ labels, IsLabel label) :
    Text.cut (· == '.') (hostOf labels) = labels := by
  refine Text.cut_intercalate hne fun label hlabel hmem => ?_
  exact absurd ((hlabels label hlabel).isLower '.' hmem) (by decide)

theorem hostOf_ne_nil (hne : labels ≠ []) (hlabels : ∀ label ∈ labels, IsLabel label) :
    hostOf labels ≠ [] := by
  intro hnil
  have hcut := cut_hostOf hne hlabels
  rw [hnil] at hcut
  have hempty : [] ∈ labels := by
    rw [← hcut]
    exact List.mem_singleton_self _
  exact (hlabels [] hempty).ne_nil rfl

/-- Labels of letters need no encoding, and none of them is encoded. -/
theorem toAscii?_hostOf (hne : labels ≠ []) (hlabels : ∀ label ∈ labels, IsLabel label) :
    Idna.toAscii? (hostOf labels) = some (hostOf labels) := by
  have hchars := isHostChar_hostOf hlabels
  have hlower : (hostOf labels).map Char.toLower = hostOf labels := by
    rw [List.map_congr_left fun c hc => (hchars c hc).toLower, List.map_id']
  have hunmarked : labels.any Idna.encodedMark.isPrefixOf = false := by
    refine List.any_eq_false.2 fun label hlabel hmark => ?_
    have hhyphen : '-' ∈ label := (List.isPrefixOf_iff_prefix.1 hmark).subset (by decide)
    exact absurd ((hlabels label hlabel).isLower '-' hhyphen) (by decide)
  have hplain : Idna.isPlain (hostOf labels) = true := by
    rw [Idna.isPlain, hlower, cut_hostOf hne hlabels, hunmarked,
      List.all_eq_true.2 fun c hc => (hchars c hc).isAscii]
    rfl
  rw [Idna.toAscii?, if_pos hplain, hlower]

/-- What starts with a lower-case letter is no decimal number. -/
theorem readPart_of_isLower {c : Char} (hc : c.isLower = true) (cs : List Char) :
    Ipv4.readPart (c :: cs) = .notNumber := by
  have hzero : c ≠ '0' := by
    rintro rfl
    exact absurd hc (by decide)
  have hread : Ipv4.readPart (c :: cs) = Ipv4.numberIn 10 (c :: cs) := by
    unfold Ipv4.readPart
    split <;> simp_all
  rw [hread, Ipv4.numberIn, List.all_cons, (IsHostChar.of_isLower (.inl hc)).not_decimal]
  rfl

/-- A name whose last label is made of letters is no address. -/
theorem endsInNumber_hostOf (hne : labels ≠ []) (hlabels : ∀ label ∈ labels, IsLabel label) :
    Ipv4.endsInNumber (hostOf labels) = false := by
  obtain ⟨before, last, rfl⟩ := List.eq_nil_or_concat labels |>.resolve_left hne
  have hlast : IsLabel last := hlabels last (by simp)
  obtain ⟨c, cs, rfl⟩ := List.exists_cons_of_ne_nil hlast.ne_nil
  have hc := hlast.isLower c List.mem_cons_self
  have hparts : Ipv4.parts (hostOf (before.concat (c :: cs))) = before.concat (c :: cs) := by
    rw [Ipv4.parts, cut_hostOf hne hlabels]
    simp
  have hdigit := (IsHostChar.of_isLower (.inl hc)).not_digit
  rw [Ipv4.endsInNumber, hparts, List.concat_eq_append, List.getLast?_concat]
  simp [hdigit, readPart_of_isLower hc]

theorem percentDecode_of_notMem {cs : List Char} (h : '%' ∉ cs) :
    percentDecode cs = cs.flatMap String.utf8EncodeChar := by
  induction cs with
  | nil => rfl
  | cons c cs ih =>
    obtain ⟨hc, hcs⟩ := List.ne_and_not_mem_of_not_mem_cons h
    rw [percentDecode_cons hc.symm, List.flatMap_cons, ih hcs]

/-- A host of letters stays as it is. -/
theorem Host.readSpecial_of_labels (hne : labels ≠ []) (hlabels : ∀ label ∈ labels, IsLabel label) :
    readSpecial (hostOf labels) = .ok (.name (String.ofList (hostOf labels))) := by
  have hchars := isHostChar_hostOf hlabels
  have hbracket : (hostOf labels).head? ≠ some '[' := fun h =>
    (hchars '[' (List.mem_of_head? h)).not_bracket rfl
  have hpercent : '%' ∉ hostOf labels := fun h => (hchars '%' h).inert.not_percent rfl
  have hallowed : (hostOf labels).any isForbiddenInDomain = false :=
    List.any_eq_false.2 fun c hc => by simp [(hchars c hc).allowed]
  rw [readSpecial, if_neg (by simpa using hbracket), percentDecode_of_notMem hpercent,
    utf8Text?_bytes, Option.bind_some, toAscii?_hostOf hne hlabels]
  simp [hallowed, hostOf_ne_nil hne hlabels, endsInNumber_hostOf hne hlabels]

end

/-! ## Authorities -/

/-- A text that ends an authority: it is empty or starts with a slash or with a mark that ends the
path. -/
def EndsAuthority (rest : List Char) : Prop :=
  ∀ c, rest.head? = some c → inAuthority true c = false

theorem inAuthority_of_inert {c : Char} (hc : IsInert c) : inAuthority true c = true := by
  rw [inAuthority, hc.not_slash, hc.not_end]
  rfl

theorem splitUser?_of_notMem {cs : List Char} (h : '@' ∉ cs) : splitUser? cs = none := by
  have hdrop : cs.reverse.dropWhile (· != '@') = [] := by
    refine List.dropWhile_eq_nil_iff.2 fun c hc => bne_iff_ne.2 ?_
    rintro rfl
    exact h (List.mem_reverse.1 hc)
  rw [splitUser?, hdrop]

/-- A text up to the first character that stops it, and what stands behind. -/
theorem span_eq {p : Char → Bool} {cs rest : List Char} (hcs : ∀ c ∈ cs, p c = true)
    (hrest : ∀ c, rest.head? = some c → p c = false) :
    (cs ++ rest).takeWhile p = cs ∧ (cs ++ rest).dropWhile p = rest := by
  rw [List.takeWhile_append_of_pos hcs, List.dropWhile_append_of_pos hcs,
    Text.dropWhile_of_head? hrest]
  refine ⟨?_, rfl⟩
  cases rest with
  | nil => simp
  | cons c rest => simp [hrest c rfl]

section
variable {host rest : List Char}

theorem takeWhile_host (hhost : ∀ c ∈ host, IsHostChar c) (hrest : EndsAuthority rest) :
    (host ++ rest).takeWhile (inAuthority true) = host ∧
      (host ++ rest).dropWhile (inAuthority true) = rest :=
  span_eq (fun c hc => inAuthority_of_inert (hhost c hc).inert) hrest

theorem splitHost_host (hhost : ∀ c ∈ host, IsHostChar c) (hrest : EndsAuthority rest) :
    splitHost true false (host ++ rest) = (host, rest) := by
  induction host with
  | nil =>
    cases rest with
    | nil => rfl
    | cons c cs =>
      have hc := hrest c rfl
      rw [inAuthority, Bool.not_eq_false'] at hc
      rw [List.nil_append, splitHost, if_pos (by rw [Bool.or_assoc, hc, Bool.or_true])]
  | cons c host ih =>
    obtain ⟨hc, hhost⟩ := List.forall_mem_cons.1 hhost
    have hnot : ¬(((c == ':' && !false) || isSlash true c || endsPath c) = true) := by
      simp [hc.not_colon, hc.inert.not_slash, hc.inert.not_end]
    have hopen : (c == '[' || (false && c != ']')) = false := by simp [hc.not_bracket]
    rw [List.cons_append, splitHost, if_neg hnot, hopen, ih hhost]

theorem readPortBehind_rest (scheme : String) (hrest : EndsAuthority rest) :
    readPortBehind scheme rest = pure (none, rest) := by
  cases rest with
  | nil => rfl
  | cons c cs =>
    refine readPortBehind_of_ne scheme cs ?_
    rintro rfl
    exact absurd (hrest ':' rfl) (by decide)

/-- Behind a host without user and port stands the path. -/
theorem readAuthority_host {name : Host} (hne : host ≠ []) (hhost : ∀ c ∈ host, IsHostChar c)
    (hread : Host.readSpecial host = .ok name) (hrest : EndsAuthority rest) :
    readAuthority "https" (host ++ rest) =
      .ok (withTail "https" (some ⟨"", "", some name, none⟩)
        (.segments (readPathStart "https" (rest.takeWhile fun c => !endsPath c)))
        (rest.dropWhile fun c => !endsPath c)) := by
  have hspecial : isSpecial "https" = true := rfl
  obtain ⟨htake, hdrop⟩ := takeWhile_host hhost hrest
  have hplace : splitPlace host = (none, host) := by
    rw [splitPlace, splitUser?_of_notMem fun h => (hhost '@' h).not_at rfl]
  have hname : readHost "https" host rest = .ok (some name) := by
    rw [readHost, if_neg (by simpa using hne), if_pos hspecial, hread]
    rfl
  rw [readAuthority_eq, hspecial, htake, hdrop, hplace]
  dsimp only
  rw [if_neg (by simp), readPlace, hspecial, splitHost_host hhost hrest]
  dsimp only
  rw [hname]
  change (readPortBehind "https" rest >>= fun parts => authorityUrl "https" none (some name) parts.1
    parts.2) = _
  rw [readPortBehind_rest "https" hrest]
  rfl

end

/-! ## Paths -/

/-- A segment that stays as it is. -/
structure IsSegment (name : List Char) : Prop where
  ne_nil : name ≠ []
  plain : ∀ c ∈ name, isPlainChar c = true
  not_point : name ≠ ['.']
  not_points : name ≠ ['.', '.']

instance (name : List Char) : Decidable (IsSegment name) :=
  decidable_of_iff
    ((!name.isEmpty && name.all isPlainChar && name != ['.'] && name != ['.', '.']) = true) <| by
    simp only [Bool.and_eq_true, Bool.not_eq_true', List.isEmpty_eq_false_iff, List.all_eq_true,
      bne_iff_ne]
    exact ⟨fun h => ⟨h.1.1.1, h.1.1.2, h.1.2, h.2⟩,
      fun h => ⟨⟨⟨h.ne_nil, h.plain⟩, h.not_point⟩, h.not_points⟩⟩

/-- Segments, each behind a slash and a number of needless ones, and slashes behind the last. -/
def pathOf (pieces : List (Nat × String)) (trailing : Nat) : List Char :=
  pieces.flatMap (fun piece => List.replicate (piece.1 + 1) '/' ++ piece.2.toList) ++
    List.replicate trailing '/'

theorem percentEncode_of_inert {cs : List Char} (h : ∀ c ∈ cs, IsInert c) :
    percentEncode inPathSet cs = cs := by
  induction cs with
  | nil => rfl
  | cons c cs ih =>
    obtain ⟨hc, hcs⟩ := List.forall_mem_cons.1 h
    rw [percentEncode] at ih ⊢
    rw [List.flatMap_cons, ih hcs, if_neg (by simp [hc.not_encoded]), List.singleton_append]

namespace IsSegment

variable {name : List Char}

theorem inert (h : IsSegment name) : ∀ c ∈ name, IsInert c :=
  fun c hc => .of_isPlainChar (h.plain c hc)

/-- No character is lowered to a percent sign, so that the encoded points are no spellings of it. -/
theorem percent_notMem (h : IsSegment name) : '%' ∉ name.map Char.toLower := by
  intro hmem
  obtain ⟨c, hc, hlower⟩ := List.mem_map.1 hmem
  exact (h.inert c hc).lower_percent hlower

theorem isDot (h : IsSegment name) : isDot name = false := by
  refine decide_eq_false fun hmem => ?_
  rcases List.mem_cons.1 hmem with heq | hmem
  · obtain ⟨c, rfl, hc⟩ := List.map_eq_singleton_iff.1 heq
    rw [(h.inert c List.mem_cons_self).lower_point hc] at h
    exact h.not_point rfl
  · refine h.percent_notMem ?_
    rw [List.mem_singleton.1 hmem]
    decide

theorem isDoubleDot (h : IsSegment name) : isDoubleDot name = false := by
  refine decide_eq_false fun hmem => ?_
  rcases List.mem_cons.1 hmem with heq | hmem
  · obtain ⟨c, cs, rfl, hc, hcs⟩ := List.map_eq_cons_iff.1 heq
    obtain ⟨d, rfl, hd⟩ := List.map_eq_singleton_iff.1 hcs
    have hcd := h.not_points
    rw [(h.inert c (by simp)).lower_point hc, (h.inert d (by simp)).lower_point hd] at hcd
    exact hcd rfl
  · refine h.percent_notMem ?_
    simp only [List.mem_cons, List.not_mem_nil, or_false] at hmem
    rcases hmem with hmem | hmem | hmem
    all_goals rw [hmem]; decide

theorem percentEncode_eq (h : IsSegment name) : percentEncode inPathSet name = name :=
  percentEncode_of_inert h.inert

end IsSegment

/-- Segments that stay as they are are appended to a path. -/
theorem extendPath_of_plain {segments : List (List Char)}
    (h : ∀ segment ∈ segments, segment = [] ∨ IsSegment segment) (names : List String) :
    extendPath false names segments = names ++ segments.map String.ofList := by
  have hstay {segment : List Char} (hsegment : segment = [] ∨ IsSegment segment) :
      isDoubleDot segment = false ∧ isDot segment = false ∧
        ∀ names, normalName false names segment = String.ofList segment := by
    rcases hsegment with rfl | hsegment
    · exact ⟨rfl, rfl, fun names => rfl⟩
    · refine ⟨hsegment.isDoubleDot, hsegment.isDot, fun names => ?_⟩
      simp [normalName, hsegment.percentEncode_eq]
  induction segments generalizing names with
  | nil => simp [extendPath]
  | cons segment segments ih =>
    obtain ⟨hsegment, hrest⟩ := List.forall_mem_cons.1 h
    obtain ⟨hup, hdot, hname⟩ := hstay hsegment
    cases segments with
    | nil => simp [extendPath, hup, hdot, hname]
    | cons next segments =>
      rw [extendPath, if_neg (by simp [hup]), if_neg (by simp [hdot]), hname, ih hrest]
      · simp
      · simp

/-- But for empty ones, the segments of a path are the texts between slashes. -/
theorem filter_readPathStart {path : List Char} (hstart : ∀ c, path.head? = some c → c = '/')
    (hsegments : ∀ name ∈ Text.tokens (isSlash true) path, IsSegment name) :
    (readPathStart "https" path).filter (fun name => !name.isEmpty) =
      (Text.tokens (isSlash true) path).map String.ofList := by
  cases path with
  | nil => rfl
  | cons c cs =>
    obtain rfl := hstart c rfl
    rw [Text.tokens_cons_sep (by decide)] at hsegments ⊢
    have hread : readPathStart "https" ('/' :: cs) =
        extendPath false [] (Text.cut (isSlash true) cs) := rfl
    have hpieces : ∀ piece ∈ Text.cut (isSlash true) cs, piece = [] ∨ IsSegment piece := by
      intro piece hpiece
      by_cases hne : piece = []
      · exact .inl hne
      · exact .inr (hsegments piece (List.mem_filter.2 ⟨hpiece, by simpa using hne⟩))
    rw [hread, extendPath_of_plain hpieces, List.nil_append, List.filter_map, Text.tokens]
    congr 1
    refine List.filter_congr fun piece _ => ?_
    have hempty : (String.ofList piece).isEmpty = piece.isEmpty := by
      rw [Bool.eq_iff_iff, String.isEmpty_iff, List.isEmpty_iff]
      simp
    rw [Function.comp_apply, hempty]

section
variable {pieces : List (Nat × String)}

theorem tokens_slashes (n : Nat) (cs : List Char) :
    Text.tokens (isSlash true) (List.replicate n '/' ++ cs) = Text.tokens (isSlash true) cs := by
  induction n with
  | zero => rfl
  | succ n ih =>
    rw [List.replicate_succ, List.cons_append, Text.tokens_cons_sep (by decide), ih]

theorem head?_pathOf (pieces : List (Nat × String)) (trailing : Nat) :
    ∀ c, (pathOf pieces trailing).head? = some c → c = '/' := by
  intro c hc
  cases pieces with
  | nil =>
    cases trailing with
    | zero => cases hc
    | succ n => cases hc; rfl
  | cons piece pieces => cases hc; rfl

/-- The texts between the slashes of a path are its segments. -/
theorem tokens_pathOf (hpieces : ∀ piece ∈ pieces, IsSegment piece.2.toList) (trailing : Nat) :
    Text.tokens (isSlash true) (pathOf pieces trailing) =
      pieces.map fun piece => piece.2.toList := by
  induction pieces with
  | nil =>
    have hslashes := tokens_slashes trailing []
    rw [List.append_nil] at hslashes
    exact hslashes
  | cons piece pieces ih =>
    obtain ⟨hpiece, hrest⟩ := List.forall_mem_cons.1 hpieces
    have hcons : pathOf (piece :: pieces) trailing =
        List.replicate (piece.1 + 1) '/' ++ (piece.2.toList ++ pathOf pieces trailing) := by
      simp [pathOf]
    have hstop : ∀ c, (pathOf pieces trailing).head? = some c → isSlash true c = true := by
      intro c hc
      rw [head?_pathOf pieces trailing c hc]
      rfl
    rw [hcons, tokens_slashes, Text.tokens_append_piece hpiece.ne_nil
      (fun c hc => (hpiece.inert c hc).not_slash) hstop, ih hrest]
    rfl

theorem mem_pathOf {trailing : Nat} {c : Char} (hc : c ∈ pathOf pieces trailing) :
    c = '/' ∨ ∃ piece ∈ pieces, c ∈ piece.2.toList := by
  rcases List.mem_append.1 hc with hc | hc
  · obtain ⟨piece, hpiece, hc⟩ := List.mem_flatMap.1 hc
    rcases List.mem_append.1 hc with hc | hc
    · exact .inl (List.eq_of_mem_replicate hc)
    · exact .inr ⟨piece, hpiece, hc⟩
  · exact .inl (List.eq_of_mem_replicate hc)

end

/-! ## Whole addresses -/

/-- Nothing is stripped off a text of visible characters. -/
theorem cleaned_of_visible {text : String} (h : IsVisible text.toList) :
    cleaned text = text.toList := by
  have hstay : ∀ c ∈ text.toList, decide (c ≤ ' ') = false := fun c hc => not_blank (h c hc)
  have htrim : Text.trimWhile (· ≤ ' ') text.toList = text.toList := by
    rw [Text.trimWhile, Text.dropWhile_of_head? fun c hc => hstay c (List.mem_of_head? hc),
      Text.dropEndWhile_of_getLast? fun c hc => hstay c (List.mem_of_getLast? hc)]
  rw [cleaned, htrim, List.filter_eq_self]
  exact fun c hc => isKept_of_visible (h c hc)

/-- The marks in front of the host of a web address. -/
def webMark : List Char := ['h', 't', 't', 'p', 's', ':', '/', '/']

section
variable {labels : List (List Char)} {pieces : List (Nat × String)} {tail : List Char}

/-- Only the host and what follows it are left to read behind the scheme. -/
theorem parse_web {cs : List Char} (hcs : IsVisible cs)
    (hhead : ∀ c, cs.head? = some c → isSlash true c = false) :
    parse (String.ofList (webMark ++ cs)) = readAuthority "https" cs := by
  have hmark : IsVisible webMark := .of_all (by decide)
  have hvisible : IsVisible (String.ofList (webMark ++ cs)).toList := by
    rw [String.toList_ofList]
    intro c hc
    rcases List.mem_append.1 hc with hc | hc
    · exact hmark c hc
    · exact hcs c hc
  have hscheme : splitScheme? (webMark ++ cs) = some ("https", '/' :: '/' :: cs) := rfl
  have hslashes : ('/' :: '/' :: cs).dropWhile (isSlash true) = cs := by
    rw [List.dropWhile_cons_of_pos (by decide), List.dropWhile_cons_of_pos (by decide),
      Text.dropWhile_of_head? hhead]
  have habsolute : readAbsolute "https" ('/' :: '/' :: cs) =
      readAuthority "https" (('/' :: '/' :: cs).dropWhile (isSlash true)) := rfl
  rw [parse, cleaned_of_visible hvisible, String.toList_ofList, hscheme]
  dsimp only
  rw [habsolute, hslashes]

/-- The path of a plain address ends where the query or the fragment starts. -/
theorem inert_or_slash (hpieces : ∀ piece ∈ pieces, IsSegment piece.2.toList) (trailing : Nat) :
    ∀ c ∈ pathOf pieces trailing, ' ' < c ∧ endsPath c = false := by
  intro c hc
  rcases mem_pathOf hc with rfl | ⟨piece, hpiece, hc⟩
  · decide
  · have hinert := (hpieces piece hpiece).inert c hc
    exact ⟨hinert.visible, hinert.not_end⟩

/-- A plain web address is read, with its host and the segments of its path. -/
theorem parse_plain (hne : labels ≠ []) (hlabels : ∀ label ∈ labels, IsLabel label)
    (hpieces : ∀ piece ∈ pieces, IsSegment piece.2.toList) (trailing : Nat)
    (htail : ∀ c, tail.head? = some c → endsPath c = true) (hvisible : IsVisible tail) :
    ∃ url, parse (String.ofList
        (webMark ++ (hostOf labels ++ (pathOf pieces trailing ++ tail)))) = .ok url ∧
      url.host? = some (String.ofList (hostOf labels)) ∧
      url.segments.filter (fun name => !name.isEmpty) = pieces.map Prod.snd := by
  have hhost := isHostChar_hostOf hlabels
  have hhostne := hostOf_ne_nil hne hlabels
  have hpath := inert_or_slash hpieces trailing
  have hvisible : IsVisible (hostOf labels ++ (pathOf pieces trailing ++ tail)) := by
    intro c hc
    simp only [List.mem_append] at hc
    rcases hc with hc | hc | hc
    · exact (hhost c hc).inert.visible
    · exact (hpath c hc).1
    · exact hvisible c hc
  have hhead : ∀ c, (hostOf labels ++ (pathOf pieces trailing ++ tail)).head? = some c →
      isSlash true c = false := by
    obtain ⟨d, ds, hds⟩ := List.exists_cons_of_ne_nil hhostne
    intro c hc
    rw [hds] at hc
    cases hc
    exact (hhost d (hds ▸ List.mem_cons_self)).inert.not_slash
  have hends : EndsAuthority (pathOf pieces trailing ++ tail) := by
    intro c hc
    rw [List.head?_append, Option.or_eq_some_iff] at hc
    rcases hc with hc | ⟨-, hc⟩
    · rw [head?_pathOf pieces trailing c hc]
      rfl
    · rw [inAuthority, htail c hc, Bool.or_true]
      rfl
  obtain ⟨htake, -⟩ := span_eq (p := fun c => !endsPath c)
    (fun c hc => by rw [(hpath c hc).2]; rfl) (fun c hc => by rw [htail c hc]; rfl)
  have hread := readAuthority_host hhostne hhost (Host.readSpecial_of_labels hne hlabels) hends
  rw [htake] at hread
  refine ⟨_, (parse_web hvisible hhead).trans hread, ?_, ?_⟩
  · change some (String.ofList (String.ofList (hostOf labels)).toList) = _
    rw [String.ofList_toList]
  · have htokens := tokens_pathOf hpieces trailing
    change (readPathStart "https" (pathOf pieces trailing)).filter _ = _
    rw [filter_readPathStart (head?_pathOf pieces trailing), htokens, List.map_map]
    · exact List.map_congr_left fun piece _ => String.ofList_toList
    · rw [htokens]
      intro name hname
      obtain ⟨piece, hpiece, rfl⟩ := List.mem_map.1 hname
      exact hpieces piece hpiece

end

end PostSlots.Url
