import Mathlib.Data.List.TakeWhile
import PostSlots.Url.Reader

/-!
# Addresses below a base

Requests append the name of a method to one base. Whether the whole is a URL does not depend on
the name: a scheme, a user, a host and a port can only go wrong in front of the slash that the
name follows. Nor has the URL a query or a fragment, unless the base brings one.

Two readings are compared step by step. What is left to read is always the same text, a slash, and
one of the two names.

Results:
1. `Agree.bind`: results that agree, taken further in the same way, agree.
2. `readAuthority_agree`, `readFile_agree`, `readAbsolute_agree`: what parts behind a slash is read
   with the same fault or without one, and has neither query nor fragment.
3. `parse_agree`: the same for whole texts.
-/

namespace PostSlots.Url

/-! ## Results that agree -/

section

variable {α β γ δ : Type} {R : α → β → Prop} {S : γ → δ → Prop}

/-- The same fault, or related values. -/
inductive Agree (R : α → β → Prop) : Except Fault α → Except Fault β → Prop where
  | ok {a : α} {b : β} (h : R a b) : Agree R (.ok a) (.ok b)
  | error (fault : Fault) : Agree R (.error fault) (.error fault)

theorem Agree.bind {x : Except Fault α} {y : Except Fault β} {f : α → Except Fault γ}
    {g : β → Except Fault δ} (hxy : Agree R x y) (hfg : ∀ a b, R a b → Agree S (f a) (g b)) :
    Agree S (x >>= f) (y >>= g) := by
  cases hxy with
  | ok h => exact hfg _ _ h
  | error fault => exact .error fault

theorem Agree.refl (x : Except Fault α) : Agree Eq x x := by
  cases x with
  | ok a => exact .ok rfl
  | error fault => exact .error fault

end

/-- A URL without query and fragment. -/
def IsBare (url : Url) : Prop :=
  url.query = none ∧ url.fragment = none

/-- Neither of two URLs has a query or a fragment. -/
abbrev BothBare (url url' : Url) : Prop :=
  url.IsBare ∧ url'.IsBare

/-! ## Texts that part behind a slash -/

/-- No character begins a query or a fragment. -/
def IsPlain (cs : List Char) : Prop :=
  ∀ c ∈ cs, endsPath c = false

theorem IsPlain.of_all {cs : List Char} (h : cs.all (fun c => !endsPath c) = true) : IsPlain cs :=
  fun c hc => by simpa using List.all_eq_true.1 h c hc

theorem IsPlain.of_ne {cs : List Char} (h : ∀ c ∈ cs, c ≠ '?' ∧ c ≠ '#') : IsPlain cs := by
  intro c hc
  obtain ⟨hquery, hfragment⟩ := h c hc
  simp [endsPath, hquery, hfragment]

theorem IsPlain.of_subset {cs ds : List Char} (hds : IsPlain ds) (h : cs ⊆ ds) : IsPlain cs :=
  fun c hc => hds c (h hc)

theorem IsPlain.append {cs ds : List Char} (hcs : IsPlain cs) (hds : IsPlain ds) :
    IsPlain (cs ++ ds) := by
  intro c hc
  rcases List.mem_append.1 hc with hc | hc
  · exact hcs c hc
  · exact hds c hc

theorem IsPlain.below {cs name : List Char} (hcs : IsPlain cs) (hname : IsPlain name) :
    IsPlain (cs ++ '/' :: name) := by
  refine hcs.append fun c hc => ?_
  rcases List.mem_cons.1 hc with rfl | hc
  · decide
  · exact hname c hc

/-- A plain text is a path to its end. -/
theorem IsPlain.dropWhile {cs : List Char} (hcs : IsPlain cs) :
    cs.dropWhile (fun c => !endsPath c) = [] := by
  rw [List.dropWhile_eq_nil_iff]
  intro c hc
  rw [hcs c hc]
  rfl

theorem IsPlain.takeWhile {cs : List Char} (hcs : IsPlain cs) :
    cs.takeWhile (fun c => !endsPath c) = cs := by
  rw [List.takeWhile_eq_self_iff]
  intro c hc
  rw [hcs c hc]
  rfl

theorem isBare_withTail {scheme : String} {authority : Option Authority} {path : Path}
    {cs : List Char} (hcs : IsPlain cs) :
    (withTail scheme authority path (cs.dropWhile fun c => !endsPath c)).IsBare := by
  rw [hcs.dropWhile]
  exact ⟨rfl, rfl⟩

/-- A host ends in front of the slash at the latest. -/
theorem splitHost_below (special inBrackets : Bool) (cs name : List Char) :
    splitHost special inBrackets (cs ++ '/' :: name) =
      ((splitHost special inBrackets cs).1,
        (splitHost special inBrackets cs).2 ++ '/' :: name) := by
  induction cs generalizing inBrackets with
  | nil => simp [splitHost, isSlash]
  | cons c cs ih =>
    rw [List.cons_append, splitHost, splitHost]
    split
    · rfl
    · rw [ih]

theorem splitHost_subset (special inBrackets : Bool) (cs : List Char) :
    (splitHost special inBrackets cs).2 ⊆ cs := by
  induction cs generalizing inBrackets with
  | nil => exact List.Subset.refl _
  | cons c cs ih =>
    rw [splitHost]
    split
    · exact List.Subset.refl _
    · exact List.subset_cons_of_subset c (ih _)

theorem splitUser?_subset {cs user place : List Char} (h : splitUser? cs = some (user, place)) :
    place ⊆ cs := by
  rw [splitUser?] at h
  split at h
  · cases h
  · cases h
    intro c hc
    exact List.mem_reverse.1 (List.takeWhile_subset _ (List.mem_reverse.1 hc))

/-! ## Reading -/

section

variable {m n : List Char}

/-- Two texts that part behind a slash, where the names begin. -/
def Part (m n : List Char) (rs ss : List Char) : Prop :=
  ∃ cs, IsPlain cs ∧ rs = cs ++ '/' :: m ∧ ss = cs ++ '/' :: n

theorem Part.intro {cs : List Char} (hcs : IsPlain cs) :
    Part m n (cs ++ '/' :: m) (cs ++ '/' :: n) :=
  ⟨cs, hcs, rfl, rfl⟩

theorem head?_below (cs : List Char) :
    (cs ++ '/' :: m).head? = (cs ++ '/' :: n).head? := by
  cases cs <;> rfl

theorem readPort_agree (scheme : String) {cs : List Char} (hcs : IsPlain cs) :
    Agree (fun x y => x.1 = y.1 ∧ Part m n x.2 y.2) (readPort scheme (cs ++ '/' :: m))
      (readPort scheme (cs ++ '/' :: n)) := by
  have hdigit : Char.isDigit '/' = false := by decide
  have hrest : IsPlain (cs.dropWhile Char.isDigit) := hcs.of_subset (List.dropWhile_subset _)
  simp only [readPort, Text.takeWhile_append_stop hdigit, Text.dropWhile_append_stop hdigit,
    head?_below (m := m) (n := n)]
  split
  · exact .error _
  · split
    · exact .error _
    · split
      · exact .ok ⟨rfl, .intro hrest⟩
      · exact .ok ⟨rfl, .intro hrest⟩

theorem readHost_below (scheme : String) (host cs : List Char) :
    readHost scheme host (cs ++ '/' :: m) = readHost scheme host (cs ++ '/' :: n) := by
  rw [readHost, readHost, head?_below]

/-- Reads a port behind a host, if one is there. -/
def readPortBehind (scheme : String) : List Char → Except Fault (Option Nat × List Char)
  | ':' :: cs => readPort scheme cs
  | rest => pure (none, rest)

theorem readPortBehind_of_ne (scheme : String) {c : Char} (cs : List Char) (hc : c ≠ ':') :
    readPortBehind scheme (c :: cs) = pure (none, c :: cs) := by
  rw [readPortBehind]
  intro ds h
  exact hc (List.cons.inj h).1

theorem readPortBehind_agree (scheme : String) {cs : List Char} (hcs : IsPlain cs) :
    Agree (fun x y => x.1 = y.1 ∧ Part m n x.2 y.2) (readPortBehind scheme (cs ++ '/' :: m))
      (readPortBehind scheme (cs ++ '/' :: n)) := by
  cases cs with
  | nil => exact .ok ⟨rfl, .intro hcs⟩
  | cons c cs =>
    by_cases hc : c = ':'
    · subst hc
      exact readPort_agree scheme (hcs.of_subset (List.subset_cons_self _ _))
    · rw [List.cons_append, List.cons_append, readPortBehind_of_ne scheme _ hc,
        readPortBehind_of_ne scheme _ hc]
      exact .ok ⟨rfl, .intro hcs⟩

/-- The user in front of a host, if one is there, and the place. -/
def splitPlace (extent : List Char) : Option (List Char) × List Char :=
  match splitUser? extent with
  | none => (none, extent)
  | some (user, place) => (some user, place)

/-- The URL of an authority whose parts are read. -/
def authorityUrl (scheme : String) (user : Option (List Char)) (host : Option Host)
    (port : Option Nat) (rest : List Char) : Except Fault Url := do
  let (username, password) := readUser (user.getD [])
  if host.isNone && !(username.isEmpty && password.isEmpty) then throw .emptyHost
  let path := readPathStart scheme (rest.takeWhile fun c => !endsPath c)
  pure (withTail scheme (some ⟨username, password, host, port⟩) (.segments path)
    (rest.dropWhile fun c => !endsPath c))

/-- Reads a host, a port and what follows them. -/
def readPlace (scheme : String) (user : Option (List Char)) (cs : List Char) :
    Except Fault Url := do
  let (hostText, rest) := splitHost (isSpecial scheme) false cs
  let host ← readHost scheme hostText rest
  let (port, rest) ← readPortBehind scheme rest
  authorityUrl scheme user host port rest

/-- The steps of `readPlace` in a row, as they end the reading of an authority. -/
theorem readPlace_eq (scheme : String) (user : Option (List Char)) (cs : List Char) :
    readPlace scheme user cs = (do
      let (hostText, rest) := splitHost (isSpecial scheme) false cs
      let host ← readHost scheme hostText rest
      let (port, rest) ← match rest with
        | ':' :: cs => readPort scheme cs
        | rest => pure (none, rest)
      let (username, password) := readUser (user.getD [])
      if host.isNone && !(username.isEmpty && password.isEmpty) then throw .emptyHost
      let path := readPathStart scheme (rest.takeWhile fun c => !endsPath c)
      pure (withTail scheme (some ⟨username, password, host, port⟩) (.segments path)
        (rest.dropWhile fun c => !endsPath c))) := by
  rw [readPlace]
  generalize splitHost (isSpecial scheme) false cs = parts
  obtain ⟨hostText, rest⟩ := parts
  refine congrArg (Except.bind _) (funext fun host => ?_)
  cases rest with
  | nil => rfl
  | cons c rest =>
    by_cases hc : c = ':'
    · subst hc
      rfl
    · dsimp only
      rw [readPortBehind_of_ne scheme rest hc]
      split
      · next h => exact absurd (List.cons.inj h).1 hc
      · rfl

/-- The characters of an authority. -/
def inAuthority (special : Bool) (c : Char) : Bool :=
  !(isSlash special c || endsPath c)

theorem inAuthority_slash (special : Bool) : inAuthority special '/' = false := by
  cases special <;> rfl

/-- A user is split off first, and needs a host. -/
theorem readAuthority_eq (scheme : String) (cs : List Char) :
    readAuthority scheme cs =
      let (user, place) := splitPlace (cs.takeWhile (inAuthority (isSpecial scheme)))
      let behind := cs.dropWhile (inAuthority (isSpecial scheme))
      if user == some [] && place.isEmpty && !behind.isEmpty then .error .emptyHost
      else readPlace scheme user (place ++ behind) := by
  have hchars : inAuthority (isSpecial scheme) =
      fun c => !(isSlash (isSpecial scheme) c || endsPath c) := rfl
  simp only [readPlace_eq]
  rw [readAuthority, splitPlace, hchars]
  cases splitUser? (cs.takeWhile fun c => !(isSlash (isSpecial scheme) c || endsPath c)) with
  | none => dsimp only; split <;> rfl
  | some parts => dsimp only; split <;> rfl

theorem authorityUrl_agree (scheme : String) (user : Option (List Char)) (host : Option Host)
    (port : Option Nat) (hm : IsPlain m) (hn : IsPlain n) {rs ss : List Char}
    (h : Part m n rs ss) :
    Agree BothBare (authorityUrl scheme user host port rs)
      (authorityUrl scheme user host port ss) := by
  obtain ⟨cs, hcs, rfl, rfl⟩ := h
  rw [authorityUrl, authorityUrl]
  dsimp only
  split
  · exact .error _
  · exact .ok ⟨isBare_withTail (hcs.below hm), isBare_withTail (hcs.below hn)⟩

theorem readPlace_agree (scheme : String) (user : Option (List Char)) (hm : IsPlain m)
    (hn : IsPlain n) {cs : List Char} (hcs : IsPlain cs) :
    Agree BothBare (readPlace scheme user (cs ++ '/' :: m))
      (readPlace scheme user (cs ++ '/' :: n)) := by
  have hrest := hcs.of_subset (splitHost_subset (isSpecial scheme) false cs)
  rw [readPlace, readPlace, splitHost_below, splitHost_below]
  dsimp only
  rw [readHost_below (m := m) (n := n)]
  refine (Agree.refl _).bind ?_
  rintro host _ rfl
  refine (readPortBehind_agree scheme hrest).bind ?_
  rintro ⟨port, rs⟩ ⟨_, ss⟩ ⟨rfl, hpart⟩
  exact authorityUrl_agree scheme user host port hm hn hpart

theorem splitPlace_subset (cs : List Char) : (splitPlace cs).2 ⊆ cs := by
  rw [splitPlace]
  split
  · exact List.Subset.refl cs
  · next h => exact splitUser?_subset h

theorem readAuthority_agree (scheme : String) (hm : IsPlain m) (hn : IsPlain n) {cs : List Char}
    (hcs : IsPlain cs) :
    Agree BothBare (readAuthority scheme (cs ++ '/' :: m))
      (readAuthority scheme (cs ++ '/' :: n)) := by
  have hstop := inAuthority_slash (isSpecial scheme)
  have hplace := hcs.of_subset (List.Subset.trans (splitPlace_subset _)
    (List.takeWhile_subset (inAuthority (isSpecial scheme))))
  have hbehind := hcs.of_subset (List.dropWhile_subset (inAuthority (isSpecial scheme)))
  have hnonempty (name : List Char) :
      (cs.dropWhile (inAuthority (isSpecial scheme)) ++ '/' :: name).isEmpty = false := by
    simp
  -- the authority ends in front of the slash, so its user and place are the same for both names
  rw [readAuthority_eq, readAuthority_eq]
  dsimp only
  rw [Text.takeWhile_append_stop hstop, Text.takeWhile_append_stop hstop,
    Text.dropWhile_append_stop hstop, Text.dropWhile_append_stop hstop, hnonempty, hnonempty]
  split
  · exact .error _
  · rw [← List.append_assoc, ← List.append_assoc]
    exact readPlace_agree scheme _ hm hn (hplace.append hbehind)

theorem isBare_fileUrl (host : Option Host) (path : List String) :
    (fileUrl host path []).IsBare :=
  ⟨rfl, rfl⟩

theorem readFile_agree (hm : IsPlain m) (hn : IsPlain n) {c d : Char} {cs : List Char}
    (hcs : IsPlain (c :: d :: cs)) :
    Agree BothBare (readFile (c :: d :: cs ++ '/' :: m)) (readFile (c :: d :: cs ++ '/' :: n)) := by
  have hstop : (fun c => !isSlash true c) '/' = false := by decide
  rw [readFile, readFile, (hcs.below hm).takeWhile, (hcs.below hn).takeWhile,
    (hcs.below hm).dropWhile, (hcs.below hn).dropWhile]
  simp only [List.cons_append, Text.takeWhile_append_stop (p := fun c => !isSlash true c) hstop]
  -- only a host can go wrong, and it ends in front of the slash
  split
  · split
    · exact .ok ⟨isBare_fileUrl _ _, isBare_fileUrl _ _⟩
    · refine (Agree.refl _).bind ?_
      rintro host _ rfl
      cases host with
      | none => exact .ok ⟨isBare_fileUrl _ _, isBare_fileUrl _ _⟩
      | some host => exact .ok ⟨isBare_fileUrl _ _, isBare_fileUrl _ _⟩
  · exact .ok ⟨isBare_fileUrl _ _, isBare_fileUrl _ _⟩

/-- Slashes in front of an authority do not reach beyond a character that is none. -/
theorem dropWhile_of_mem {cs : List Char} {x : Char} (hx : isSlash true x = false) (hmem : x ∈ cs)
    (name : List Char) :
    (cs ++ name).dropWhile (isSlash true) = cs.dropWhile (isSlash true) ++ name := by
  have hne : cs.dropWhile (isSlash true) ≠ [] := by
    intro h
    rw [List.dropWhile_eq_nil_iff.1 h x hmem] at hx
    cases hx
  rw [List.dropWhile_append, if_neg (by simpa using hne)]

/-- What follows a scheme that is not special. -/
def readOpaque (scheme : String) (cs : List Char) : Except Fault Url :=
  let tail := cs.dropWhile fun c => !endsPath c
  match cs with
  | '/' :: '/' :: rest => readAuthority scheme rest
  | '/' :: rest =>
    let path := readPath scheme [] (rest.takeWhile fun c => !endsPath c)
    .ok (withTail scheme none (.segments path) tail)
  | cs =>
    let path := percentEncode inControlSet (cs.takeWhile fun c => !endsPath c)
    .ok (withTail scheme none (.rootless (String.ofList path)) tail)

/-- Without two slashes there is no authority, and nothing to go wrong. -/
theorem readOpaque_of_not_slashes (scheme : String) {c d : Char} (h : ¬(c = '/' ∧ d = '/'))
    (cs : List Char) : ∃ path, readOpaque scheme (c :: d :: cs) =
      .ok (withTail scheme none path ((c :: d :: cs).dropWhile fun c => !endsPath c)) := by
  unfold readOpaque
  dsimp only
  split
  · next heq =>
    obtain ⟨rfl, htail⟩ := List.cons.inj heq
    exact absurd ⟨rfl, (List.cons.inj htail).1⟩ h
  · exact ⟨_, rfl⟩
  · exact ⟨_, rfl⟩

theorem readOpaque_agree (scheme : String) (hm : IsPlain m) (hn : IsPlain n) {c d : Char}
    {cs : List Char} (hcs : IsPlain (c :: d :: cs)) :
    Agree BothBare (readOpaque scheme (c :: d :: cs ++ '/' :: m))
      (readOpaque scheme (c :: d :: cs ++ '/' :: n)) := by
  by_cases hslashes : c = '/' ∧ d = '/'
  · obtain ⟨rfl, rfl⟩ := hslashes
    exact readAuthority_agree scheme hm hn (hcs.of_subset (by simp))
  · obtain ⟨path, hpath⟩ := readOpaque_of_not_slashes scheme hslashes (cs ++ '/' :: m)
    obtain ⟨path', hpath'⟩ := readOpaque_of_not_slashes scheme hslashes (cs ++ '/' :: n)
    rw [List.cons_append, List.cons_append, hpath, List.cons_append, List.cons_append, hpath']
    exact .ok ⟨isBare_withTail (hcs.below hm), isBare_withTail (hcs.below hn)⟩

/-- The name of a method stands behind a segment, so that it is part of the path. -/
theorem readAbsolute_agree (scheme : String) (hm : IsPlain m) (hn : IsPlain n) {x : Char}
    (hx : isSlash true x = false) {cs word : List Char} (hcs : IsPlain (cs ++ '/' :: x :: word)) :
    Agree BothBare (readAbsolute scheme (cs ++ '/' :: x :: word ++ '/' :: m))
      (readAbsolute scheme (cs ++ '/' :: x :: word ++ '/' :: n)) := by
  have hmem : x ∈ cs ++ '/' :: x :: word := by simp
  obtain ⟨c, d, rest, hrest⟩ : ∃ c d rest, cs ++ '/' :: x :: word = c :: d :: rest := by
    cases cs with
    | nil => exact ⟨_, _, _, rfl⟩
    | cons c cs => cases cs <;> exact ⟨_, _, _, rfl⟩
  rw [readAbsolute, readAbsolute]
  split
  · rw [hrest] at hcs ⊢
    exact readFile_agree hm hn hcs
  · split
    · rw [dropWhile_of_mem hx hmem, dropWhile_of_mem hx hmem]
      exact readAuthority_agree scheme hm hn (hcs.of_subset (List.dropWhile_subset _))
    · rw [hrest] at hcs ⊢
      exact readOpaque_agree scheme hm hn hcs

end

/-! ## Whole texts -/

/-- Characters that nothing strips off a text. -/
def IsVisible (cs : List Char) : Prop :=
  ∀ c ∈ cs, ' ' < c

theorem IsVisible.of_all {cs : List Char} (h : cs.all (fun c => decide (' ' < c)) = true) :
    IsVisible cs :=
  fun c hc => by simpa using List.all_eq_true.1 h c hc

theorem not_blank {c : Char} (hc : ' ' < c) : decide (c ≤ ' ') = false :=
  decide_eq_false (Char.not_le.2 hc)

theorem dropEndWhile_of_visible {name : List Char} (hname : IsVisible name) (cs : List Char) :
    Text.dropEndWhile (· ≤ ' ') (cs ++ '/' :: name) = cs ++ '/' :: name := by
  have hkeep : ((cs ++ '/' :: name).reverse).dropWhile (· ≤ ' ') = (cs ++ '/' :: name).reverse := by
    rw [List.reverse_append, List.reverse_cons, List.append_assoc, List.singleton_append]
    cases hrev : name.reverse with
    | nil => exact List.dropWhile_cons_of_neg (by decide)
    | cons c rest =>
      have hc : c ∈ name := List.mem_reverse.1 (hrev ▸ List.mem_cons_self)
      exact List.dropWhile_cons_of_neg (by rw [not_blank (hname c hc)]; decide)
  rw [Text.dropEndWhile, hkeep, List.reverse_reverse]

/-- The characters that stay in a text. -/
def isKept (c : Char) : Bool :=
  c != '\t' && c != '\n' && c != '\r'

theorem isKept_of_visible {c : Char} (hc : ' ' < c) : isKept c = true := by
  have hne {d : Char} (hd : d ≤ ' ') : (c != d) = true :=
    bne_iff_ne.2 fun e => absurd hd (Char.not_le.2 (e ▸ hc))
  rw [isKept, hne (by decide), hne (by decide), hne (by decide)]
  rfl

theorem filter_of_visible {name : List Char} (hname : IsVisible name) :
    ('/' :: name).filter isKept = '/' :: name := by
  rw [List.filter_eq_self]
  intro c hc
  rcases List.mem_cons.1 hc with rfl | hc
  · decide
  · exact isKept_of_visible (hname c hc)

/-- What is stripped off a text stands in front of the slash. -/
theorem cleaned_below {text : String} {cs name : List Char}
    (htext : text.toList = cs ++ '/' :: name) (hname : IsVisible name) :
    cleaned text = (cs.dropWhile (· ≤ ' ')).filter isKept ++ '/' :: name := by
  have hblank : decide ('/' ≤ ' ') = false := by decide
  change (Text.dropEndWhile _ (text.toList.dropWhile (· ≤ ' '))).filter isKept = _
  rw [htext, Text.dropWhile_append_stop (p := fun c => decide (c ≤ ' ')) hblank,
    dropEndWhile_of_visible hname, List.filter_append, filter_of_visible hname]

/-- The scheme that a first character and a colon make of the characters between them. -/
def schemeOf? : List Char → List Char → Option (String × List Char)
  | c :: name, ':' :: rest =>
    if c.isAlpha then some (String.ofList ((c :: name).map Char.toLower), rest) else none
  | _, _ => none

theorem schemeOf?_of_ne (cs : List Char) {d : Char} (hd : d ≠ ':') (ds : List Char) :
    schemeOf? cs (d :: ds) = none := by
  unfold schemeOf?
  split
  · next heq => exact absurd (List.cons.inj heq).1 hd
  · rfl

theorem schemeOf?_append (cs ds name : List Char) :
    schemeOf? cs (ds ++ '/' :: name) =
      (schemeOf? cs ds).map fun parts => (parts.1, parts.2 ++ '/' :: name) := by
  cases cs with
  | nil => rfl
  | cons c cs =>
    cases ds with
    | nil => exact schemeOf?_of_ne _ (by decide) _
    | cons d ds =>
      by_cases hd : d = ':'
      · subst hd
        rw [List.cons_append, schemeOf?, schemeOf?]
        split
        · rfl
        · rfl
      · rw [List.cons_append, schemeOf?_of_ne _ hd, schemeOf?_of_ne _ hd]
        rfl

theorem schemeOf?_subset {cs ds rest : List Char} {scheme : String}
    (h : schemeOf? cs ds = some (scheme, rest)) : rest ⊆ ds := by
  unfold schemeOf? at h
  split at h
  · split at h
    · cases h
      exact List.subset_cons_self _ _
    · cases h
  · cases h

/-- The characters of a scheme. -/
def inScheme (c : Char) : Bool :=
  c.isAlphanum || c == '+' || c == '-' || c == '.'

theorem splitScheme?_eq (cs : List Char) :
    splitScheme? cs = schemeOf? (cs.takeWhile inScheme) (cs.dropWhile inScheme) := by
  rfl

theorem splitScheme?_below (cs name : List Char) :
    splitScheme? (cs ++ '/' :: name) =
      (splitScheme? cs).map fun parts => (parts.1, parts.2 ++ '/' :: name) := by
  have hstop : inScheme '/' = false := by decide
  rw [splitScheme?_eq, splitScheme?_eq, Text.takeWhile_append_stop hstop,
    Text.dropWhile_append_stop hstop, schemeOf?_append]

theorem splitScheme?_subset {cs rest : List Char} {scheme : String}
    (h : splitScheme? cs = some (scheme, rest)) : rest ⊆ cs :=
  List.Subset.trans (schemeOf?_subset h) (List.dropWhile_subset _)

/-- Below a segment of a plain base two names lead to the same fault, or to none. -/
theorem parse_agree {s t : String} {base word m n : List Char} {x : Char}
    (hs : s.toList = base ++ '/' :: x :: word ++ '/' :: m)
    (ht : t.toList = base ++ '/' :: x :: word ++ '/' :: n)
    (hbase : IsPlain base) (hx : isSlash true x = false) (hword : IsPlain (x :: word))
    (hm : IsPlain m) (hn : IsPlain n) (hmv : IsVisible (x :: word ++ '/' :: m))
    (hnv : IsVisible (x :: word ++ '/' :: n)) :
    Agree BothBare (parse s) (parse t) := by
  rw [List.append_assoc, List.cons_append] at hs ht
  rw [parse, parse, cleaned_below hs hmv, cleaned_below ht hnv]
  generalize hstart : (base.dropWhile (· ≤ ' ')).filter isKept = start
  have hplain : IsPlain start := by
    intro c hc
    rw [← hstart] at hc
    exact hbase c (List.dropWhile_subset _ (List.mem_filter.1 hc).1)
  -- a scheme stands in front of the slash or nowhere
  rw [splitScheme?_below, splitScheme?_below]
  cases hscheme : splitScheme? start with
  | none => exact .error _
  | some parts =>
    obtain ⟨scheme, rest⟩ := parts
    have hrest := hplain.of_subset (splitScheme?_subset hscheme)
    have hagree := readAbsolute_agree scheme hm hn hx (hrest.below hword)
    rw [List.append_assoc, List.cons_append, List.append_assoc, List.cons_append] at hagree
    exact hagree

end PostSlots.Url
