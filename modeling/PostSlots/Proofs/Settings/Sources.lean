import PostSlots.Proofs.Decimal.Rounding
import PostSlots.Settings.Basic

/-!
# Sources of settings

Settings are had from a file and an environment, unless one of them is faulty. A file that is there
has to be readable and to hold fields of the right kinds; a variable for the time limit has to
denote a word, also if it is set to nothing, while the other variables do not count then.

Results:
1. `Decimal.readWord?_eq_some_iff`: which texts denote a word.
2. `Settings.load_eq_ok_iff`, `Settings.timeoutIn_eq_ok_iff`: what a file says and what a variable
   says.
3. `Settings.loaded_eq_ok_iff`: the settings that are had from both.
4. `Settings.loaded_fails_iff`: what keeps settings from being had.
-/

namespace PostSlots

/-! ## Words -/

namespace Decimal

/-- A text denotes a word: it consists of decimal digits with or without a plus sign in front. -/
def Denotes (text : String) (n : Nat) : Prop :=
  ∃ digits : List Char, (text.toList = digits ∨ text.toList = '+' :: digits) ∧ digits ≠ [] ∧
    (∀ c ∈ digits, c.isDigit = true) ∧ Nat.ofDigitChars 10 digits 0 = n ∧ n < 2 ^ 64

theorem readDigits?_eq_some_iff {cs : List Char} {n : Nat} :
    readDigits? cs = some n ↔
      cs ≠ [] ∧ (∀ c ∈ cs, c.isDigit = true) ∧ Nat.ofDigitChars 10 cs 0 = n := by
  have hvalue : ofDigits cs = Nat.ofDigitChars 10 cs 0 := Nat.ofDigitChars_eq_foldl.symm
  constructor
  · intro h
    rw [readDigits?] at h
    split at h
    · next hdigits =>
      simp only [Bool.and_eq_true, Bool.not_eq_true', List.isEmpty_eq_false_iff,
        List.all_eq_true] at hdigits
      exact ⟨hdigits.1, hdigits.2, hvalue.symm.trans (Option.some.inj h)⟩
    · cases h
  · rintro ⟨hne, hdigits, rfl⟩
    rw [readDigits?_of_isDigit hne hdigits, hvalue]

theorem eq_or_eq_cons_dropPlus (cs : List Char) :
    cs = dropPlus cs ∨ cs = '+' :: dropPlus cs := by
  unfold dropPlus
  split
  · exact .inr rfl
  · exact .inl rfl

/-- What is read as a word is what denotes it. -/
theorem readWord?_eq_some_iff {text : String} {n : Nat} :
    readWord? text.toList = some n ↔ Denotes text n := by
  have hbound : wordBound = 2 ^ 64 := Binary64.two_pow_eq 64
  have hread (digits : List Char) (hdigits : readDigits? digits = some n) (hn : n < 2 ^ 64) :
      ∀ cs, dropPlus cs = digits → readWord? cs = some n := by
    intro cs hcs
    rw [readWord?, hcs, hdigits, hbound]
    exact if_pos hn
  constructor
  · intro h
    rw [readWord?, hbound] at h
    cases hdigits : readDigits? (dropPlus text.toList) with
    | none => rw [hdigits] at h; cases h
    | some m =>
      rw [hdigits] at h
      obtain ⟨hm, hmn⟩ := Option.ite_none_right_eq_some.1 h
      cases hmn
      obtain ⟨hne, hall, hvalue⟩ := readDigits?_eq_some_iff.1 hdigits
      exact ⟨_, eq_or_eq_cons_dropPlus _, hne, hall, hvalue, hm⟩
  · rintro ⟨digits, htext, hne, hall, hvalue, hn⟩
    have hdigits := readDigits?_eq_some_iff.2 ⟨hne, hall, hvalue⟩
    rcases htext with htext | htext
    · exact hread digits hdigits hn _ (by rw [htext, dropPlus_of_isDigit hall])
    · exact hread digits hdigits hn _ (by rw [htext]; rfl)

end Decimal

theorem Environment.nonempty?_eq_some_iff {env : Environment} {name value : String} :
    env.nonempty? name = some value ↔ env.get? name = some value ∧ value ≠ "" := by
  rw [nonempty?, Option.filter_eq_some_iff]
  simp

namespace Settings

open Decimal (Denotes)

/-! ## The file -/

/-- What a text of settings says in its fields. -/
def Says (text : String) (file : Settings) : Prop :=
  ∃ fields, Toml.parse text = .ok fields ∧
    fields.lookup "api_base" = file.apiBase.map .string ∧
    fields.lookup "timeout_secs" = file.timeoutSecs.map (fun n => .integer n) ∧
    fields.lookup "user_agent" = file.userAgent.map .string

theorem stringField_eq_ok_iff {fields : Toml.Fields} {name : String} {value : Option String} :
    stringField fields name = .ok value ↔ fields.lookup name = value.map .string := by
  rw [stringField]
  cases fields.lookup name with
  | none => cases value <;> simp
  | some item => cases item <;> cases value <;> simp

theorem wholeField_eq_ok_iff {fields : Toml.Fields} {name : String} {value : Option Nat} :
    wholeField fields name = .ok value ↔
      fields.lookup name = value.map (fun n => .integer n) := by
  unfold wholeField
  cases fields.lookup name with
  | none => cases value <;> simp
  | some item =>
    cases item with
    | integer m =>
      cases m with
      | ofNat n =>
        cases value with
        | none => exact ⟨nofun, nofun⟩
        | some k =>
          constructor
          · intro h
            cases h
            rfl
          · intro h
            have hn : n = k := Int.ofNat.inj (Toml.Item.integer.inj (Option.some.inj h))
            rw [hn]
      | negSucc n =>
        cases value with
        | none => exact ⟨nofun, nofun⟩
        | some k => exact ⟨nofun, fun h => nomatch Toml.Item.integer.inj (Option.some.inj h)⟩
    | string _ | other | table _ _ | tables _ => cases value <;> exact ⟨nofun, nofun⟩

theorem parse_eq_ok_iff {text : String} {file : Settings} :
    parse text = .ok file ↔ Says text file := by
  simp only [parse, Says, bind_eq_ok_iff, mapError_eq_ok_iff, stringField_eq_ok_iff,
    wholeField_eq_ok_iff]
  constructor
  · rintro ⟨fields, hfields, base, hbase, limit, hlimit, agent, hagent, ⟨⟩⟩
    exact ⟨fields, hfields, hbase, hlimit, hagent⟩
  · rintro ⟨fields, hfields, hbase, hlimit, hagent⟩
    exact ⟨fields, hfields, _, hbase, _, hlimit, _, hagent, rfl⟩

/-- What a file of settings says; a path that leads nowhere says nothing. -/
inductive FileSays (disk : Disk) (path : String) : Settings → Prop
  | absent {fault : PathFault} : disk path = .error (.missing fault) → FileSays disk path unset
  | read {text : String} {file : Settings} : disk path = .ok text → Says text file →
    FileSays disk path file

theorem load_eq_ok_iff {disk : Disk} {path : String} {file : Settings} :
    load disk path = .ok file ↔ FileSays disk path file := by
  rw [load]
  constructor
  · intro h
    cases hdisk : disk path with
    | error fault =>
      cases fault with
      | missing fault =>
        simp only [hdisk] at h
        cases h
        exact .absent hdisk
      | unreadable fault =>
        simp only [hdisk] at h
        cases h
    | ok text =>
      simp only [hdisk] at h
      exact .read hdisk (parse_eq_ok_iff.1 (mapError_eq_ok_iff.1 h))
  · intro h
    cases h with
    | absent hdisk => simp only [hdisk]
    | read hdisk hsays =>
      simp only [hdisk]
      exact mapError_eq_ok_iff.2 (parse_eq_ok_iff.2 hsays)

theorem FileSays.unique {disk : Disk} {path : String} {file file' : Settings}
    (h : FileSays disk path file) (h' : FileSays disk path file') : file = file' :=
  Except.ok.inj ((load_eq_ok_iff.2 h).symm.trans (load_eq_ok_iff.2 h'))

/-! ## The time limit -/

/-- The time limit that an environment sets, if it sets one. -/
inductive LimitIn (env : Environment) : Option Nat → Prop
  | unset : env.get? "SKYSLOT_TIMEOUT_SECS" = none → LimitIn env none
  | set {text : String} {n : Nat} : env.get? "SKYSLOT_TIMEOUT_SECS" = some text →
    Denotes text n → LimitIn env (some n)

theorem timeoutIn_eq_ok_iff {env : Environment} {limit : Option Nat} :
    timeoutIn env = .ok limit ↔ LimitIn env limit := by
  rw [timeoutIn]
  constructor
  · intro h
    cases hget : env.get? "SKYSLOT_TIMEOUT_SECS" with
    | none =>
      simp only [hget] at h
      cases h
      exact .unset hget
    | some text =>
      simp only [hget] at h
      split at h
      · next secs hsecs =>
        cases h
        exact .set hget (Decimal.readWord?_eq_some_iff.1 hsecs)
      · cases h
  · intro h
    cases h with
    | unset hget => simp only [hget]
    | set hget hdenotes => simp only [hget, Decimal.readWord?_eq_some_iff.2 hdenotes]

theorem LimitIn.eq_some_iff {env : Environment} {limit : Option Nat} (h : LimitIn env limit)
    (n : Nat) :
    limit = some n ↔ ∃ text, env.get? "SKYSLOT_TIMEOUT_SECS" = some text ∧ Denotes text n := by
  constructor
  · rintro rfl
    cases h with
    | set hget hdenotes => exact ⟨_, hget, hdenotes⟩
  · rintro ⟨text, hget, hdenotes⟩
    exact Except.ok.inj ((timeoutIn_eq_ok_iff.2 h).symm.trans
      (timeoutIn_eq_ok_iff.2 (.set hget hdenotes)))

/-! ## Both sources -/

/-- The settings that are had from a file and an environment. -/
def loaded (disk : Disk) (path : String) (env : Environment) : Except Error Settings := do
  (← load disk path).withEnvironment env

/-- The settings that some layers make, the upper ones first. -/
def layered (env : Environment) (limit : Option Nat) (file : Settings) : Settings :=
  ⟨(env.nonempty? "SKYSLOT_API_BASE").or file.apiBase, limit.or file.timeoutSecs,
    (env.nonempty? "SKYSLOT_USER_AGENT").or file.userAgent⟩

theorem loaded_eq_ok_iff {disk : Disk} {path : String} {env : Environment} {t : Settings} :
    loaded disk path env = .ok t ↔
      ∃ file limit, FileSays disk path file ∧ LimitIn env limit ∧ t = layered env limit file := by
  simp only [loaded, withEnvironment, bind_eq_ok_iff, load_eq_ok_iff, timeoutIn_eq_ok_iff]
  constructor
  · rintro ⟨file, hfile, limit, hlimit, ⟨⟩⟩
    exact ⟨file, limit, hfile, hlimit, rfl⟩
  · rintro ⟨file, limit, hfile, hlimit, rfl⟩
    exact ⟨file, hfile, limit, hlimit, rfl⟩

/-- What keeps settings from being had: a file that is there but cannot be read, or that is
malformed, or a time limit that is no number. -/
inductive Faulty (disk : Disk) (path : String) (env : Environment) : Prop
  | unreadable {fault : ReadFault} : disk path = .error (.unreadable fault) →
    Faulty disk path env
  | malformed {text : String} : disk path = .ok text → (∀ file, ¬Says text file) →
    Faulty disk path env
  | limit {text : String} : env.get? "SKYSLOT_TIMEOUT_SECS" = some text →
    (∀ n, ¬Denotes text n) → Faulty disk path env

variable {disk : Disk} {path : String} {env : Environment}

theorem exists_fileSays (h : ¬Faulty disk path env) : ∃ file, FileSays disk path file := by
  cases hdisk : disk path with
  | error fault =>
    cases fault with
    | missing fault => exact ⟨unset, .absent hdisk⟩
    | unreadable fault => exact absurd (.unreadable hdisk) h
  | ok text =>
    by_contra hnone
    exact h (.malformed hdisk fun file hsays => hnone ⟨file, .read hdisk hsays⟩)

theorem exists_limitIn (h : ¬Faulty disk path env) : ∃ limit, LimitIn env limit := by
  cases hget : env.get? "SKYSLOT_TIMEOUT_SECS" with
  | none => exact ⟨none, .unset hget⟩
  | some text =>
    by_contra hnone
    exact h (.limit hget fun n hdenotes => hnone ⟨some n, .set hget hdenotes⟩)

theorem Faulty.not_loaded (h : Faulty disk path env) (t : Settings) :
    loaded disk path env ≠ .ok t := by
  intro hloaded
  obtain ⟨file, limit, hfile, hlimit, -⟩ := loaded_eq_ok_iff.1 hloaded
  cases h with
  | unreadable hdisk =>
    cases hfile with
    | absent hdisk' => cases hdisk.symm.trans hdisk'
    | read hdisk' _ => cases hdisk.symm.trans hdisk'
  | malformed hdisk hnone =>
    cases hfile with
    | absent hdisk' => cases hdisk.symm.trans hdisk'
    | read hdisk' hsays =>
      cases hdisk.symm.trans hdisk'
      exact hnone _ hsays
  | limit hget hnone =>
    cases hlimit with
    | unset hget' => cases hget.symm.trans hget'
    | set hget' hdenotes =>
      cases hget.symm.trans hget'
      exact hnone _ hdenotes

/-- Settings can be had unless the file or the time limit is faulty. -/
theorem loaded_fails_iff : (∃ e, loaded disk path env = .error e) ↔ Faulty disk path env := by
  constructor
  · rintro ⟨e, he⟩
    by_contra hfaulty
    obtain ⟨file, hfile⟩ := exists_fileSays hfaulty
    obtain ⟨limit, hlimit⟩ := exists_limitIn hfaulty
    cases he.symm.trans (loaded_eq_ok_iff.2 ⟨file, limit, hfile, hlimit, rfl⟩)
  · intro hfaulty
    cases hloaded : loaded disk path env with
    | error e => exact ⟨e, rfl⟩
    | ok t => exact absurd hloaded (hfaulty.not_loaded t)

theorem config_of_load {e : Error} (h : load disk path = .error e) :
    ∃ reason, e = .config reason := by
  rw [load] at h
  cases hdisk : disk path with
  | error fault =>
    cases fault with
    | missing fault => rw [hdisk] at h; cases h
    | unreadable fault =>
      rw [hdisk] at h
      exact ⟨_, (Except.error.inj h).symm⟩
  | ok text =>
    simp only [hdisk] at h
    cases hparse : parse text with
    | error details =>
      rw [hparse] at h
      exact ⟨_, (Except.error.inj h).symm⟩
    | ok file => rw [hparse] at h; cases h

theorem config_of_timeoutIn {e : Error} (h : timeoutIn env = .error e) :
    ∃ reason, e = .config reason := by
  rw [timeoutIn] at h
  split at h
  · cases h
  · split at h
    · cases h
    · exact ⟨_, (Except.error.inj h).symm⟩

/-- The settings are to blame for whatever keeps them from being had. -/
theorem config_of_loaded {e : Error} (h : loaded disk path env = .error e) :
    ∃ reason, e = .config reason := by
  rw [loaded] at h
  cases hload : load disk path with
  | error e' =>
    rw [hload] at h
    exact config_of_load (hload.trans h)
  | ok file =>
    rw [hload] at h
    cases hlimit : timeoutIn env with
    | error e' =>
      refine config_of_timeoutIn (hlimit.trans ?_)
      have hrest : file.withEnvironment env = .error e := h
      rw [withEnvironment, hlimit] at hrest
      cases hrest
      rfl
    | ok limit =>
      have hrest : file.withEnvironment env = .error e := h
      rw [withEnvironment, hlimit] at hrest
      cases hrest

end Settings

end PostSlots
