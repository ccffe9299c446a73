/-!
# Maps with text keys in ascending order

`insertField` and `eraseField` work on lists of pairs, and `FieldMap` bundles a list with the
proof that its keys ascend, so that equal maps are equal values. Keys compare by code points.
-/

namespace PostSlots

/-- The keys ascend strictly. -/
def Ascending {α : Type} (fields : List (String × α)) : Prop :=
  fields.Pairwise fun a b => a.1 < b.1

/-- Puts a value under a key, in the place of an earlier one or in order. -/
def insertField {α : Type} (key : String) (value : α) : List (String × α) → List (String × α)
  | [] => [(key, value)]
  | (k, v) :: rest =>
    if key < k then (key, value) :: (k, v) :: rest
    else if key = k then (key, value) :: rest
    else (k, v) :: insertField key value rest

/-- Removes a key. -/
def eraseField {α : Type} (key : String) (fields : List (String × α)) : List (String × α) :=
  fields.filter fun field => field.1 != key

theorem mem_insertField {α : Type} {key : String} {value : α} {field : String × α}
    {fields : List (String × α)} (h : field ∈ insertField key value fields) :
    field = (key, value) ∨ field ∈ fields := by
  induction fields with
  | nil => simpa [insertField] using h
  | cons head rest ih =>
    obtain ⟨k, v⟩ := head
    rw [insertField] at h
    split at h
    · simpa using h
    · split at h
      · rcases List.mem_cons.1 h with h | h
        · exact Or.inl h
        · exact Or.inr (List.mem_cons_of_mem _ h)
      · rcases List.mem_cons.1 h with h | h
        · exact Or.inr (h ▸ List.mem_cons_self)
        · exact (ih h).imp id (List.mem_cons_of_mem _)

theorem lt_of_not_lt_of_ne {a b : String} (hlt : ¬a < b) (hne : a ≠ b) : b < a := by
  have := Std.lt_trichotomy a b
  grind

theorem Ascending.insertField {α : Type} {fields : List (String × α)} (h : Ascending fields)
    (key : String) (value : α) : Ascending (insertField key value fields) := by
  induction fields with
  | nil => simp [Ascending, PostSlots.insertField]
  | cons head rest ih =>
    obtain ⟨k, v⟩ := head
    obtain ⟨hhead, hrest⟩ := List.pairwise_cons.1 h
    rw [PostSlots.insertField]
    split
    · next hlt =>
      refine List.pairwise_cons.2 ⟨fun field hf => ?_, h⟩
      rcases List.mem_cons.1 hf with rfl | hf
      · exact hlt
      · exact String.lt_trans hlt (hhead field hf)
    · split
      · next heq => subst heq; exact List.pairwise_cons.2 ⟨hhead, hrest⟩
      · next hlt hne =>
        refine List.pairwise_cons.2 ⟨fun field hf => ?_, ih hrest⟩
        rcases mem_insertField hf with rfl | hf
        · exact lt_of_not_lt_of_ne hlt hne
        · exact hhead field hf

theorem Ascending.eraseField {α : Type} {fields : List (String × α)} (h : Ascending fields)
    (key : String) : Ascending (eraseField key fields) :=
  List.Pairwise.filter _ h

/-- A map from texts to values, its keys in ascending order. -/
structure FieldMap (α : Type) where
  entries : List (String × α)
  ascending : Ascending entries
deriving DecidableEq

namespace FieldMap

variable {α : Type}

def empty : FieldMap α := ⟨[], List.Pairwise.nil⟩

instance : Inhabited (FieldMap α) := ⟨empty⟩

def get? (m : FieldMap α) (key : String) : Option α :=
  m.entries.lookup key

def contains (m : FieldMap α) (key : String) : Bool :=
  (m.get? key).isSome

def insert (m : FieldMap α) (key : String) (value : α) : FieldMap α :=
  ⟨insertField key value m.entries, m.ascending.insertField key value⟩

def erase (m : FieldMap α) (key : String) : FieldMap α :=
  ⟨eraseField key m.entries, m.ascending.eraseField key⟩

/-- The map of a list of pairs; a later pair wins over an earlier one with its key. -/
def ofList (fields : List (String × α)) : FieldMap α :=
  fields.foldl (fun m field => m.insert field.1 field.2) empty

/-- The keys, ascending. -/
def keys (m : FieldMap α) : List String :=
  m.entries.map Prod.fst

def size (m : FieldMap α) : Nat :=
  m.entries.length

def isEmpty (m : FieldMap α) : Bool :=
  m.entries.isEmpty

example : (ofList [("b", 1), ("a", 2), ("b", 3)]).entries = [("a", 2), ("b", 3)] := by
  decide

/-! ## Looking up -/

theorem lookup_cons (field : String × α) (fields : List (String × α)) (key : String) :
    (field :: fields).lookup key = if key = field.1 then some field.2 else fields.lookup key := by
  rw [List.lookup_cons]
  by_cases h : key = field.1
  · rw [beq_iff_eq.2 h, if_pos h]
  · rw [beq_eq_false_iff_ne.2 h, if_neg h]

theorem lookup_insertField (key k : String) (value : α) (fields : List (String × α)) :
    (insertField key value fields).lookup k =
      if k = key then some value else fields.lookup k := by
  induction fields with
  | nil => simp [insertField, lookup_cons]
  | cons head rest ih =>
    rw [insertField]
    split
    · rw [lookup_cons]
    · split
      · next heq => by_cases h : k = key <;> simp [lookup_cons, h, ← heq]
      · next hne =>
        rw [lookup_cons, lookup_cons, ih]
        by_cases h : k = head.1
        · rw [if_pos h, if_pos h, if_neg (h ▸ Ne.symm hne)]
        · rw [if_neg h, if_neg h]

@[simp] theorem get?_empty (key : String) : (empty : FieldMap α).get? key = none := rfl

theorem get?_insert (m : FieldMap α) (key k : String) (value : α) :
    (m.insert key value).get? k = if k = key then some value else m.get? k :=
  lookup_insertField key k value m.entries

@[simp] theorem get?_insert_self (m : FieldMap α) (key : String) (value : α) :
    (m.insert key value).get? key = some value := by
  rw [get?_insert, if_pos rfl]

theorem get?_insert_of_ne (m : FieldMap α) {key k : String} (h : k ≠ key) (value : α) :
    (m.insert key value).get? k = m.get? k := by
  rw [get?_insert, if_neg h]

theorem lookup_eraseField (key k : String) (fields : List (String × α)) :
    (eraseField key fields).lookup k = if k = key then none else fields.lookup k := by
  induction fields with
  | nil => simp [eraseField]
  | cons head rest ih =>
    rw [eraseField] at ih
    rw [eraseField, List.filter_cons, lookup_cons]
    by_cases hkey : head.1 = key
    · have hdrop : ¬(head.1 != key) = true := by simp [hkey]
      rw [if_neg hdrop, ih, hkey]
      by_cases hk : k = key
      · rw [if_pos hk, if_pos hk]
      · rw [if_neg hk, if_neg hk, if_neg hk]
    · have hkeep : (head.1 != key) = true := by simp [hkey]
      rw [if_pos hkeep, lookup_cons, ih]
      by_cases hk : k = head.1
      · rw [if_pos hk, if_neg fun heq => hkey (hk.symm.trans heq), if_pos hk]
      · rw [if_neg hk, if_neg hk]

theorem get?_erase (m : FieldMap α) (key k : String) :
    (m.erase key).get? k = if k = key then none else m.get? k :=
  lookup_eraseField key k m.entries

theorem mem_entries_iff (m : FieldMap α) (field : String × α) :
    field ∈ m.entries ↔ m.get? field.1 = some field.2 := by
  obtain ⟨fields, hasc⟩ := m
  show field ∈ fields ↔ fields.lookup field.1 = some field.2
  induction fields with
  | nil => simp
  | cons head rest ih =>
    obtain ⟨hhead, hrest⟩ := List.pairwise_cons.1 hasc
    rw [lookup_cons, List.mem_cons]
    by_cases h : field.1 = head.1
    · have hnotin : field ∉ rest := fun hf => String.lt_irrefl head.1 (h ▸ hhead field hf)
      rw [if_pos h, or_iff_left hnotin, Prod.ext_iff, and_iff_right h, Option.some_inj, eq_comm]
    · rw [if_neg h, or_iff_right fun e => h (congrArg Prod.fst e), ih hrest]

theorem mem_keys_iff (m : FieldMap α) (key : String) :
    key ∈ m.keys ↔ ∃ value, m.get? key = some value := by
  rw [keys, List.mem_map]
  constructor
  · rintro ⟨field, hfield, rfl⟩
    exact ⟨field.2, (m.mem_entries_iff field).1 hfield⟩
  · rintro ⟨value, hvalue⟩
    exact ⟨(key, value), (m.mem_entries_iff (key, value)).2 hvalue, rfl⟩

theorem keys_ascending (m : FieldMap α) : m.keys.Pairwise (· < ·) :=
  List.pairwise_map.2 m.ascending

theorem size_eq (m : FieldMap α) : m.size = m.keys.length := by
  rw [size, keys, List.length_map]

theorem isEmpty_iff (m : FieldMap α) : m.isEmpty = true ↔ m.keys = [] := by
  rw [isEmpty, keys, List.isEmpty_iff, List.map_eq_nil_iff]

theorem contains_iff (m : FieldMap α) (key : String) :
    m.contains key = true ↔ ∃ value, m.get? key = some value :=
  Option.isSome_iff_exists

theorem nodup_entries (m : FieldMap α) : m.entries.Nodup := by
  refine m.ascending.imp ?_
  rintro a b hlt rfl
  exact String.lt_irrefl _ hlt

/-- Maps in which the same is found are the same. -/
theorem ext_get? {m n : FieldMap α} (h : ∀ key, m.get? key = n.get? key) : m = n := by
  have hperm : m.entries.Perm n.entries :=
    (List.perm_ext_iff_of_nodup m.nodup_entries n.nodup_entries).2 fun field => by
      rw [mem_entries_iff, mem_entries_iff, h]
  have hentries : m.entries = n.entries :=
    hperm.eq_of_pairwise (fun _ _ _ _ hab hba => absurd hba (String.lt_asymm hab))
      m.ascending n.ascending
  cases m
  cases n
  congr

@[simp] theorem insert_insert (m : FieldMap α) (key : String) (v w : α) :
    (m.insert key v).insert key w = m.insert key w := by
  refine ext_get? fun k => ?_
  by_cases h : k = key <;> simp [get?_insert, h]

/-- The value does not decide over the keys. -/
theorem keys_insert_eq (m : FieldMap α) (key : String) (v w : α) :
    (m.insert key v).keys = (m.insert key w).keys := by
  show (insertField key v m.entries).map Prod.fst = (insertField key w m.entries).map Prod.fst
  induction m.entries with
  | nil => rfl
  | cons head rest ih =>
    rw [insertField, insertField]
    split
    · rfl
    · split
      · rfl
      · rw [List.map_cons, List.map_cons, ih]

/-! ## Building up -/

/-- A key above all others goes to the end. -/
theorem insertField_of_lt {key : String} (value : α) {fields : List (String × α)}
    (h : ∀ field ∈ fields, field.1 < key) :
    insertField key value fields = fields ++ [(key, value)] := by
  induction fields with
  | nil => rfl
  | cons head rest ih =>
    obtain ⟨hhead, hrest⟩ := List.forall_mem_cons.1 h
    have hne : key ≠ head.1 := fun heq => String.lt_irrefl _ (heq ▸ hhead)
    rw [insertField, if_neg (String.lt_asymm hhead), if_neg hne, ih hrest, List.cons_append]

/-- Fields that ascend are added at the end, one after the other. -/
theorem foldl_insert {m n : FieldMap α} {fields : List (String × α)}
    (h : n.entries = m.entries ++ fields) :
    fields.foldl (fun m field => m.insert field.1 field.2) m = n := by
  induction fields generalizing m with
  | nil => exact ext_get? fun key => by rw [List.foldl_nil, get?, get?, h, List.append_nil]
  | cons field fields ih =>
    refine ih ?_
    have hlast : ∀ earlier ∈ m.entries, earlier.1 < field.1 := fun earlier hearlier =>
      (List.pairwise_append.1 (h ▸ n.ascending)).2.2 earlier hearlier field List.mem_cons_self
    show n.entries = insertField field.1 field.2 m.entries ++ fields
    rw [h, insertField_of_lt field.2 hlast, List.append_assoc, List.singleton_append]

/-- A map is built from its own entries. -/
theorem ofList_entries (m : FieldMap α) : ofList m.entries = m :=
  foldl_insert rfl

end FieldMap

end PostSlots
