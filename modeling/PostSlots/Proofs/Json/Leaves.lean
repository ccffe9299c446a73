import PostSlots.Json.Display

/-!
# Leaves of arrays

An array shows its leaves with commas between them, however deep they stand: the brackets of an array
that is an item of another one leave no trace. Nothing is shown for a `null` among the items, nor for
an empty array, and each of them still takes its place between two commas.

Results:
1. `Json.intercalate_flatMap`: joining what is joined already, where no part is empty.
2. `Json.display_array`: an array shows what its items show.
3. `Json.display_leaves`: an array shows its leaves, and items of an array can be listed in its place.
-/

namespace PostSlots.Json

mutual
/-- The leaves of a value among the items of an array. A `null` and an empty array are leaves that
show nothing. -/
def leaves : Json → List String
  | null | array [] => [""]
  | array (item :: items) => leaves item ++ leavesOf items
  | value => [value.display]

/-- The leaves of the items of an array, from left to right. -/
def leavesOf : List Json → List String
  | [] => []
  | item :: items => leaves item ++ leavesOf items
end

/-- What a value shows among the items of an array. -/
def itemText : Json → String
  | null => ""
  | value => value.display

/-! ## Joining -/

theorem joinCommas_eq_intercalate (pieces : List (List Char)) :
    joinCommas pieces = [','].intercalate pieces := by
  induction pieces using joinCommas.induct with
  | case1 => rfl
  | case2 piece => exact List.intercalate_singleton.symm
  | case3 piece pieces hne ih =>
    obtain ⟨next, rest, rfl⟩ := List.exists_cons_of_ne_nil (fun h => hne h)
    rw [joinCommas, ih, List.intercalate_cons_cons, List.append_assoc]
    · rfl
    · exact hne

/-- Texts that are joined already can be joined part by part, where no part is empty. -/
theorem intercalate_flatMap {α : Type} (sep : String) {parts : α → List String}
    (hparts : ∀ a, parts a ≠ []) (as : List α) :
    sep.intercalate (as.map fun a => sep.intercalate (parts a)) =
      sep.intercalate (as.flatMap parts) := by
  induction as with
  | nil => rfl
  | cons a as ih =>
    cases as with
    | nil => simp
    | cons b bs =>
      have hrest : (b :: bs).flatMap parts ≠ [] := by
        rw [List.flatMap_cons]
        exact List.append_ne_nil_of_left_ne_nil (hparts b) _
      rw [List.map_cons, List.flatMap_cons, String.intercalate_append_of_ne_nil (hparts a) hrest,
        ← ih, String.intercalate_cons_of_ne_nil (by simp)]

/-! ## Items -/

theorem itemText_of_ne {value : Json} (hne : value ≠ null) : itemText value = value.display := by
  unfold itemText
  split
  · exact absurd rfl hne
  · rfl

theorem displayItems_eq (items : List Json) :
    displayItems items = (items.map itemText).map String.toList := by
  induction items with
  | nil => rfl
  | cons item items ih =>
    rw [List.map_cons, List.map_cons, ← ih]
    by_cases hnull : item = null
    · subst hnull
      rfl
    · rw [displayItems, itemText_of_ne hnull, display, String.toList_ofList]
      exact hnull

/-- An array shows what its items show, with commas between them. -/
theorem display_array (items : List Json) :
    (array items).display = ",".intercalate (items.map itemText) := by
  have hchars : (array items).display = String.ofList (joinCommas (displayItems items)) := rfl
  have hcomma : ",".toList = [','] := rfl
  rw [hchars, joinCommas_eq_intercalate, displayItems_eq, ← hcomma, ← String.toList_intercalate,
    String.ofList_toList]

/-! ## Leaves -/

theorem leavesOf_eq_flatMap (items : List Json) : leavesOf items = items.flatMap leaves := by
  induction items with
  | nil => rfl
  | cons item items ih => rw [leavesOf, List.flatMap_cons, ih]

theorem leaves_array {items : List Json} (hne : items ≠ []) :
    leaves (array items) = leavesOf items := by
  obtain ⟨item, items, rfl⟩ := List.exists_cons_of_ne_nil hne
  rw [leaves, leavesOf]

mutual
/-- Every value has a leaf. -/
theorem leaves_ne_nil : (value : Json) → leaves value ≠ []
  | null | array [] | bool _ | number _ | string _ | object _ => by simp [leaves]
  | array (item :: items) => by
    rw [leaves]
    exact List.append_ne_nil_of_left_ne_nil (leaves_ne_nil item) _

end

mutual
/-- What a value shows among the items of an array are its leaves. -/
theorem itemText_eq : (value : Json) → itemText value = ",".intercalate (leaves value)
  | null | bool _ | number _ | string _ | object _ => by simp [leaves, itemText]
  | array [] => by simp [leaves, itemText, display_array]
  | array (item :: items) => by
    rw [itemText_of_ne (by simp), display_array, map_itemText_eq (item :: items),
      intercalate_flatMap "," leaves_ne_nil, leaves_array (List.cons_ne_nil _ _),
      leavesOf_eq_flatMap]

theorem map_itemText_eq : (items : List Json) →
    items.map itemText = items.map fun item => ",".intercalate (leaves item)
  | [] => rfl
  | item :: items => by
    rw [List.map_cons, List.map_cons, itemText_eq item, map_itemText_eq items]
end

/-- An array shows its leaves with commas between them. -/
theorem display_eq_leaves (items : List Json) :
    (array items).display = ",".intercalate (leavesOf items) := by
  rw [display_array, map_itemText_eq, intercalate_flatMap "," leaves_ne_nil, leavesOf_eq_flatMap]

theorem leavesOf_append (before after : List Json) :
    leavesOf (before ++ after) = leavesOf before ++ leavesOf after := by
  rw [leavesOf_eq_flatMap, leavesOf_eq_flatMap, leavesOf_eq_flatMap, List.flatMap_append]

/-- An array shows its leaves with commas between them. The items of an array among its items can as
well be its own, and an empty array among them is shown like a `null`. -/
theorem display_leaves :
    (∀ items, (array items).display = ",".intercalate (leavesOf items)) ∧
    ∀ before after,
      (∀ item items, (array (before ++ [array (item :: items)] ++ after)).display =
        (array (before ++ (item :: items) ++ after)).display) ∧
      (array (before ++ [array []] ++ after)).display =
        (array (before ++ [null] ++ after)).display := by
  refine ⟨display_eq_leaves, fun before after => ⟨fun item items => ?_, ?_⟩⟩
  · have hnested : leavesOf [array (item :: items)] = leavesOf (item :: items) := by
      rw [leavesOf, leavesOf, List.append_nil, leaves_array (List.cons_ne_nil item items)]
    rw [display_eq_leaves, display_eq_leaves, leavesOf_append, leavesOf_append, hnested,
      ← leavesOf_append, ← leavesOf_append]
  · have hempty : leavesOf [array []] = leavesOf [null] := rfl
    rw [display_eq_leaves, display_eq_leaves, leavesOf_append, leavesOf_append, hempty,
      ← leavesOf_append, ← leavesOf_append]

end PostSlots.Json
