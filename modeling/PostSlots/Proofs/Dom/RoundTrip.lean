import PostSlots.Proofs.Dom.RawFree

/-!
# Reading what was written

A fragment that is written as data and read again is the same fragment, but for its raw markup,
which comes back as text. Written data leaves out what is empty and has one spelling for each
element, of which readers take two. Whatever spelling a fragment was read from, it is written in
the first one, and nothing is lost.

Results:
1. `Node.attrsOf?_encodeAttrs`: attributes are read as they were written.
2. `Node.ofDatum?_elementFields`: what the fields of an element make, whichever are left out.
3. `Node.ofDatum?_encode`: a node that was written is read with its markup taken literally.
4. `Fragment.encode_round_trip`: writing and reading fragments, in both directions.
-/

namespace PostSlots

mutual
/-- A node with text in the place of raw markup. -/
def Node.literal : Node → Node
  | .text content => .text content
  | .element tag attrs children => .element tag attrs (Node.literalAll children)
  | .raw markup => .text markup

def Node.literalAll : List Node → List Node
  | [] => []
  | node :: nodes => node.literal :: Node.literalAll nodes
end

/-- A fragment with text in the place of raw markup. -/
def Fragment.literal (f : Fragment) : Fragment :=
  Node.literalAll f

namespace Node

mutual
theorem literal_of_isRawFree : (n : Node) → n.isRawFree = true → n.literal = n
  | .text _, _ => rfl
  | .raw _, h => absurd h Bool.false_ne_true
  | .element tag attrs children, h => by
    rw [literal, literalAll_of_areRawFree children h]

theorem literalAll_of_areRawFree : (ns : List Node) → areRawFree ns = true → literalAll ns = ns
  | [], _ => rfl
  | n :: ns, h => by
    obtain ⟨hn, hns⟩ := Bool.and_eq_true_iff.1 h
    rw [literalAll, literal_of_isRawFree n hn, literalAll_of_areRawFree ns hns]
end

/-! ## Attributes -/

theorem ofFields_strings (fields : List (String × String)) :
    Datum.ofFields (fields.map fun (name, value) => (name, .string value)) =
      fields.map fun (name, value) => (.text name, .text value) := by
  induction fields with
  | nil => rfl
  | cons field fields ih =>
    rw [List.map_cons, List.map_cons, Datum.ofFields, ih, Datum.ofJson]

theorem foldlM_addAttr? (attrs : Attributes) (fields : List (String × String)) :
    (fields.map fun (name, value) => (Datum.text name, Datum.text value)).foldlM addAttr? attrs =
      some (fields.foldl (fun attrs field => attrs.insert field.1 field.2) attrs) := by
  induction fields generalizing attrs with
  | nil => rfl
  | cons field fields ih =>
    rw [List.map_cons, List.foldlM_cons, addAttr?, List.foldl_cons]
    exact ih _

/-- Attributes are read as they were written. -/
theorem attrsOf?_encodeAttrs (attrs : Attributes) :
    attrsOf? (.ofJson (encodeAttrs attrs)) = some attrs := by
  rw [encodeAttrs, Datum.ofJson, attrsOf?, ofFields_strings, foldlM_addAttr?,
    FieldMap.foldl_insert (by rfl)]

/-! ## Elements -/

/-- The fields of an element, of which two may be left out. -/
def elementFields (tag : String) (attrs children : Option Datum) : List (Datum × Datum) :=
  (attrs.map fun value => (.text "attrs", value)).toList ++
    (children.map fun value => (.text "children", value)).toList ++ [(.text "tag", .text tag)]

/-- What the fields of an element make, whichever are left out. -/
theorem ofDatum?_elementFields (tag : String) (attrs children : Option Datum) :
    ofDatum? (.fields (elementFields tag attrs children)) =
      (attrs.elim (some .empty) attrsOf?).bind fun named =>
        (children.elim (some []) ofList?).bind fun nested => some (element tag named nested) := by
  cases attrs with
  | none => cases children <;> rfl
  | some attrs => cases children <;> rfl

/-- The fields that an element is written with. -/
theorem ofJson_encode_element (tag : String) (attrs : Attributes) (children : List Node) :
    Datum.ofJson (encode (.element tag attrs children)) =
      .fields (elementFields tag
        (if attrs.isEmpty then none else some (.ofJson (encodeAttrs attrs)))
        (if children.isEmpty then none else some (.list (Datum.ofItems (encodeAll children))))) := by
  unfold encode
  cases attrs.isEmpty <;> cases children <;> rfl

theorem attrs_written (attrs : Attributes) :
    (if attrs.isEmpty then none else some (Datum.ofJson (encodeAttrs attrs))).elim
      (some .empty) attrsOf? = some attrs := by
  split
  · next h =>
    obtain ⟨entries, _⟩ := attrs
    cases entries with
    | nil => rfl
    | cons _ _ => cases h
  · exact attrsOf?_encodeAttrs attrs

mutual
/-- A node that was written is read with its markup taken literally. -/
theorem ofDatum?_encode : (n : Node) → ofDatum? (.ofJson n.encode) = some n.literal
  | .text _ => rfl
  | .raw _ => rfl
  | .element tag attrs children => by
    have hchildren : (if children.isEmpty then none else
        some (Datum.list (Datum.ofItems (encodeAll children)))).elim (some []) ofList? =
        some (literalAll children) := by
      have hitems := ofItems?_encodeAll children
      cases children with
      | nil => rfl
      | cons _ _ => exact hitems
    rw [ofJson_encode_element, ofDatum?_elementFields, attrs_written, hchildren]
    rfl

theorem ofItems?_encodeAll : (ns : List Node) →
    ofItems? (Datum.ofItems (encodeAll ns)) = some (literalAll ns)
  | [] => rfl
  | n :: ns => by
    rw [encodeAll, Datum.ofItems, ofItems?, ofDatum?_encode n, ofItems?_encodeAll ns]
    rfl
end

end Node

namespace Fragment

theorem decode?_encode_literal (f : Fragment) : decode? f.encode = some f.literal :=
  Node.ofItems?_encodeAll f

theorem decode?_encode_of_isRawFree {f : Fragment} (h : f.isRawFree = true) :
    decode? f.encode = some f := by
  rw [decode?_encode_literal, literal, Node.literalAll_of_areRawFree f h]

/-- A written fragment is read with its markup taken literally, and a fragment that was read, in
whatever spelling, has no raw markup and comes back as it is. -/
theorem encode_round_trip :
    (∀ f : Fragment, decode? f.encode = some f.literal ∧
      (f.isRawFree = true → decode? f.encode = some f)) ∧
    ∀ (value : Json) (f : Fragment), decode? value = some f →
      f.isRawFree = true ∧ decode? f.encode = some f :=
  ⟨fun f => ⟨f.decode?_encode_literal, decode?_encode_of_isRawFree⟩,
    fun _ _ h => ⟨isRawFree_decode h, decode?_encode_of_isRawFree (isRawFree_decode h)⟩⟩

/-- Elements in the list form are written in the other one. -/
theorem encode_round_trip_list :
    ∃ (value : Json) (f : Fragment), decode? value = some f ∧ f.encode ≠ value ∧
      f.isRawFree = true ∧ decode? f.encode = some f := by
  have hread : decode? (.array [.array [.string "a", .object [("href", .string "/")],
      .array [.array [.string "br"], .string "<"]], .string "<br>"]) =
      some [.element "a" (.ofList [("href", "/")]) [.element "br" .empty [], .text "<"],
        .text "<br>"] := by
    decide +kernel
  exact ⟨_, _, hread, by decide +kernel, encode_round_trip.2 _ _ hread⟩

end Fragment

end PostSlots
