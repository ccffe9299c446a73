import PostSlots.Url.Query

/-!
# Query pairs can be read back

Whatever name and value a pair has, its form encoding is read as this one pair: neither can end
the pair early, begin another one, or lose a character.

Results:
1. `percentDecode_bytes`: percent encoding of bytes is read back.
2. `Query.decode?_encode`: the form encoding of a text is read back.
3. `Query.decodePairs?_encodePair`: the encoding of a pair is read as this pair and no other.
-/

namespace PostSlots.Url

/-! ## Bytes -/

/-- The digit of a value below sixteen, as bytes are written. -/
theorem hexDigit?_digit :
    ∀ n < 16, Text.hexDigit? (Char.toUpper (Nat.digitChar n)) = some n := by
  decide

theorem percentDecode_percentByte (b : UInt8) (cs : List Char) :
    percentDecode (percentByte b ++ cs) = b :: percentDecode cs := by
  have hb : b.toNat < 256 := b.toNat_lt
  have hhigh := hexDigit?_digit (b.toNat / 16) (by omega)
  have hlow := hexDigit?_digit (b.toNat % 16) (by omega)
  have hvalue : 16 * (b.toNat / 16) + b.toNat % 16 = b.toNat := by omega
  simp only [percentByte, Text.hexByte, List.map_cons, List.map_nil, List.cons_append,
    List.nil_append]
  rw [percentDecode, hhigh, hlow]
  simp only [hvalue, UInt8.ofNat_toNat]

theorem percentDecode_bytes (bs : List UInt8) (cs : List Char) :
    percentDecode (bs.flatMap percentByte ++ cs) = bs ++ percentDecode cs := by
  induction bs with
  | nil => rfl
  | cons b bs ih =>
    rw [List.flatMap_cons, List.append_assoc, percentDecode_percentByte, ih, List.cons_append]

/-- Only a percent sign begins a byte. -/
theorem percentDecode_cons {c : Char} (hc : c ≠ '%') (cs : List Char) :
    percentDecode (c :: cs) = String.utf8EncodeChar c ++ percentDecode cs := by
  rw [percentDecode]
  intro a b ds h
  exact absurd h hc

/-- The bytes of a text are the bytes of this text only. -/
theorem utf8Text?_bytes (cs : List Char) :
    utf8Text? (cs.flatMap String.utf8EncodeChar) = some cs := by
  have hbytes : (⟨(cs.flatMap String.utf8EncodeChar).toArray⟩ : ByteArray) = cs.utf8Encode := by
    rw [List.utf8Encode]
    exact ByteArray.ext (by simp)
  have hread : String.fromUTF8? cs.utf8Encode = some (String.ofList cs) := by
    rw [String.fromUTF8?, dif_pos ⟨cs, rfl⟩]
    rfl
  rw [utf8Text?, hbytes, hread, Option.map_some, String.toList_ofList]

namespace Query

/-! ## One text -/

/-- The characters that form encoding leaves: free ones, and those that stand for others. -/
def isCode (c : Char) : Bool :=
  isFree c || c == '+' || c == '%'

theorem isFree_digit : ∀ n < 16, isFree (Char.toUpper (Nat.digitChar n)) = true := by
  decide

theorem percentByte_code (b : UInt8) : ∀ c ∈ percentByte b, c = '%' ∨ isFree c = true := by
  have hb : b.toNat < 256 := b.toNat_lt
  have hhigh := isFree_digit (b.toNat / 16) (by omega)
  have hlow := isFree_digit (b.toNat % 16) (by omega)
  intro c hc
  simp only [percentByte, Text.hexByte, List.map_cons, List.map_nil, List.mem_cons,
    List.not_mem_nil, or_false] at hc
  rcases hc with rfl | rfl | rfl
  · exact Or.inl rfl
  · exact Or.inr hhigh
  · exact Or.inr hlow

theorem bytes_code (bs : List UInt8) :
    ∀ c ∈ bs.flatMap percentByte, c = '%' ∨ isFree c = true := by
  intro c hc
  obtain ⟨b, _, hcb⟩ := List.mem_flatMap.1 hc
  exact percentByte_code b c hcb

theorem encode_code (text : String) : ∀ c ∈ encode text, isCode c = true := by
  intro c hc
  obtain ⟨d, _, hcd⟩ := List.mem_flatMap.1 hc
  rw [encodeChar] at hcd
  split at hcd
  · next hfree => rw [List.mem_singleton.1 hcd, isCode, hfree]; rfl
  · split at hcd
    · rw [List.mem_singleton.1 hcd]; decide
    · rcases bytes_code _ c hcd with rfl | hfree
      · decide
      · rw [isCode, hfree]; rfl

/-- A plus sign is read as a blank. -/
def readPlus (c : Char) : Char :=
  if c = '+' then ' ' else c

theorem readPlus_of_ne {c : Char} (hc : c ≠ '+') : readPlus c = c :=
  if_neg hc

theorem ne_of_isFree {c : Char} (hc : isFree c = true) : c ≠ '+' ∧ c ≠ '%' := by
  constructor
  · rintro rfl
    exact absurd hc (by decide)
  · rintro rfl
    exact absurd hc (by decide)

theorem map_readPlus_bytes (bs : List UInt8) :
    (bs.flatMap percentByte).map readPlus = bs.flatMap percentByte := by
  have hsame : ∀ c ∈ bs.flatMap percentByte, readPlus c = c := by
    intro c hc
    rcases bytes_code bs c hc with rfl | hfree
    · rfl
    · exact readPlus_of_ne (ne_of_isFree hfree).1
  rw [List.map_congr_left hsame, List.map_id']

theorem percentDecode_encodeChar (c : Char) (cs : List Char) :
    percentDecode ((encodeChar c).map readPlus ++ cs) =
      String.utf8EncodeChar c ++ percentDecode cs := by
  rw [encodeChar]
  split
  · next hfree =>
    obtain ⟨hplus, hpercent⟩ := ne_of_isFree hfree
    rw [List.map_singleton, readPlus_of_ne hplus]
    exact percentDecode_cons hpercent cs
  · split
    · next hblank => rw [hblank]; exact percentDecode_cons (by decide) cs
    · rw [map_readPlus_bytes, percentDecode_bytes]

theorem percentDecode_encode (cs : List Char) :
    percentDecode ((cs.flatMap encodeChar).map readPlus) = cs.flatMap String.utf8EncodeChar := by
  induction cs with
  | nil => rfl
  | cons c cs ih =>
    rw [List.flatMap_cons, List.map_append, percentDecode_encodeChar, ih, List.flatMap_cons]

theorem decode?_encode (text : String) : decode? (encode text) = some text := by
  -- plus signs become blanks before bytes are decoded, so an encoded plus sign stays one
  have hbytes := percentDecode_encode text.toList
  rw [decode?]
  change (utf8Text? (percentDecode ((text.toList.flatMap encodeChar).map readPlus))).map
    String.ofList = some text
  rw [hbytes, utf8Text?_bytes, Option.map_some, String.ofList_toList]

/-! ## Pairs -/

theorem notMem_encode {c : Char} (hc : isCode c = false) (text : String) : c ∉ encode text := by
  intro hmem
  rw [encode_code text c hmem] at hc
  cases hc

/-- What stands in front of the first separator, and behind it. -/
theorem takeWhile_eq_append {c : Char} {cs : List Char} (hcs : c ∉ cs) (ds : List Char) :
    (cs ++ c :: ds).takeWhile (· != c) = cs ∧ (cs ++ c :: ds).dropWhile (· != c) = c :: ds := by
  have hpass : ∀ d ∈ cs, (d != c) = true := by
    intro d hd
    exact bne_iff_ne.2 fun e => hcs (e ▸ hd)
  rw [List.takeWhile_append_of_pos hpass, List.dropWhile_append_of_pos hpass]
  simp

theorem decodePair?_encodePair (pair : String × String) :
    decodePair? (encodePair pair) = some pair := by
  have hname : '=' ∉ encode pair.1 := notMem_encode (by decide) pair.1
  obtain ⟨hbefore, hbehind⟩ := takeWhile_eq_append hname (encode pair.2)
  rw [decodePair?, encodePair, hbefore, hbehind, decode?_encode, List.drop_one, List.tail_cons,
    decode?_encode]
  rfl

/-- The encoding of a pair is read as this pair and no other. -/
theorem decodePairs?_encodePair (pair : String × String) :
    decodePairs? (String.ofList (encodePair pair)) = some [pair] := by
  have hname : '&' ∉ encode pair.1 := notMem_encode (by decide) pair.1
  have hvalue : '&' ∉ encode pair.2 := notMem_encode (by decide) pair.2
  have hpair : '&' ∉ encodePair pair := by simp [encodePair, hname, hvalue]
  have hne : encodePair pair ≠ [] := by simp [encodePair]
  rw [decodePairs?, String.toList_ofList, Text.tokens_of_notMem hpair hne, List.mapM_cons,
    decodePair?_encodePair]
  rfl

end Query

end PostSlots.Url
