import JavaSyntax.Text.Source

/-!
# Decoding — bytes that are decoded, and cuts that fall between characters

A piece of a source text is found in two ways. Raw nodes decode the bytes of the piece, and have no text
if these are not UTF-8. Spans look at the two cuts, and have no text unless both fall between characters.
The two come to the same: bytes between two such cuts are characters, and bytes between other cuts are
none. Only where there are no bytes at all the ways differ, inside a character, and both texts are empty
there.

* `slice?_eq_some_iff`: a piece that is cut out stands between a text before it and one after it;
* `decode?_eq_some_iff`: what is decoded has the bytes between the cuts;
* `decode?_of_slice?`, `slice?_of_decode?`: what is cut out is decoded, and the other way round if the
  cuts fall between characters;
* `decode_eq_slice`: decoding and cutting give the same text.
-/

namespace JavaSyntax

namespace Source

variable {source text : String} {start stop n : Nat} {cs rest taken : List Char}

/-! ## Characters and bytes -/

theorem size_utf8Encode_cons (c : Char) (cs : List Char) :
    (c :: cs).utf8Encode.size = c.utf8Size + cs.utf8Encode.size := by
  rw [← List.singleton_append, List.utf8Encode_append, ByteArray.size_append,
    List.utf8Encode_singleton, List.size_toByteArray, String.length_utf8EncodeChar]

theorem size_utf8Encode_toList (text : String) :
    text.toList.utf8Encode.size = text.utf8ByteSize := by
  rw [String.utf8Encode_toList, String.size_toByteArray]

/-- The bytes of characters with one before them are a successor, as the recursion expects them, and
taking the first character off leaves the bytes of the others. -/
theorem size_utf8Encode_cons_eq_succ (c : Char) (cs : List Char) :
    ∃ m, (c :: cs).utf8Encode.size = m + 1 ∧ c.utf8Size ≤ m + 1 ∧
      m + 1 - c.utf8Size = cs.utf8Encode.size := by
  have wide := c.utf8Size_pos
  have size := size_utf8Encode_cons c cs
  obtain ⟨m, succ⟩ : ∃ m, (c :: cs).utf8Encode.size = m + 1 :=
    Nat.exists_eq_add_one_of_ne_zero (by omega)
  exact ⟨m, succ, by omega, by omega⟩

/-- What is left after `n` bytes stands behind characters that have `n` bytes. -/
theorem dropBytes?_eq_some_iff :
    dropBytes? n cs = some rest ↔ ∃ before, cs = before ++ rest ∧ before.utf8Encode.size = n := by
  constructor
  · intro found
    fun_induction dropBytes? n cs with
    | case1 cs => exact ⟨[], Option.some.inj found, rfl⟩
    | case2 n => cases found
    | case3 n c cs fits ih =>
      obtain ⟨before, rfl, size⟩ := ih found
      exact ⟨c :: before, rfl, by rw [size_utf8Encode_cons]; omega⟩
    | case4 n c cs cut => cases found
  · rintro ⟨before, rfl, rfl⟩
    induction before with
    | nil => rw [List.utf8Encode_nil, ByteArray.size_empty, List.nil_append, dropBytes?]
    | cons c before ih =>
      obtain ⟨m, size, fits, left⟩ := size_utf8Encode_cons_eq_succ c before
      rw [size, List.cons_append, dropBytes?, if_pos fits, left, ih]

/-- What makes up `n` bytes is what the characters begin with. -/
theorem takeBytes?_eq_some_iff :
    takeBytes? n cs = some taken ↔ ∃ after, cs = taken ++ after ∧ taken.utf8Encode.size = n := by
  constructor
  · intro found
    fun_induction takeBytes? n cs generalizing taken with
    | case1 cs =>
      cases found
      exact ⟨cs, rfl, rfl⟩
    | case2 n => cases found
    | case3 n c cs fits ih =>
      obtain ⟨others, taken, rfl⟩ := Option.map_eq_some_iff.mp found
      obtain ⟨after, rfl, size⟩ := ih taken
      exact ⟨after, rfl, by rw [size_utf8Encode_cons]; omega⟩
    | case4 n c cs cut => cases found
  · rintro ⟨after, rfl, rfl⟩
    induction taken with
    | nil => rw [List.utf8Encode_nil, ByteArray.size_empty, takeBytes?]
    | cons c taken ih =>
      obtain ⟨m, size, fits, left⟩ := size_utf8Encode_cons_eq_succ c taken
      rw [size, List.cons_append, takeBytes?, if_pos fits, left, ih, Option.map_some]

/-! ## Pieces -/

/-- A piece that is cut out stands between a text before it and a text after it. -/
theorem slice?_eq_some_iff :
    slice? source start stop = some text ↔
      ∃ before after, source = before ++ text ++ after ∧ start = before.utf8ByteSize ∧
        stop = start + text.utf8ByteSize := by
  constructor
  · intro found
    unfold slice? at found
    split at found
    · obtain ⟨piece, cut, rfl⟩ := Option.map_eq_some_iff.mp found
      obtain ⟨rest, dropped, taken⟩ := Option.bind_eq_some_iff.mp cut
      obtain ⟨before, split, size⟩ := dropBytes?_eq_some_iff.mp dropped
      obtain ⟨after, rfl, sizes⟩ := takeBytes?_eq_some_iff.mp taken
      refine ⟨String.ofList before, String.ofList after, ?_, ?_, ?_⟩
      · rw [← String.ofList_append, ← String.ofList_append, List.append_assoc, ← split,
          String.ofList_toList]
      · rw [← size_utf8Encode_toList, String.toList_ofList, size]
      · rw [← size_utf8Encode_toList, String.toList_ofList, sizes]
        omega
    · cases found
  · rintro ⟨before, after, rfl, rfl, rfl⟩
    have dropped : dropBytes? before.utf8ByteSize (before ++ text ++ after).toList =
        some (text.toList ++ after.toList) :=
      dropBytes?_eq_some_iff.mpr ⟨before.toList, by simp, size_utf8Encode_toList before⟩
    have found : takeBytes? text.utf8ByteSize (text.toList ++ after.toList) = some text.toList :=
      takeBytes?_eq_some_iff.mpr ⟨after.toList, rfl, size_utf8Encode_toList text⟩
    rw [slice?, if_pos (Nat.le_add_right _ _), Nat.add_sub_cancel_left, dropped, Option.bind_some,
      found, Option.map_some, String.ofList_toList]

/-! ## Bytes -/

/-- Bytes decode to the text whose bytes they are. -/
theorem fromUTF8?_eq_some_iff {bytes : ByteArray} :
    String.fromUTF8? bytes = some text ↔ bytes = text.toByteArray := by
  constructor
  · intro found
    unfold String.fromUTF8? at found
    split at found
    · cases found
      rfl
    · cases found
  · rintro rfl
    rw [String.fromUTF8?, dif_pos text.isValidUTF8]
    rfl

/-- What is decoded has the bytes between the cuts, within the text. -/
theorem decode?_eq_some_iff :
    decode? source start stop = some text ↔ start ≤ stop ∧ stop ≤ source.utf8ByteSize ∧
      source.toByteArray.extract start stop = text.toByteArray := by
  unfold decode? bytesBetween?
  split
  case isTrue within =>
    rw [Option.bind_some, fromUTF8?_eq_some_iff]
    exact ⟨fun same => ⟨within.1, within.2, same⟩, fun found => found.2.2⟩
  case isFalse outside =>
    rw [Option.bind_none]
    constructor
    · intro found
      cases found
    · rintro ⟨proper, within, -⟩
      exact absurd ⟨proper, within⟩ outside

/-- Where no bytes lie between the cuts only the empty text is decoded. -/
theorem eq_empty_of_decode? (found : decode? source start stop = some text)
    (reversed : stop ≤ start) : text = "" := by
  obtain ⟨-, -, bytes⟩ := decode?_eq_some_iff.mp found
  have nothing : source.toByteArray.extract start stop = "".toByteArray :=
    ByteArray.extract_eq_empty_iff.mpr (Nat.le_trans (Nat.min_le_left _ _) reversed)
  exact String.toByteArray_inj.mp (bytes.symm.trans nothing)

theorem decode_eq_empty_of_le (source : String) (reversed : stop ≤ start) :
    decode source start stop = "" := by
  unfold decode
  cases found : decode? source start stop with
  | none => rfl
  | some text => exact eq_empty_of_decode? found reversed

/-- A piece that is cut out is also decoded. -/
theorem decode?_of_slice? (found : slice? source start stop = some text) :
    decode? source start stop = some text := by
  obtain ⟨before, after, rfl, rfl, rfl⟩ := slice?_eq_some_iff.mp found
  refine decode?_eq_some_iff.mpr ⟨Nat.le_add_right _ _, ?_, ?_⟩
  · rw [String.utf8ByteSize_append, String.utf8ByteSize_append]
    exact Nat.le_add_right _ _
  · rw [String.append_assoc, String.toByteArray_append, String.toByteArray_append,
      ← String.size_toByteArray, ← String.size_toByteArray]
    exact (ByteArray.extract_append_size_add (i := 0)).trans (ByteArray.extract_append_eq_left rfl)

/-- What is decoded between two positions of the text is also cut out: the bytes before it and those
after it are texts then. -/
theorem slice?_of_decode? (found : decode? source start stop = some text)
    (starts : String.Pos.Raw.IsValid source ⟨start⟩)
    (stops : String.Pos.Raw.IsValid source ⟨stop⟩) : slice? source start stop = some text := by
  obtain ⟨proper, within, bytes⟩ := decode?_eq_some_iff.mp found
  let before : String := ⟨source.toByteArray.extract 0 start, starts.isValidUTF8_extract_zero⟩
  let after : String := ⟨source.toByteArray.extract stop source.utf8ByteSize,
    stops.isValidUTF8_extract_utf8ByteSize⟩
  have joined : source = before ++ text ++ after := by
    apply String.toByteArray_inj.mp
    rw [String.toByteArray_append, String.toByteArray_append, ← bytes,
      ← ByteArray.extract_eq_extract_append_extract start (Nat.zero_le _) proper,
      ← ByteArray.extract_eq_extract_append_extract stop (Nat.zero_le _) within,
      ← String.size_toByteArray, ByteArray.extract_zero_size]
  have size : before.utf8ByteSize = start := by
    rw [← String.size_toByteArray, ByteArray.size_extract, String.size_toByteArray]
    omega
  have length : text.utf8ByteSize = stop - start := by
    rw [← String.size_toByteArray, ← bytes, ByteArray.size_extract, String.size_toByteArray]
    omega
  exact slice?_eq_some_iff.mpr ⟨before, after, joined, size.symm, by omega⟩

/-- **Decoding and cutting give the same text**, whatever the offsets are. -/
theorem decode_eq_slice (source : String) (start stop : Nat) :
    decode source start stop = slice source start stop := by
  unfold decode slice
  cases cut : slice? source start stop with
  | some text => rw [decode?_of_slice? cut]
  | none =>
    cases found : decode? source start stop with
    | none => rfl
    | some text =>
      obtain ⟨proper, within, bytes⟩ := decode?_eq_some_iff.mp found
      have valid := text.isValidUTF8
      rw [← bytes] at valid
      obtain same | ⟨starts, stops⟩ :=
        (String.Pos.Raw.isValidUTF8_extract_iff ⟨start⟩ ⟨stop⟩ proper within).mp valid
      · cases same
        exact eq_empty_of_decode? found (Nat.le_refl _)
      · rw [slice?_of_decode? found starts stops] at cut
        cases cut

end Source

end JavaSyntax
