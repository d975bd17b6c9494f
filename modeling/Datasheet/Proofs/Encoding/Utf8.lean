import Datasheet.Encoding.Basic

/-!
# Text in UTF-8

Decoding undoes encoding (`Utf8.decode_encode`), and a file that holds a text in
UTF-8 without a byte-order mark is read as that text (`Encoding.decodeFile_encode`).
-/

namespace Datasheet

namespace Utf8

/-- Code points are below `0x110000`, without the surrogates. -/
theorem toNat_valid (c : Char) : c.toNat < 0xD800 ∨ 0xDFFF < c.toNat ∧ c.toNat < 0x110000 :=
  c.valid

theorem toNat_ofNat {n : Nat} (h : n < 256) : (UInt8.ofNat n).toNat = n :=
  Nat.mod_eq_of_lt h

/-- A byte that the open character expects takes it one step on. -/
theorem decodeFrom_next {o : Open} {b : Nat} {bytes : List UInt8} (hb : b < 256)
    (hleast : o.least ≤ b) (hgreatest : b ≤ o.greatest) (howed : o.owed ≠ 1) :
    decodeFrom (some o) (UInt8.ofNat b :: bytes) =
      decodeFrom (some ⟨o.value * 64 + (b - 0x80), o.owed - 1, 0x80, 0xBF⟩) bytes := by
  rw [decodeFrom, toNat_ofNat hb]
  simp [hleast, hgreatest, howed]

/-- The last byte of a character. -/
theorem decodeFrom_last {o : Open} {b : Nat} {bytes : List UInt8} (hb : b < 256)
    (hleast : o.least ≤ b) (hgreatest : b ≤ o.greatest) (howed : o.owed = 1) :
    decodeFrom (some o) (UInt8.ofNat b :: bytes) =
      some (Char.ofNat (o.value * 64 + (b - 0x80))) :: decodeFrom none bytes := by
  rw [decodeFrom, toNat_ofNat hb]
  simp [hleast, hgreatest, howed]

/-- The first byte of a character of several. -/
theorem decodeFrom_start {b : Nat} {o : Open} {bytes : List UInt8} (hb : b < 256)
    (h : lead b = .start o) :
    decodeFrom none (UInt8.ofNat b :: bytes) = decodeFrom (some o) bytes := by
  rw [decodeFrom, toNat_ofNat hb, h]

theorem lead_one {b : Nat} (h : b < 0x80) : lead b = .char (Char.ofNat b) := if_pos h

theorem lead_two {b : Nat} (hge : 0xC2 ≤ b) (hlt : b < 0xE0) :
    lead b = .start ⟨b - 0xC0, 1, 0x80, 0xBF⟩ := by
  rw [lead, if_neg (by omega), if_neg (by omega), if_pos hlt]

theorem lead_three {b : Nat} (hge : 0xE0 ≤ b) (hlt : b < 0xF0) :
    lead b = .start ⟨b - 0xE0, 2, if b = 0xE0 then 0xA0 else 0x80,
      if b = 0xED then 0x9F else 0xBF⟩ := by
  rw [lead, if_neg (by omega), if_neg (by omega), if_neg (by omega), if_pos hlt]

theorem lead_four {b : Nat} (hge : 0xF0 ≤ b) (hlt : b < 0xF5) :
    lead b = .start ⟨b - 0xF0, 3, if b = 0xF0 then 0x90 else 0x80,
      if b = 0xF4 then 0x8F else 0xBF⟩ := by
  rw [lead, if_neg (by omega), if_neg (by omega), if_neg (by omega), if_neg (by omega), if_pos hlt]

/-- The bytes of a character are decoded to it, whatever follows. -/
theorem decodeFrom_encodeChar (c : Char) (bytes : List UInt8) :
    decodeFrom none (encodeChar c ++ bytes) = some c :: decodeFrom none bytes := by
  obtain ⟨n, hn⟩ : ∃ n, c.toNat = n := ⟨_, rfl⟩
  have hvalid := hn ▸ toNat_valid c
  have hchar : ∀ m, m = n → some (Char.ofNat m) :: decodeFrom none bytes =
      some c :: decodeFrom none bytes := by
    rintro m rfl
    rw [← hn, Char.ofNat_toNat]
  rw [encodeChar, hn]
  by_cases h1 : n < 0x80
  · simp only [h1, ↓reduceIte, List.map_cons, List.map_nil, List.cons_append, List.nil_append]
    rw [decodeFrom, toNat_ofNat (by omega), lead_one h1]
    exact hchar n rfl
  by_cases h2 : n < 0x800
  · simp only [h1, h2, ↓reduceIte, List.map_cons, List.map_nil, List.cons_append, List.nil_append]
    rw [decodeFrom_start (by omega) (lead_two (by omega) (by omega)),
      decodeFrom_last (by omega) (by dsimp only; omega) (by dsimp only; omega) rfl]
    exact hchar _ (by dsimp only; omega)
  by_cases h3 : n < 0x10000
  · simp only [h1, h2, h3, ↓reduceIte, List.map_cons, List.map_nil, List.cons_append,
      List.nil_append]
    rw [decodeFrom_start (by omega) (lead_three (by omega) (by omega)),
      decodeFrom_next (by omega) (by dsimp only; split <;> omega) (by dsimp only; split <;> omega)
        (Nat.succ_ne_self 1),
      decodeFrom_last (by omega) (by dsimp only; omega) (by dsimp only; omega) rfl]
    exact hchar _ (by dsimp only; omega)
  · simp only [h1, h2, h3, ↓reduceIte, List.map_cons, List.map_nil, List.cons_append,
      List.nil_append]
    rw [decodeFrom_start (by omega) (lead_four (by omega) (by omega)),
      decodeFrom_next (by omega) (by dsimp only; split <;> omega) (by dsimp only; split <;> omega)
        (by simp),
      decodeFrom_next (by omega) (by dsimp only; omega) (by dsimp only; omega) (by simp),
      decodeFrom_last (by omega) (by dsimp only; omega) (by dsimp only; omega) rfl]
    exact hchar _ (by dsimp only; omega)

theorem decode_encode (cs : List Char) : decode (encode cs) = cs.map some := by
  induction cs with
  | nil => rfl
  | cons c cs ih =>
    rw [encode, List.flatMap_cons, decode, decodeFrom_encodeChar]
    exact congrArg (some c :: ·) ih

theorem isValid_encode (cs : List Char) : isValid (encode cs) = true := by
  simp [isValid, decode_encode]

end Utf8

namespace Encoding

/-- The bytes of a text start with no byte-order mark unless the text does. -/
theorem ofMark?_encode {cs : List Char} (h : cs.head? ≠ some '\uFEFF') :
    ofMark? (Utf8.encode cs) = none := by
  have hdecode := Utf8.decode_encode cs
  rw [ofMark?.eq_def]
  split
  · rename_i rest hbytes
    have hmark : Utf8.decode (0xEF :: 0xBB :: 0xBF :: rest) =
        some '\uFEFF' :: Utf8.decode rest := rfl
    rw [hbytes, hmark] at hdecode
    cases cs with
    | nil => cases hdecode
    | cons c cs => exact absurd (congrArg some (Option.some.inj (List.cons.inj hdecode).1).symm) h
  · rename_i rest hbytes
    have hmark : Utf8.decode (0xFF :: 0xFE :: rest) = none :: none :: Utf8.decode rest := rfl
    rw [hbytes, hmark] at hdecode
    cases cs <;> cases hdecode
  · rename_i rest hbytes
    have hmark : Utf8.decode (0xFE :: 0xFF :: rest) = none :: none :: Utf8.decode rest := rfl
    rw [hbytes, hmark] at hdecode
    cases cs <;> cases hdecode
  · rfl

theorem decodeFile_encode (guess : EncodingGuess) {cs : List Char}
    (h : cs.head? ≠ some '\uFEFF') : decodeFile guess (Utf8.encode cs) = cs := by
  rw [decodeFile, detect, ofMark?_encode h]
  simp only [Utf8.isValid_encode, ↓reduceIte, decode, Utf8.decode_encode, replaceMalformed,
    List.map_map]
  exact List.map_id cs

end Encoding

end Datasheet
