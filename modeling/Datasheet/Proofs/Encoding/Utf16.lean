import Datasheet.Proofs.Encoding.Utf8

/-!
# Text in UTF-16

Decoding undoes encoding in either byte order (`Utf16.decode_encode`). A code unit that
is half of a pair waits for the other half, any other is a character by itself.
-/

namespace Datasheet.Utf16

variable {order : ByteOrder} {n : Nat} {bytes : List UInt8}

/-- The two bytes of a code unit make up the unit. -/
theorem exists_unitBytes (order : ByteOrder) (hn : n < 0x10000) :
    ∃ a b, unitBytes order n = [a, b] ∧ order.unit a b = n := by
  have hhigh : (UInt8.ofNat (n / 256)).toNat = n / 256 := Utf8.toNat_ofNat (by omega)
  have hlow : (UInt8.ofNat n).toNat = n % 256 := UInt8.toNat_ofNat'
  cases order with
  | little =>
    refine ⟨_, _, rfl, ?_⟩
    rw [ByteOrder.unit, hhigh, hlow]
    omega
  | big =>
    refine ⟨_, _, rfl, ?_⟩
    rw [ByteOrder.unit, hhigh, hlow]
    omega

/-- A code unit that is no surrogate is a character. -/
theorem decodeFrom_unit (hn : n < 0x10000) (hhigh : isHighSurrogate n = false)
    (hlow : isLowSurrogate n = false) :
    decodeFrom order none (unitBytes order n ++ bytes) =
      some (Char.ofNat n) :: decodeFrom order none bytes := by
  obtain ⟨a, b, hbytes, hunit⟩ := exists_unitBytes order hn
  rw [hbytes, List.cons_append, List.cons_append, List.nil_append, decodeFrom, hunit]
  simp [hhigh, hlow]

/-- The first half of a pair. -/
theorem decodeFrom_high (hn : isHighSurrogate n) :
    decodeFrom order none (unitBytes order n ++ bytes) = decodeFrom order (some n) bytes := by
  have hlt : n < 0x10000 := by
    simp only [isHighSurrogate, Bool.and_eq_true, decide_eq_true_eq] at hn
    omega
  obtain ⟨a, b, hbytes, hunit⟩ := exists_unitBytes order hlt
  rw [hbytes, List.cons_append, List.cons_append, List.nil_append, decodeFrom, hunit]
  simp [hn]

/-- The second half of a pair. -/
theorem decodeFrom_low {high : Nat} (hn : isLowSurrogate n) :
    decodeFrom order (some high) (unitBytes order n ++ bytes) =
      some (Char.ofNat (0x10000 + (high - 0xD800) * 0x400 + (n - 0xDC00))) ::
        decodeFrom order none bytes := by
  have hlt : n < 0x10000 := by
    simp only [isLowSurrogate, Bool.and_eq_true, decide_eq_true_eq] at hn
    omega
  obtain ⟨a, b, hbytes, hunit⟩ := exists_unitBytes order hlt
  rw [hbytes, List.cons_append, List.cons_append, List.nil_append, decodeFrom, hunit]
  simp [hn]

/-- The bytes of a character are decoded to it, whatever follows. -/
theorem decodeFrom_encodeChar (c : Char) (bytes : List UInt8) :
    decodeFrom order none (encodeChar order c ++ bytes) =
      some c :: decodeFrom order none bytes := by
  obtain ⟨n, hn⟩ : ∃ n, c.toNat = n := ⟨_, rfl⟩
  have hvalid := hn ▸ Utf8.toNat_valid c
  have hchar : ∀ m, m = n → Char.ofNat m = c := by
    rintro m rfl
    rw [← hn, Char.ofNat_toNat]
  rw [encodeChar, hn]
  by_cases hplane : n < 0x10000
  · have hhigh : isHighSurrogate n = false := by
      simp only [isHighSurrogate, Bool.and_eq_false_iff, decide_eq_false_iff_not]
      omega
    have hlow : isLowSurrogate n = false := by
      simp only [isLowSurrogate, Bool.and_eq_false_iff, decide_eq_false_iff_not]
      omega
    rw [if_pos hplane, decodeFrom_unit hplane hhigh hlow, hchar n rfl]
  · have hhigh : isHighSurrogate (0xD800 + (n - 0x10000) / 0x400) := by
      simp only [isHighSurrogate, Bool.and_eq_true, decide_eq_true_eq]
      omega
    have hlow : isLowSurrogate (0xDC00 + (n - 0x10000) % 0x400) := by
      simp only [isLowSurrogate, Bool.and_eq_true, decide_eq_true_eq]
      omega
    rw [if_neg hplane, List.append_assoc, decodeFrom_high hhigh, decodeFrom_low hlow,
      hchar _ (by omega)]

theorem decode_encode (order : ByteOrder) (cs : List Char) :
    decode order (encode order cs) = cs.map some := by
  induction cs with
  | nil => rfl
  | cons c cs ih =>
    rw [encode, List.flatMap_cons, decode, decodeFrom_encodeChar]
    exact congrArg (some c :: ·) ih

end Datasheet.Utf16
