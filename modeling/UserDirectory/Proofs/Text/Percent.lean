import UserDirectory.Proofs.Text.Utf8
import UserDirectory.Text.Percent

/-!
# Percent-encoded texts

A text that is percent-encoded is read back as it was, whatever its characters are, if the percent
sign itself is encoded. The encoded text is made of safe characters, percent signs, letters and
digits.
-/
namespace UserDirectory.Text

namespace Utf8

theorem decodeLenient_encode (s : List Char) : decodeLenient (encode s) = s := by
  rw [decodeLenient, scan_encode, List.map_map]
  exact List.map_id s

end Utf8

namespace Percent

variable {safe : Char → Bool}

/-! ## Bytes -/

theorem hexValue?_hexDigit : ∀ v < 16, hexValue? (hexDigit v) = some v := by decide

theorem isAlphanum_hexDigit : ∀ v < 16, (hexDigit v).isAlphanum = true := by decide

theorem byte?_hexDigits (b : UInt8) :
    byte? (hexDigit (b.toNat / 16)) (hexDigit (b.toNat % 16)) = some b := by
  have bound := b.toNat_lt
  rw [byte?, hexValue?_hexDigit _ (by omega), hexValue?_hexDigit _ (by omega)]
  exact congrArg some (Utf8.ofNat_eq (by omega))

theorem decodeBytes_encodeByte_append (b : UInt8) (rest : List Char) :
    decodeBytes (encodeByte b ++ rest) = b :: decodeBytes rest := by
  simp only [encodeByte, List.cons_append, List.nil_append, decodeBytes, byte?_hexDigits]

theorem decodeBytes_flatMap_append (bytes : List UInt8) (rest : List Char) :
    decodeBytes (bytes.flatMap encodeByte ++ rest) = bytes ++ decodeBytes rest := by
  induction bytes with
  | nil => rfl
  | cons b bytes ih =>
    rw [List.flatMap_cons, List.append_assoc, decodeBytes_encodeByte_append, ih, List.cons_append]

/-! ## Texts -/

theorem decodeBytes_cons {c : Char} (plain : c ≠ '%') (rest : List Char) :
    decodeBytes (c :: rest) = Utf8.encodeChar c ++ decodeBytes rest := by
  rw [decodeBytes]
  exact fun a b more same _ => plain same

theorem encode_cons (c : Char) (s : List Char) :
    encode safe (c :: s) = (if safe c then [c] else (Utf8.encodeChar c).flatMap encodeByte) ++
      encode safe s :=
  List.flatMap_cons

theorem decodeBytes_encode (encoded : safe '%' = false) (s : List Char) :
    decodeBytes (encode safe s) = Utf8.encode s := by
  induction s with
  | nil => rfl
  | cons c s ih =>
    rw [encode_cons, Utf8.encode_cons]
    split
    · rename_i kept
      have plain : c ≠ '%' := by
        rintro rfl
        rw [encoded] at kept
        cases kept
      rw [List.singleton_append, decodeBytes_cons plain, ih]
    · rw [decodeBytes_flatMap_append, ih]

theorem decode_encode (encoded : safe '%' = false) (s : List Char) :
    decode (encode safe s) = s := by
  rw [decode, decodeBytes_encode encoded, Utf8.decodeLenient_encode]

/-- What an encoded text is made of. -/
theorem mem_encode {s : List Char} {c : Char} (h : c ∈ encode safe s) :
    safe c = true ∨ c = '%' ∨ c.isAlphanum = true := by
  obtain ⟨d, -, hd⟩ := List.mem_flatMap.1 h
  split at hd
  · rename_i kept
    obtain rfl := List.mem_singleton.1 hd
    exact .inl kept
  · obtain ⟨b, -, hb⟩ := List.mem_flatMap.1 hd
    have bound := b.toNat_lt
    simp only [encodeByte, List.mem_cons, List.not_mem_nil, or_false] at hb
    rcases hb with rfl | rfl | rfl
    · exact .inr (.inl rfl)
    · exact .inr (.inr (isAlphanum_hexDigit _ (by omega)))
    · exact .inr (.inr (isAlphanum_hexDigit _ (by omega)))

end Percent

end UserDirectory.Text
