import AccessBroker.Iam.Source
import AccessBroker.Proofs.NormalForms

/-! # Encoded policy documents

A policy document travels with its bytes written as they are or by two
hexadecimal digits after a percent sign.  However they are mixed, decoding finds
the bytes again, and so the very value that reading the document would give.
Bytes that write no text are refused.
-/

namespace AccessBroker

namespace Text

/-! ## Bytes and texts -/

theorem bytes_ofList (cs : List Char) :
    bytes (String.ofList cs) = cs.flatMap String.utf8EncodeChar := by
  simp only [bytes, String.toUTF8, String.toByteArray_ofList, List.utf8Encode,
    List.data_toByteArray]

theorem ofBytes?_eq_some_iff {bs : List UInt8} {t : String} :
    ofBytes? bs = some t ↔ bytes t = bs := by
  unfold ofBytes? String.fromUTF8?
  constructor
  · intro found
    split at found
    · cases found
      rfl
    · cases found
  · rintro rfl
    have valid : ByteArray.IsValidUTF8 ⟨(bytes t).toArray⟩ := t.isValidUTF8
    rw [dif_pos valid]
    rfl

theorem utf8EncodeChar_ofNat {b : UInt8} (ascii : b < 0x80) :
    String.utf8EncodeChar (Char.ofNat b.toNat) = [b] := by
  have below : b.toNat < 128 := UInt8.lt_iff_toNat_lt.1 ascii
  have same : (Char.ofNat b.toNat).val.toNat = b.toNat := toNat_ofNat (.inl (by omega))
  have one : (Char.ofNat b.toNat).utf8Size = 1 := by
    rw [Char.utf8Size_eq_one_iff, UInt32.le_iff_toNat_le, same]
    exact Nat.le_of_lt_succ below
  rw [String.utf8EncodeChar_eq_singleton one]
  congr 1
  apply UInt8.toNat_inj.1
  rw [UInt32.toNat_toUInt8, same]
  omega

/-! ## Hexadecimal digits -/

def IsHexDigit (c : Char) (n : Nat) : Prop :=
  "0123456789abcdef".toList[n]? = some c ∨ "0123456789ABCDEF".toList[n]? = some c

/-- A list of bytes written in characters: each byte by a percent sign and its two digits, or, if it
is that of an ASCII character other than the percent sign, as that character. -/
inductive PercentWritten : List UInt8 → List Char → Prop where
  | nil : PercentWritten [] []
  | plain {b : UInt8} {bs : List UInt8} {cs : List Char} (ascii : b < 0x80) (mark : b ≠ 0x25)
      (rest : PercentWritten bs cs) : PercentWritten (b :: bs) (Char.ofNat b.toNat :: cs)
  | escaped {b : UInt8} {bs : List UInt8} {high low : Char} {cs : List Char}
      (highDigit : IsHexDigit high (b.toNat / 16)) (lowDigit : IsHexDigit low (b.toNat % 16))
      (rest : PercentWritten bs cs) : PercentWritten (b :: bs) ('%' :: high :: low :: cs)

/-- Both spellings of the digits, number by number. -/
theorem digits_read :
    ["0123456789abcdef".toList, "0123456789ABCDEF".toList].all (fun digits =>
      (List.range 16).all fun n => (digits[n]?).all fun c =>
        String.utf8EncodeChar c == [c.toNat.toUInt8] &&
          hexDigit? c.toNat.toUInt8 == some n.toUInt8) = true := by
  decide +kernel

theorem IsHexDigit.read {c : Char} {n : Nat} (h : IsHexDigit c n) :
    String.utf8EncodeChar c = [c.toNat.toUInt8] ∧
      hexDigit? c.toNat.toUInt8 = some n.toUInt8 := by
  have below : n < 16 := by
    rcases h with h | h <;> exact (List.getElem?_eq_some_iff.1 h).1
  have all := List.all_eq_true.1 digits_read
  rcases h with h | h
  · have here := List.all_eq_true.1 (all _ List.mem_cons_self) n (List.mem_range.2 below)
    rw [h] at here
    simpa using here
  · have here := List.all_eq_true.1 (all _ (List.mem_cons_of_mem _ List.mem_cons_self)) n
      (List.mem_range.2 below)
    rw [h] at here
    simpa using here

theorem hexByte?_digits {b high low : UInt8} (hh : hexDigit? high = some (b.toNat / 16).toUInt8)
    (hl : hexDigit? low = some (b.toNat % 16).toUInt8) : hexByte? high low = some b := by
  have byte : (b.toNat / 16).toUInt8 * 16 + (b.toNat % 16).toUInt8 = b := by
    apply UInt8.toNat_inj.1
    have := b.toNat_lt
    simp
    omega
  rw [hexByte?, hh, hl]
  exact congrArg some byte

/-! ## Decoding -/

theorem percentDecode_cons {b : UInt8} {rest : List UInt8} (mark : b ≠ 0x25) :
    percentDecode (b :: rest) = b :: percentDecode rest := by
  rw [percentDecode]
  rintro high low tail ⟨⟩
  exact absurd rfl mark

theorem percentDecode_escape {b high low : UInt8} {rest : List UInt8}
    (digits : hexByte? high low = some b) :
    percentDecode (0x25 :: high :: low :: rest) = b :: percentDecode rest := by
  rw [percentDecode, digits]

/-- However bytes are written, they are found again. -/
theorem PercentWritten.decode {bs : List UInt8} {cs : List Char} (h : PercentWritten bs cs) :
    percentDecode (bytes (String.ofList cs)) = bs := by
  rw [bytes_ofList]
  induction h with
  | nil => rfl
  | @plain b bs cs ascii mark rest ih =>
    rw [List.flatMap_cons, utf8EncodeChar_ofNat ascii, List.singleton_append,
      percentDecode_cons mark, ih]
  | @escaped b bs high low cs highDigit lowDigit rest ih =>
    have sign : String.utf8EncodeChar '%' = [0x25] := rfl
    obtain ⟨highByte, highRead⟩ := highDigit.read
    obtain ⟨lowByte, lowRead⟩ := lowDigit.read
    simp only [List.flatMap_cons, sign, highByte, lowByte, List.singleton_append]
    rw [percentDecode_escape (hexByte?_digits highRead lowRead), ih]

end Text

/-! ## Documents -/

namespace Iam

theorem decodeDocument_of_text {e t : String} (decoded : Text.percentDecoded? e = some t) :
    decodeDocument e =
      match Json.parse t with
      | some j => .ok j
      | none => .error (.internal "policy document is not valid JSON: ") := by
  cases parsed : Json.parse t with
  | none => simp [decodeDocument, decoded, parsed]
  | some j => simp [decodeDocument, decoded, parsed]

/-- Decoding an encoded document gives what reading the document gives, and fails if that does.
What does not decode to text has no value. -/
theorem decodeDocument_inverts_encoding :
    (∀ bs e, Text.PercentWritten bs e → Text.percentDecode (Text.bytes (String.ofList e)) = bs) ∧
    (∀ t e : String, Text.PercentWritten (Text.bytes t) e.toList →
      (∀ j, decodeDocument e = .ok j ↔ Json.parse t = some j) ∧
      (Json.parse t = none → ∃ message, decodeDocument e = .error (.internal message))) ∧
    ∀ e, (∀ t, Text.bytes t ≠ Text.percentDecode (Text.bytes e)) →
      ∃ message, decodeDocument e = .error (.internal message) := by
  refine ⟨fun bs e written => written.decode, fun t e written => ?_, fun e textless => ?_⟩
  · have decoded : Text.percentDecoded? e = some t := by
      have bytes := written.decode
      rw [String.ofList_toList] at bytes
      rw [Text.percentDecoded?, bytes]
      exact Text.ofBytes?_eq_some_iff.2 rfl
    rw [decodeDocument_of_text decoded]
    cases Json.parse t with
    | none => exact ⟨fun j => by simp, fun _ => ⟨_, rfl⟩⟩
    | some found => exact ⟨fun j => by simp, nofun⟩
  · have undecoded : Text.percentDecoded? e = none := by
      rw [Option.eq_none_iff_forall_ne_some]
      intro t decoded
      exact textless t (Text.ofBytes?_eq_some_iff.1 decoded)
    rw [decodeDocument, undecoded]
    exact ⟨_, rfl⟩

/-- The two bytes of the letter are split over two escapes in different cases, and a digit that
could stand for itself is escaped. -/
theorem accented_document_decodes :
    Text.PercentWritten (Text.bytes "\"é1\"") "%22%c3%A9%31\"".toList ∧
      decodeDocument "%22%c3%A9%31\"" = .ok (.string "é1") ∧
      ∃ message, decodeDocument "%22%ff%22" = .error (.internal message) := by
  obtain ⟨-, reads, refuses⟩ := decodeDocument_inverts_encoding
  have written : Text.PercentWritten (Text.bytes "\"é1\"") "%22%c3%A9%31\"".toList := by
    have bytes : Text.bytes "\"é1\"" = [0x22, 0xc3, 0xa9, 0x31, 0x22] := by decide +kernel
    rw [bytes]
    refine .escaped (.inl rfl) (.inl rfl) (.escaped (.inl rfl) (.inl rfl)
      (.escaped (.inr rfl) (.inl rfl) (.escaped (.inl rfl) (.inl rfl) ?_)))
    exact .plain (by decide) (by decide) .nil
  refine ⟨written, ((reads _ _ written).1 _).2 ?_, refuses _ ?_⟩
  · decide +kernel
  · intro t same
    have found := Text.ofBytes?_eq_some_iff.2 same
    have nothing : (Text.ofBytes? (Text.percentDecode (Text.bytes "%22%ff%22"))).isNone = true := by
      decide +kernel
    rw [found] at nothing
    cases nothing

end Iam

end AccessBroker
