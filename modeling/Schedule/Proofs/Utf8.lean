import Mathlib.Tactic.Common
import Schedule.Text.Utf8

/-! # Bytes that encode a text

The bytes of a text are decoded with no fault, wherever the chunks cut them. The decoder is followed
byte by byte: what it holds of a character and the bytes that are still to come make the characters
that it gives.
-/

namespace Schedule.Text

variable {state : Decoding} {char next : PartialChar} {byte : UInt8} {bytes : List UInt8}
variable {cs : List Char}
variable {least greatest : Nat} {missing : List (Nat × Nat)}

/-- From a character of which some bytes have come, further bytes make these characters. -/
inductive Decodes : PartialChar → List UInt8 → List Char → Prop where
  | nil : Decodes {} [] []
  | owing {char next : PartialChar} {byte : UInt8} {bytes : List UInt8} {cs : List Char}
      (added : char.add byte = .ok next) (owes : next.missing.isEmpty = false)
      (rest : Decodes next bytes cs) : Decodes char (byte :: bytes) cs
  | whole {char next : PartialChar} {byte : UInt8} {bytes : List UInt8} {cs : List Char}
      (added : char.add byte = .ok next) (complete : next.missing.isEmpty = true)
      (rest : Decodes {} bytes cs) : Decodes char (byte :: bytes) (Char.ofNat next.number :: cs)

/-! ### One character -/

namespace PartialChar

theorem add_owed (owed : char.missing = (least, greatest) :: missing) (lower : least ≤ byte.toNat)
    (upper : byte.toNat ≤ greatest) :
    char.add byte =
      .ok ⟨char.bytes ++ [byte], 64 * char.number + (byte.toNat - 0x80), missing⟩ := by
  rw [add, owed]
  exact if_pos ⟨lower, upper⟩

theorem add_start (starts : start? byte = some next) : ({} : PartialChar).add byte = .ok next := by
  unfold add
  simp only [starts]

theorem start?_one (small : byte.toNat < 0x80) : start? byte = some ⟨[byte], byte.toNat, []⟩ := by
  unfold start?
  exact if_pos small

theorem start?_two (lower : 0xc2 ≤ byte.toNat) (upper : byte.toNat < 0xe0) :
    start? byte = some ⟨[byte], byte.toNat - 0xc0, [(0x80, 0xbf)]⟩ := by
  unfold start?
  dsimp only
  rw [if_neg (by omega), if_neg (by omega), if_pos upper]

/-- After the first byte of three the second is bounded so that no character is encoded in more
bytes than it needs and none is a surrogate half. -/
theorem start?_three (lower : 0xe0 ≤ byte.toNat) (upper : byte.toNat < 0xf0) :
    start? byte = some ⟨[byte], byte.toNat - 0xe0,
      [(if byte.toNat = 0xe0 then 0xa0 else 0x80, if byte.toNat = 0xed then 0x9f else 0xbf),
        (0x80, 0xbf)]⟩ := by
  unfold start?
  dsimp only
  rw [if_neg (by omega), if_neg (by omega), if_neg (by omega)]
  split_ifs <;> first | omega | simp [*]

theorem start?_four (lower : 0xf0 ≤ byte.toNat) (upper : byte.toNat < 0xf5) :
    start? byte = some ⟨[byte], byte.toNat - 0xf0,
      [(if byte.toNat = 0xf0 then 0x90 else 0x80, if byte.toNat = 0xf4 then 0x8f else 0xbf),
        (0x80, 0xbf), (0x80, 0xbf)]⟩ := by
  unfold start?
  dsimp only
  rw [if_neg (by omega), if_neg (by omega), if_neg (by omega), if_neg (by omega),
    if_neg (by omega), if_neg (by omega)]
  by_cases least : byte.toNat = 0xf0
  · rw [if_pos least, if_pos least, if_neg (by omega), least]
  · by_cases greatest : byte.toNat = 0xf4
    · rw [if_neg least, if_neg least, if_neg (by omega), if_pos greatest, if_pos greatest, greatest]
    · rw [if_neg least, if_neg least, if_pos (by omega), if_neg greatest]

end PartialChar

namespace Decodes

variable {a b c d : UInt8} {number : Nat}

/-- The last byte of a character. -/
theorem of_last (owed : char.missing = [(least, greatest)]) (lower : least ≤ byte.toNat)
    (upper : byte.toNat ≤ greatest) (spells : 64 * char.number + (byte.toNat - 0x80) = number)
    (rest : Decodes {} bytes cs) : Decodes char (byte :: bytes) (Char.ofNat number :: cs) := by
  have added := PartialChar.add_owed owed lower upper
  rw [spells] at added
  have whole := whole added rfl rest
  exact whole

/-- A byte after the first of a character and before its last. -/
theorem of_next {more : Nat × Nat} (owed : char.missing = (least, greatest) :: more :: missing)
    (lower : least ≤ byte.toNat) (upper : byte.toNat ≤ greatest)
    (rest : Decodes ⟨char.bytes ++ [byte], 64 * char.number + (byte.toNat - 0x80),
      more :: missing⟩ bytes cs) : Decodes char (byte :: bytes) cs :=
  .owing (PartialChar.add_owed owed lower upper) rfl rest

theorem of_one (small : a.toNat < 0x80) (spells : a.toNat = number) (rest : Decodes {} bytes cs) :
    Decodes {} (a :: bytes) (Char.ofNat number :: cs) := by
  have whole := whole (PartialChar.add_start (PartialChar.start?_one small)) rfl rest
  rwa [spells] at whole

theorem of_two (first : 0xc2 ≤ a.toNat ∧ a.toNat < 0xe0)
    (second : 0x80 ≤ b.toNat ∧ b.toNat ≤ 0xbf)
    (spells : 64 * (a.toNat - 0xc0) + (b.toNat - 0x80) = number) (rest : Decodes {} bytes cs) :
    Decodes {} (a :: b :: bytes) (Char.ofNat number :: cs) :=
  .owing (PartialChar.add_start (PartialChar.start?_two first.1 first.2)) rfl
    (of_last rfl second.1 second.2 spells rest)

theorem of_three (first : 0xe0 ≤ a.toNat ∧ a.toNat < 0xf0)
    (second : (if a.toNat = 0xe0 then 0xa0 else 0x80) ≤ b.toNat ∧
      b.toNat ≤ if a.toNat = 0xed then 0x9f else 0xbf)
    (third : 0x80 ≤ c.toNat ∧ c.toNat ≤ 0xbf)
    (spells : 64 * (64 * (a.toNat - 0xe0) + (b.toNat - 0x80)) + (c.toNat - 0x80) = number)
    (rest : Decodes {} bytes cs) : Decodes {} (a :: b :: c :: bytes) (Char.ofNat number :: cs) :=
  .owing (PartialChar.add_start (PartialChar.start?_three first.1 first.2)) rfl
    (of_next rfl second.1 second.2 (of_last rfl third.1 third.2 spells rest))

theorem of_four (first : 0xf0 ≤ a.toNat ∧ a.toNat < 0xf5)
    (second : (if a.toNat = 0xf0 then 0x90 else 0x80) ≤ b.toNat ∧
      b.toNat ≤ if a.toNat = 0xf4 then 0x8f else 0xbf)
    (third : 0x80 ≤ c.toNat ∧ c.toNat ≤ 0xbf) (fourth : 0x80 ≤ d.toNat ∧ d.toNat ≤ 0xbf)
    (spells : 64 * (64 * (64 * (a.toNat - 0xf0) + (b.toNat - 0x80)) + (c.toNat - 0x80)) +
      (d.toNat - 0x80) = number)
    (rest : Decodes {} bytes cs) :
    Decodes {} (a :: b :: c :: d :: bytes) (Char.ofNat number :: cs) :=
  .owing (PartialChar.add_start (PartialChar.start?_four first.1 first.2)) rfl
    (of_next rfl second.1 second.2
      (of_next rfl third.1 third.2 (of_last rfl fourth.1 fourth.2 spells rest)))

/-- The bytes of a character make this character. -/
theorem of_char (rest : Decodes {} bytes cs) (c : Char) :
    Decodes {} (String.utf8EncodeChar c ++ bytes) (c :: cs) := by
  have byte {n : Nat} (small : n < 256) : (UInt8.ofNat n).toNat = n :=
    UInt8.toNat_ofNat_of_lt' small
  have same : Char.ofNat c.val.toNat = c := Char.ofNat_toNat c
  have valid : c.val.toNat < 0xd800 ∨ 0xdfff < c.val.toNat ∧ c.val.toNat < 0x110000 := c.valid
  have tail (n : Nat) : (UInt8.ofNat (n % 64 + 128)).toNat = n % 64 + 128 := byte (by omega)
  suffices decodes : Decodes {} (String.utf8EncodeChar c ++ bytes)
      (Char.ofNat c.val.toNat :: cs) by rwa [same] at decodes
  unfold String.utf8EncodeChar
  generalize c.val.toNat = v at valid
  dsimp only
  split_ifs with one two three
  · have first := byte (show v < 256 by omega)
    exact of_one (by omega) first rest
  · have first := byte (show v / 64 % 32 + 192 < 256 by omega)
    refine of_two ?_ ?_ ?_ rest
    · omega
    · rw [tail]
      omega
    · rw [first, tail]
      omega
  · have first := byte (show v / 4096 % 16 + 224 < 256 by omega)
    refine of_three ?_ ?_ ?_ ?_ rest
    · omega
    · rw [first, tail]
      split_ifs <;> omega
    · rw [tail]
      omega
    · rw [first, tail, tail]
      omega
  · have first := byte (show v / 262144 % 8 + 240 < 256 by omega)
    refine of_four ?_ ?_ ?_ ?_ ?_ rest
    · omega
    · rw [first, tail]
      split_ifs <;> omega
    · rw [tail]
      omega
    · rw [tail]
      omega
    · rw [first, tail, tail, tail]
      omega

/-- The bytes of a text make this text. -/
theorem of_text (cs : List Char) : Decodes {} (cs.flatMap String.utf8EncodeChar) cs := by
  induction cs with
  | nil => exact .nil
  | cons c cs ih => exact of_char ih c

end Decodes

/-! ### Chunks -/

/-- Wherever a chunk ends, the rest of the bytes makes the rest of the characters. -/
theorem decodeChunk_of_decodes {chunk : List UInt8} (position : Nat) (text : List Char)
    (decodes : Decodes char (chunk ++ bytes) cs) :
    ∃ before next after, decodeChunk position char text chunk = .ok (text.reverse ++ before, next) ∧
      cs = before ++ after ∧ Decodes next bytes after := by
  induction chunk generalizing char text position cs with
  | nil => exact ⟨[], char, cs, by rw [decodeChunk, List.append_nil], rfl, decodes⟩
  | cons byte chunk ih =>
    rw [decodeChunk]
    cases decodes with
    | owing added owes rest =>
      rw [added]
      dsimp only
      rw [if_neg (by rw [owes]; exact Bool.false_ne_true)]
      exact ih (position + 1) text rest
    | whole added complete rest =>
      rw [added]
      dsimp only
      rw [if_pos complete]
      obtain ⟨before, next, after, decoded, rfl, later⟩ :=
        ih (position + 1) (Char.ofNat _ :: text) rest
      refine ⟨Char.ofNat _ :: before, next, after, ?_, rfl, later⟩
      rw [decoded, List.reverse_cons, List.append_assoc]
      rfl

theorem Decoding.leastChunk_le (state : Decoding) : leastChunk ≤ state.chunkSize := by
  unfold chunkSize
  split
  · exact Nat.le_refl _
  · exact Nat.le_max_left ..

theorem decodeChunks_nil (fuel : Nat) (decodes : Decodes state.char [] cs) :
    (decodeChunks (fuel + 1) state []).2 = none := by
  have whole : state.char.bytes = [] := by
    cases state
    cases decodes
    rfl
  rw [decodeChunks, if_pos List.isEmpty_nil, whole, if_pos List.isEmpty_nil]

/-- Bytes that make characters are decoded without a fault, chunk after chunk. The induction is on
the number of chunks, of which none but the last has less than the least number of bytes. -/
theorem decodeChunks_of_decodes {fuel : Nat} (enough : bytes.length ≤ fuel * leastChunk)
    (decodes : Decodes state.char bytes cs) : (decodeChunks (fuel + 1) state bytes).2 = none := by
  induction fuel generalizing state bytes cs with
  | zero =>
    rw [Nat.zero_mul, Nat.le_zero, List.length_eq_zero_iff] at enough
    subst enough
    exact decodeChunks_nil 0 decodes
  | succ fuel ih =>
    cases empty : bytes.isEmpty with
    | true =>
      rw [List.isEmpty_iff] at empty
      subst empty
      exact decodeChunks_nil (fuel + 1) decodes
    | false =>
      have split : Decodes state.char
          (bytes.take state.chunkSize ++ bytes.drop state.chunkSize) cs := by
        rwa [List.take_append_drop]
      obtain ⟨before, next, after, decoded, rfl, later⟩ :=
        decodeChunk_of_decodes state.char.bytes.length [] split
      have shorter : (bytes.drop state.chunkSize).length ≤ fuel * leastChunk := by
        have := state.leastChunk_le
        rw [Nat.add_one_mul] at enough
        rw [List.length_drop]
        omega
      rw [decodeChunks, empty, if_neg Bool.false_ne_true]
      dsimp only
      rw [decoded]
      exact @ih ⟨next, _, _, _, _⟩ _ _ shorter later

/-- Bytes that encode a text have no fault. -/
theorem decode_of_isValidUTF8 {content : ByteArray} (valid : content.IsValidUTF8) :
    (decode content).2 = none := by
  obtain ⟨cs, rfl⟩ := valid
  have bytes : cs.utf8Encode.data.toList = cs.flatMap String.utf8EncodeChar := by
    rw [List.utf8Encode, List.data_toByteArray]
  have size : cs.utf8Encode.size = (cs.flatMap String.utf8EncodeChar).length := by
    rw [← bytes]
    rfl
  have enough : (cs.flatMap String.utf8EncodeChar).length ≤
      (cs.utf8Encode.size / leastChunk + 1) * leastChunk := by
    rw [size, leastChunk]
    omega
  rw [decode, bytes]
  exact decodeChunks_of_decodes enough (Decodes.of_text cs)

end Schedule.Text
