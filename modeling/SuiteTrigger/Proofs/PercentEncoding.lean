import SuiteTrigger.Encoding.Percent

namespace SuiteTrigger.Utf8

theorem sequenceLength_eq (b : UInt8) :
    sequenceLength b = if b.toNat < 128 then 1 else if b.toNat < 194 then 0
      else if b.toNat < 224 then 2 else if b.toNat < 240 then 3
      else if b.toNat < 245 then 4 else 0 := by
  simp only [sequenceLength, UInt8.lt_iff_toNat_lt]
  rfl

theorem isContinuation_iff {b : UInt8} :
    isContinuation b = true ↔ 128 ≤ b.toNat ∧ b.toNat < 192 := by
  simp only [isContinuation, Bool.and_eq_true, decide_eq_true_eq, UInt8.lt_iff_toNat_lt,
    UInt8.le_iff_toNat_le]
  rfl

theorem maySecond_of {b c : UInt8} (continues : 128 ≤ c.toNat ∧ c.toNat < 192)
    (notOverlong3 : b.toNat = 224 → 160 ≤ c.toNat) (notHalf : b.toNat = 237 → c.toNat < 160)
    (notOverlong4 : b.toNat = 240 → 144 ≤ c.toNat) (notBeyond : b.toNat = 244 → c.toNat < 144) :
    maySecond b c = true := by
  have isNat (n : UInt8) : b = n ↔ b.toNat = n.toNat := UInt8.toNat_inj.symm
  rw [maySecond, isContinuation_iff.2 continues, Bool.true_and]
  simp only [isNat, UInt8.lt_iff_toNat_lt, UInt8.le_iff_toNat_le]
  split
  · exact decide_eq_true (notOverlong3 ‹_›)
  · split
    · exact decide_eq_true (notHalf ‹_›)
    · split
      · exact decide_eq_true (notOverlong4 ‹_›)
      · split
        · exact decide_eq_true (notBeyond ‹_›)
        · rfl

theorem first_one {b : UInt8} (length : sequenceLength b = 1) (rest : List UInt8) :
    first b rest = .ok (Char.ofNat b.toNat, rest) := by
  simp [first, length]

theorem first_two {b c : UInt8} (length : sequenceLength b = 2) (second : maySecond b c = true)
    (rest : List UInt8) :
    first b (c :: rest) = .ok (Char.ofNat (b.toNat % 32 * 64 + payload c), rest) := by
  simp [first, length, second]

theorem first_three {b c d : UInt8} (length : sequenceLength b = 3)
    (second : maySecond b c = true) (third : isContinuation d = true) (rest : List UInt8) :
    first b (c :: d :: rest) =
      .ok (Char.ofNat (b.toNat % 16 * 4096 + payload c * 64 + payload d), rest) := by
  simp [first, length, second, third]

theorem first_four {b c d e : UInt8} (length : sequenceLength b = 4)
    (second : maySecond b c = true) (third : isContinuation d = true)
    (fourth : isContinuation e = true) (rest : List UInt8) :
    first b (c :: d :: e :: rest) =
      .ok (Char.ofNat (b.toNat % 8 * 262144 + payload c * 4096 + payload d * 64 + payload e),
        rest) := by
  simp [first, length, second, third, fourth]

theorem utf8EncodeChar_eq (c : Char) :
    String.utf8EncodeChar c = if c.toNat ≤ 127 then [UInt8.ofNat c.toNat]
      else if c.toNat ≤ 2047 then
        [UInt8.ofNat (c.toNat / 64 % 32 + 192), UInt8.ofNat (c.toNat % 64 + 128)]
      else if c.toNat ≤ 65535 then
        [UInt8.ofNat (c.toNat / 4096 % 16 + 224), UInt8.ofNat (c.toNat / 64 % 64 + 128),
          UInt8.ofNat (c.toNat % 64 + 128)]
      else
        [UInt8.ofNat (c.toNat / 262144 % 8 + 240), UInt8.ofNat (c.toNat / 4096 % 64 + 128),
          UInt8.ofNat (c.toNat / 64 % 64 + 128), UInt8.ofNat (c.toNat % 64 + 128)] := rfl

theorem toNat_ofNat {n : Nat} (small : n < 256) : (UInt8.ofNat n).toNat = n := by
  simpa using Nat.mod_eq_of_lt small

theorem toNat_tail (n : Nat) : (UInt8.ofNat (n % 64 + 128)).toNat = n % 64 + 128 :=
  toNat_ofNat (by omega)

theorem isContinuation_tail (n : Nat) : isContinuation (UInt8.ofNat (n % 64 + 128)) = true := by
  rw [isContinuation_iff, toNat_tail]
  omega

theorem payload_tail (n : Nat) : payload (UInt8.ofNat (n % 64 + 128)) = n % 64 := by
  rw [payload, toNat_tail]
  omega

theorem first_oneByte {v : Nat} (below : v ≤ 127) (rest : List UInt8) :
    first (UInt8.ofNat v) rest = .ok (Char.ofNat v, rest) := by
  have lead : (UInt8.ofNat v).toNat = v := toNat_ofNat (by omega)
  rw [first_one, lead]
  rw [sequenceLength_eq, lead, if_pos (by omega)]

theorem first_twoBytes {v : Nat} (above : 127 < v) (below : v ≤ 2047) (rest : List UInt8) :
    first (UInt8.ofNat (v / 64 % 32 + 192)) (UInt8.ofNat (v % 64 + 128) :: rest) =
      .ok (Char.ofNat v, rest) := by
  have lead : (UInt8.ofNat (v / 64 % 32 + 192)).toNat = v / 64 % 32 + 192 := toNat_ofNat (by omega)
  have whole : (v / 64 % 32 + 192) % 32 * 64 + v % 64 = v := by omega
  rw [first_two, lead, payload_tail, whole]
  · rw [sequenceLength_eq, lead, if_neg (by omega), if_neg (by omega), if_pos (by omega)]
  · refine maySecond_of ?_ ?_ ?_ ?_ ?_ <;> rw [toNat_tail] <;> omega

theorem first_threeBytes {v : Nat} (above : 2047 < v) (below : v ≤ 65535)
    (noHalf : v < 55296 ∨ 57343 < v) (rest : List UInt8) :
    first (UInt8.ofNat (v / 4096 % 16 + 224))
        (UInt8.ofNat (v / 64 % 64 + 128) :: UInt8.ofNat (v % 64 + 128) :: rest) =
      .ok (Char.ofNat v, rest) := by
  have lead : (UInt8.ofNat (v / 4096 % 16 + 224)).toNat = v / 4096 % 16 + 224 :=
    toNat_ofNat (by omega)
  have whole : (v / 4096 % 16 + 224) % 16 * 4096 + v / 64 % 64 * 64 + v % 64 = v := by omega
  rw [first_three _ _ (isContinuation_tail _), lead, payload_tail, payload_tail, whole]
  · rw [sequenceLength_eq, lead, if_neg (by omega), if_neg (by omega), if_neg (by omega),
      if_pos (by omega)]
  · refine maySecond_of ?_ ?_ ?_ ?_ ?_ <;> rw [toNat_tail] <;> omega

theorem first_fourBytes {v : Nat} (above : 65535 < v) (below : v < 1114112) (rest : List UInt8) :
    first (UInt8.ofNat (v / 262144 % 8 + 240))
        (UInt8.ofNat (v / 4096 % 64 + 128) :: UInt8.ofNat (v / 64 % 64 + 128) ::
          UInt8.ofNat (v % 64 + 128) :: rest) =
      .ok (Char.ofNat v, rest) := by
  have lead : (UInt8.ofNat (v / 262144 % 8 + 240)).toNat = v / 262144 % 8 + 240 :=
    toNat_ofNat (by omega)
  have whole : (v / 262144 % 8 + 240) % 8 * 262144 + v / 4096 % 64 * 4096 + v / 64 % 64 * 64 +
      v % 64 = v := by omega
  rw [first_four _ _ (isContinuation_tail _) (isContinuation_tail _), lead, payload_tail,
    payload_tail, payload_tail, whole]
  · rw [sequenceLength_eq, lead, if_neg (by omega), if_neg (by omega), if_neg (by omega),
      if_neg (by omega), if_pos (by omega)]
  · refine maySecond_of ?_ ?_ ?_ ?_ ?_ <;> rw [toNat_tail] <;> omega

/-- The sequence of a character gives the character back. -/
theorem first_encode (c : Char) (rest : List UInt8) :
    ∃ b bytes, String.utf8EncodeChar c = b :: bytes ∧ first b (bytes ++ rest) = .ok (c, rest) := by
  have same : Char.ofNat c.toNat = c := Char.ofNat_toNat c
  have valid : c.toNat < 55296 ∨ 57343 < c.toNat ∧ c.toNat < 1114112 := c.valid
  have noHalf : c.toNat < 55296 ∨ 57343 < c.toNat := valid.imp_right And.left
  have last : c.toNat < 1114112 := by omega
  rw [utf8EncodeChar_eq]
  split
  · rename_i one
    exact ⟨_, _, rfl, (first_oneByte one rest).trans (by rw [same])⟩
  · rename_i above
    split
    · rename_i two
      exact ⟨_, _, rfl, (first_twoBytes (by omega) two rest).trans (by rw [same])⟩
    · rename_i above
      split
      · rename_i three
        exact ⟨_, _, rfl, (first_threeBytes (by omega) three noHalf rest).trans (by rw [same])⟩
      · rename_i above
        exact ⟨_, _, rfl, (first_fourBytes (by omega) last rest).trans (by rw [same])⟩

theorem decodeFrom_encode (offset : Nat) (done cs : List Char) :
    decodeFrom offset done (encode cs) = .ok (done.reverse ++ cs) := by
  induction cs generalizing offset done with
  | nil => rw [encode, List.flatMap_nil, decodeFrom, List.append_nil]
  | cons c cs ih =>
    obtain ⟨b, bytes, written, read⟩ := first_encode c (encode cs)
    have split : encode (c :: cs) = b :: (bytes ++ encode cs) := by
      rw [encode, List.flatMap_cons, written]
      rfl
    rw [split, decodeFrom]
    split
    · rename_i refused
      rw [read] at refused
      cases refused
    · rename_i found
      rw [read] at found
      cases found
      rw [ih, List.reverse_cons, List.append_assoc]
      rfl

theorem decode_encode (cs : List Char) : decode (encode cs) = .ok cs := decodeFrom_encode 0 [] cs

end SuiteTrigger.Utf8

namespace SuiteTrigger.Percent

theorem hexValue?_hexDigitUpper {n : Nat} (digit : n < 16) :
    Text.hexValue? (Text.hexDigitUpper n) = some n := by
  have all : ∀ n < 16, Text.hexValue? (Text.hexDigitUpper n) = some n := by decide
  exact all n digit

theorem decodeBytes_encodeByte (b : UInt8) (rest : List Char) :
    decodeBytes (encodeByte b ++ rest) = b :: decodeBytes rest := by
  have small : b.toNat < 256 := b.toNat_lt
  rw [encodeByte, List.cons_append, List.cons_append, List.cons_append, List.nil_append,
    decodeBytes, hexValue?_hexDigitUpper (by omega), hexValue?_hexDigitUpper (by omega)]
  have whole : 16 * (b.toNat / 16) + b.toNat % 16 = b.toNat := by omega
  simp only [whole, UInt8.ofNat_toNat]

theorem decodeBytes_encodeBytes (bytes : List UInt8) (rest : List Char) :
    decodeBytes (bytes.flatMap encodeByte ++ rest) = bytes ++ decodeBytes rest := by
  induction bytes with
  | nil => rfl
  | cons b bytes ih =>
    rw [List.flatMap_cons, List.append_assoc, decodeBytes_encodeByte, ih, List.cons_append]

theorem isAlphanum_iff {c : Char} : c.isAlphanum = true ↔ 65 ≤ c.toNat ∧ c.toNat ≤ 90 ∨
    97 ≤ c.toNat ∧ c.toNat ≤ 122 ∨ 48 ≤ c.toNat ∧ c.toNat ≤ 57 := by
  have toNat : c.val.toNat = c.toNat := rfl
  have alpha : c.isAlpha = (c.isUpper || c.isLower) := rfl
  have upper : c.isUpper = decide (c.val ≥ 'A'.val ∧ c.val ≤ 'Z'.val) := rfl
  have lower : c.isLower = (decide (c.val ≥ 'a'.val) && decide (c.val ≤ 'z'.val)) := rfl
  simp only [Char.isAlphanum, alpha, upper, lower, Char.isDigit, Bool.or_eq_true,
    Bool.and_eq_true, decide_eq_true_eq, ge_iff_le, UInt32.le_iff_toNat_le, toNat,
    Char.reduceVal, UInt32.reduceToNat, or_assoc]

theorem isUnreserved_ascii {c : Char} (unreserved : isUnreserved c = true) :
    c.toNat ≤ 127 ∧ c ≠ '%' ∧ c ≠ '/' := by
  refine ⟨?_, ?_, ?_⟩
  · simp only [isUnreserved, isAlphanum_iff, Bool.or_eq_true, decide_eq_true_eq, ← Char.toNat_inj,
      Char.reduceToNat] at unreserved
    omega
  · rintro rfl
    exact absurd unreserved (by decide)
  · rintro rfl
    exact absurd unreserved (by decide)

theorem decodeBytes_cons {c : Char} (plain : c ≠ '%') (rest : List Char) :
    decodeBytes (c :: rest) = UInt8.ofNat c.toNat :: decodeBytes rest := by
  rw [decodeBytes]
  rintro a b rest rfl
  exact absurd rfl plain

theorem decodeBytes_encode (cs : List Char) : decodeBytes (encode cs) = Utf8.encode cs := by
  induction cs with
  | nil => rfl
  | cons c cs ih =>
    have rest : decodeBytes (cs.flatMap (encodeChar isUnreserved)) = Utf8.encode cs := ih
    rw [encode, encodeKeeping, List.flatMap_cons, Utf8.encode, List.flatMap_cons, encodeChar]
    by_cases unreserved : isUnreserved c = true
    · obtain ⟨ascii, plain, -⟩ := isUnreserved_ascii unreserved
      rw [if_pos unreserved, List.cons_append, List.nil_append, decodeBytes_cons plain, rest,
        Utf8.utf8EncodeChar_eq, if_pos ascii]
      rfl
    · rw [if_neg unreserved, decodeBytes_encodeBytes, rest]
      rfl

theorem decode?_encode (cs : List Char) : decode? (encode cs) = some cs := by
  rw [decode?, decodeBytes_encode, Utf8.decode_encode]
  rfl

/-- A text of unreserved characters and of escapes: percent signs with two hexadecimal digits. -/
inductive Escaped : List Char → Prop
  | nil : Escaped []
  | plain {c : Char} {rest : List Char} (unreserved : isUnreserved c = true)
    (later : Escaped rest) : Escaped (c :: rest)
  | escape {a b : Char} {rest : List Char} (high : (Text.hexValue? a).isSome = true)
    (low : (Text.hexValue? b).isSome = true) (later : Escaped rest) :
    Escaped ('%' :: a :: b :: rest)

theorem Escaped.bytes {rest : List Char} (later : Escaped rest) (bytes : List UInt8) :
    Escaped (bytes.flatMap encodeByte ++ rest) := by
  induction bytes with
  | nil => exact later
  | cons b bytes ih =>
    have small : b.toNat < 256 := b.toNat_lt
    have digit {n : Nat} (below : n < 16) :
        (Text.hexValue? (Text.hexDigitUpper n)).isSome = true := by
      rw [hexValue?_hexDigitUpper below]
      rfl
    rw [List.flatMap_cons, List.append_assoc]
    exact .escape (digit (by omega)) (digit (by omega)) ih

theorem escaped_encode (cs : List Char) : Escaped (encode cs) := by
  induction cs with
  | nil => exact .nil
  | cons c cs ih =>
    rw [encode, encodeKeeping, List.flatMap_cons, encodeChar]
    by_cases unreserved : isUnreserved c = true
    · rw [if_pos unreserved]
      exact .plain unreserved ih
    · rw [if_neg unreserved]
      exact ih.bytes _

theorem isUnreserved_of_hexValue {c : Char} (digit : (Text.hexValue? c).isSome = true) :
    isUnreserved c = true := by
  have alphanumeric : c.isAlphanum = true := by
    rw [isAlphanum_iff]
    simp only [Text.hexValue?, Char.le_def, UInt32.le_iff_toNat_le, Char.reduceVal,
      UInt32.reduceToNat] at digit
    have toNat : c.val.toNat = c.toNat := rfl
    rw [toNat] at digit
    split at digit
    · omega
    · split at digit
      · omega
      · split at digit
        · omega
        · nomatch digit
  rw [isUnreserved, alphanumeric]
  rfl

/-- Nothing in encoded text ends a segment of an address. -/
theorem Escaped.segment {s : List Char} (escaped : Escaped s) :
    ∀ c ∈ s, c ≠ '/' ∧ c ≠ '?' ∧ c ≠ '#' := by
  have plainly {c : Char} (unreserved : isUnreserved c = true) : c ≠ '/' ∧ c ≠ '?' ∧ c ≠ '#' := by
    refine ⟨?_, ?_, ?_⟩ <;>
    · rintro rfl
      exact absurd unreserved (by decide)
  induction escaped with
  | nil => exact fun c inside => absurd inside List.not_mem_nil
  | plain unreserved later ih => exact List.forall_mem_cons.2 ⟨plainly unreserved, ih⟩
  | escape high low later ih =>
    have digit {c : Char} (digit : (Text.hexValue? c).isSome = true) :=
      plainly (isUnreserved_of_hexValue digit)
    exact List.forall_mem_cons.2 ⟨by decide,
      List.forall_mem_cons.2 ⟨digit high, List.forall_mem_cons.2 ⟨digit low, ih⟩⟩⟩

theorem slash_not_mem_encode (cs : List Char) : '/' ∉ encode cs :=
  fun inside => ((escaped_encode cs).segment _ inside).1 rfl

end SuiteTrigger.Percent
