import Mathlib.Tactic.Lemma
import Mathlib.Tactic.SplitIfs
import TextSplit.Text.Utf8

/-!
# Texts as bytes

The reader of bytes is written by what a first byte announces, the writer by the size of a code point.
They agree: the bytes of a character are read as that character, whatever stands behind them, and so the
bytes of a text are read as the text.

* `Utf8.lead?_two`, `lead?_three`, `lead?_four` — what is announced, by the number of bytes.
* `Utf8.take_encodeChar` — one character.
* `Utf8.decode?_encode` — a text.
-/

namespace TextSplit.Utf8

lemma toList_loop (bytes : List UInt8) (i : Nat) (done : List UInt8) :
    ByteArray.toList.loop bytes.toByteArray i done = done.reverse ++ bytes.drop i := by
  -- the loop reads by index, so the array is seen as its list first
  have hsize : bytes.toByteArray.size = bytes.length := by
    rw [← ByteArray.size_data, List.data_toByteArray, List.size_toArray]
  have hget : ∀ (j : Nat) (hj : j < bytes.length), bytes.toByteArray.get! j = bytes[j] := by
    intro j hj
    show bytes.toByteArray.data[j]! = bytes[j]
    simp [List.data_toByteArray, hj]
  fun_induction ByteArray.toList.loop bytes.toByteArray i done with
  | case1 i done hi ih =>
      rw [hsize] at hi
      rw [ih, hget i hi, List.reverse_cons, List.append_assoc, List.singleton_append,
        List.getElem_cons_drop]
  | case2 i done hi =>
      rw [List.drop_eq_nil_of_le (by omega), List.append_nil]

/-- The bytes of a text are those of its characters in turn. -/
lemma encode_ofList (text : List Char) :
    encode (String.ofList text) = text.flatMap String.utf8EncodeChar := by
  rw [encode, String.toUTF8_eq_toByteArray, String.toByteArray_ofList, List.utf8Encode,
    ByteArray.toList, toList_loop, List.reverse_nil, List.nil_append, List.drop_zero]

/-! ## First bytes -/

variable {n : Nat}

lemma lead?_two (hlow : 0xC2 ≤ n) (hhigh : n ≤ 0xDF) :
    lead? n = some ⟨n - 0xC0, 1, 0x80, 0xBF⟩ := by
  simp [lead?, hlow, hhigh]

/-- Three bytes: two of the first ones narrow the range of the second. -/
lemma lead?_three (hlow : 0xE0 ≤ n) (hhigh : n ≤ 0xEF) :
    lead? n = some ⟨n - 0xE0, 2, if n = 0xE0 then 0xA0 else 0x80, if n = 0xED then 0x9F else 0xBF⟩ := by
  have htwo : ¬ n ≤ 0xDF := by omega
  by_cases hfirst : n = 0xE0
  · simp [lead?, hfirst]
  · by_cases hlast : n = 0xED
    · simp [lead?, hlast]
    · have hmore : 0xE1 ≤ n := by omega
      simp [lead?, htwo, hfirst, hlast, hmore, hhigh]

lemma lead?_four (hlow : 0xF0 ≤ n) (hhigh : n ≤ 0xF4) :
    lead? n = some ⟨n - 0xF0, 3, if n = 0xF0 then 0x90 else 0x80, if n = 0xF4 then 0x8F else 0xBF⟩ := by
  have htwo : ¬ n ≤ 0xDF := by omega
  have hthree : ¬ n ≤ 0xEF := by omega
  have hzero : ¬ n = 0xE0 := by omega
  have hd : ¬ n = 0xED := by omega
  by_cases hfirst : n = 0xF0
  · simp [lead?, hfirst]
  · by_cases hlast : n = 0xF4
    · simp [lead?, hlast]
    · have hmore : 0xF1 ≤ n ∧ n ≤ 0xF3 := by omega
      simp [lead?, htwo, hthree, hzero, hd, hfirst, hlast, hmore]

/-! ## Several bytes -/

variable {low high code : Nat} {b b₁ b₂ b₃ b₄ : UInt8} {rest : List UInt8}

lemma takeOwed_cons (owed : Nat) (hb : low ≤ b.toNat ∧ b.toNat ≤ high) :
    takeOwed (owed + 1) low high code (b :: rest)
      = takeOwed owed 0x80 0xBF (code * 64 + (b.toNat - 0x80)) rest := by
  simp [takeOwed, hb]

lemma take_of_lead? {l : Lead} (hb : 0x80 ≤ b.toNat) (hl : lead? b.toNat = some l) :
    take b rest = ((takeOwed l.owed l.low l.high l.share rest).1.map Char.ofNat,
      (takeOwed l.owed l.low l.high l.share rest).2) := by
  rw [take, if_neg (Nat.not_lt.2 hb), hl]

lemma take_two (h₁ : 0xC2 ≤ b₁.toNat ∧ b₁.toNat ≤ 0xDF) (h₂ : 0x80 ≤ b₂.toNat ∧ b₂.toNat ≤ 0xBF) :
    take b₁ (b₂ :: rest)
      = (some (Char.ofNat ((b₁.toNat - 0xC0) * 64 + (b₂.toNat - 0x80))), rest) := by
  rw [take_of_lead? (by omega) (lead?_two h₁.1 h₁.2), takeOwed_cons 0 h₂]
  rfl

lemma take_three (h₁ : 0xE0 ≤ b₁.toNat ∧ b₁.toNat ≤ 0xEF)
    (h₂ : (if b₁.toNat = 0xE0 then 0xA0 else 0x80) ≤ b₂.toNat
      ∧ b₂.toNat ≤ if b₁.toNat = 0xED then 0x9F else 0xBF)
    (h₃ : 0x80 ≤ b₃.toNat ∧ b₃.toNat ≤ 0xBF) :
    take b₁ (b₂ :: b₃ :: rest)
      = (some (Char.ofNat (((b₁.toNat - 0xE0) * 64 + (b₂.toNat - 0x80)) * 64 + (b₃.toNat - 0x80))),
          rest) := by
  rw [take_of_lead? (by omega) (lead?_three h₁.1 h₁.2), takeOwed_cons 1 h₂, takeOwed_cons 0 h₃]
  rfl

lemma take_four (h₁ : 0xF0 ≤ b₁.toNat ∧ b₁.toNat ≤ 0xF4)
    (h₂ : (if b₁.toNat = 0xF0 then 0x90 else 0x80) ≤ b₂.toNat
      ∧ b₂.toNat ≤ if b₁.toNat = 0xF4 then 0x8F else 0xBF)
    (h₃ : 0x80 ≤ b₃.toNat ∧ b₃.toNat ≤ 0xBF) (h₄ : 0x80 ≤ b₄.toNat ∧ b₄.toNat ≤ 0xBF) :
    take b₁ (b₂ :: b₃ :: b₄ :: rest)
      = (some (Char.ofNat ((((b₁.toNat - 0xF0) * 64 + (b₂.toNat - 0x80)) * 64 + (b₃.toNat - 0x80)) * 64
          + (b₄.toNat - 0x80))), rest) := by
  rw [take_of_lead? (by omega) (lead?_four h₁.1 h₁.2), takeOwed_cons 2 h₂, takeOwed_cons 1 h₃,
    takeOwed_cons 0 h₄]
  rfl

/-! ## Reading what was written -/

lemma toNat_ofNat_of_lt (hn : n < 256) : (UInt8.ofNat n).toNat = n := by
  rw [UInt8.toNat_ofNat', Nat.mod_eq_of_lt hn]

/-- **The bytes of a character are read as the character**, and what stands behind them is left. -/
lemma take_encodeChar (c : Char) (rest : List UInt8) :
    ∃ b bytes, String.utf8EncodeChar c = b :: bytes ∧ take b (bytes ++ rest) = (some c, rest) := by
  have hc : Char.ofNat c.val.toNat = c := Char.ofNat_toNat c
  have hvalid : c.val.toNat < 0xD800 ∨ 0xDFFF < c.val.toNat ∧ c.val.toNat < 0x110000 := c.valid
  unfold String.utf8EncodeChar
  generalize c.val.toNat = v at hc hvalid
  dsimp only
  -- the last byte holds the code modulo 64, and the one before it what is left of that
  have hlast := toNat_ofNat_of_lt (n := v % 64 + 128) (by omega)
  have hmiddle := toNat_ofNat_of_lt (n := v / 64 % 64 + 128) (by omega)
  split_ifs with hone htwo hthree
  · have hfirst := toNat_ofNat_of_lt (n := v) (by omega)
    refine ⟨_, _, rfl, ?_⟩
    rw [take, hfirst, if_pos (by omega), hc, List.nil_append]
  · have hfirst := toNat_ofNat_of_lt (n := v / 64 % 32 + 192) (by omega)
    refine ⟨_, _, rfl, (take_two (by omega) (by omega)).trans ?_⟩
    rw [hfirst, hlast, show (v / 64 % 32 + 192 - 0xC0) * 64 + (v % 64 + 128 - 0x80) = v by omega, hc]
    rfl
  · have hfirst := toNat_ofNat_of_lt (n := v / 4096 % 16 + 224) (by omega)
    refine ⟨_, _, rfl, (take_three (by omega) ?_ (by omega)).trans ?_⟩
    · rw [hfirst, hmiddle]
      split_ifs <;> omega
    · rw [hfirst, hmiddle, hlast, show ((v / 4096 % 16 + 224 - 0xE0) * 64 + (v / 64 % 64 + 128 - 0x80)) * 64
        + (v % 64 + 128 - 0x80) = v by omega, hc]
      rfl
  · have hfirst := toNat_ofNat_of_lt (n := v / 262144 % 8 + 240) (by omega)
    have hsecond := toNat_ofNat_of_lt (n := v / 4096 % 64 + 128) (by omega)
    refine ⟨_, _, rfl, (take_four (by omega) ?_ (by omega) (by omega)).trans ?_⟩
    · rw [hfirst, hsecond]
      split_ifs <;> omega
    · rw [hfirst, hsecond, hmiddle, hlast, show (((v / 262144 % 8 + 240 - 0xF0) * 64
        + (v / 4096 % 64 + 128 - 0x80)) * 64 + (v / 64 % 64 + 128 - 0x80)) * 64
        + (v % 64 + 128 - 0x80) = v by omega, hc]
      rfl

lemma readings_encodeChar (c : Char) (rest : List UInt8) :
    readings (String.utf8EncodeChar c ++ rest) = some c :: readings rest := by
  obtain ⟨b, bytes, hbytes, htake⟩ := take_encodeChar c rest
  rw [hbytes, List.cons_append, readings, htake]

lemma readings_flatMap (text : List Char) :
    readings (text.flatMap String.utf8EncodeChar) = text.map some := by
  induction text with
  | nil => rw [List.flatMap_nil, readings, List.map_nil]
  | cons c text ih => rw [List.flatMap_cons, readings_encodeChar, ih, List.map_cons]

/-- **The bytes of a text are read as the text.** -/
theorem decode?_encode (text : List Char) : decode? (encode (String.ofList text)) = some text := by
  rw [decode?, encode_ofList, readings_flatMap]
  induction text with
  | nil => rfl
  | cons c text ih => rw [List.map_cons, List.mapM_cons, ih]; rfl

end TextSplit.Utf8
