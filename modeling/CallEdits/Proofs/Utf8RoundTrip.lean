import CallEdits.Bytes.Encoding

/-!
# Proofs/Utf8RoundTrip — text survives its bytes

Decoding reads one character at a time and looks at the first byte to see how many belong to it.  On
the bytes of a character it reads exactly these and gives the character back
(`decodeFrom_encodeChar`), so a text that was written is read again.

The converse holds too, as no character has two forms: bytes that can be decoded are the bytes of
their text (`encode_of_decode`).  Each of the four shapes of a character is read into a number, and
the digits of that number in base 64 are the bytes again.
-/

namespace CallEdits.Utf8

/-- A number below 256 as a byte, compared with a byte. -/
theorem toUInt8_lt {n : Nat} (h : n < 256) (b : UInt8) : n.toUInt8 < b ↔ n < b.toNat := by
  rw [UInt8.lt_iff_toNat_lt, UInt8.toNat_ofNat_of_lt' h]

theorem lt_toUInt8 {n : Nat} (h : n < 256) (b : UInt8) : b < n.toUInt8 ↔ b.toNat < n := by
  rw [UInt8.lt_iff_toNat_lt, UInt8.toNat_ofNat_of_lt' h]

theorem le_toUInt8 {n : Nat} (h : n < 256) (b : UInt8) : b ≤ n.toUInt8 ↔ b.toNat ≤ n := by
  rw [UInt8.le_iff_toNat_le, UInt8.toNat_ofNat_of_lt' h]

theorem toUInt8_le {n : Nat} (h : n < 256) (b : UInt8) : n.toUInt8 ≤ b ↔ n ≤ b.toNat := by
  rw [UInt8.le_iff_toNat_le, UInt8.toNat_ofNat_of_lt' h]

/-- The last bits of a number make a continuation byte. -/
theorem isContinuation_byte (n : Nat) : isContinuation (0x80 + n % 0x40).toUInt8 = true := by
  have h : 0x80 + n % 0x40 < 256 := by omega
  rw [isContinuation, Bool.and_eq_true, decide_eq_true_iff, decide_eq_true_iff, le_toUInt8 h,
    toUInt8_le h]
  exact ⟨Nat.le_add_right .., by change _ ≤ 191; omega⟩

/-- The bounds on a second byte, as numbers. -/
theorem isSecond_byte (first second : Nat) (hfirst : first < 256)
    (hlow : 0x80 ≤ second) (hhigh : second ≤ 0xBF) (hE0 : first = 0xE0 → 0xA0 ≤ second)
    (hED : first = 0xED → second ≤ 0x9F) (hF0 : first = 0xF0 → 0x90 ≤ second)
    (hF4 : first = 0xF4 → second ≤ 0x8F) :
    isSecond first.toUInt8 second.toUInt8 = true := by
  have hsecond : second < 256 := by omega
  have heq : ∀ b : UInt8, first.toUInt8 = b ↔ first = b.toNat := fun b => by
    rw [← UInt8.toNat_inj, UInt8.toNat_ofNat_of_lt' hfirst]
  simp only [isSecond, Bool.and_eq_true, decide_eq_true_iff, le_toUInt8 hsecond, toUInt8_le hsecond,
    heq]
  constructor
  · split
    · exact hE0 ‹_›
    · split
      · exact hF0 ‹_›
      · exact hlow
  · split
    · exact hED ‹_›
    · split
      · exact hF4 ‹_›
      · exact hhigh

/-! ## One character

The first byte says how many bytes follow; its bounds are compared as numbers. -/

variable {c : Char} (position : Nat) (done : Text) (rest : Bytes)

/-- A first byte that is followed by others. -/
theorem lead_byte {n : Nat} (hlow : 0xC2 ≤ n) (hhigh : n ≤ 0xF4) :
    ¬ n.toUInt8 < 0x80 ∧ ¬ (decide (n.toUInt8 < 0xC2) || decide (0xF4 < n.toUInt8)) = true := by
  have h : n < 256 := by omega
  rw [Bool.or_eq_true, decide_eq_true_iff, decide_eq_true_iff, toUInt8_lt h, toUInt8_lt h,
    lt_toUInt8 h]
  change ¬ n < 128 ∧ ¬ (n < 194 ∨ 244 < n)
  omega

theorem decodeFrom_one (h : c.toNat < 0x80) :
    decodeFrom position done (encodeChar c ++ rest)
      = decodeFrom (position + 1) (c :: done) rest := by
  have hbyte : c.toNat.toUInt8 < 0x80 := (toUInt8_lt (by omega) 0x80).mpr h
  have hnumber : number c.toNat [] = c := Char.ofNat_toNat c
  rw [encodeChar, decodeFrom.eq_def]
  simp only [if_pos h, List.singleton_append, if_pos hbyte,
    UInt8.toNat_ofNat_of_lt' (Nat.lt_trans h (by decide)), hnumber]

theorem decodeFrom_two (hlow : 0x80 ≤ c.toNat) (hhigh : c.toNat < 0x800) :
    decodeFrom position done (encodeChar c ++ rest)
      = decodeFrom (position + 2) (c :: done) rest := by
  have hfirstByte : 0xC0 + c.toNat / 0x40 < 256 := by omega
  have hlastByte : 0x80 + c.toNat % 0x40 < 256 := by omega
  have hlead := lead_byte (n := 0xC0 + c.toNat / 0x40) (by omega) (by omega)
  have hshort : (0xC0 + c.toNat / 0x40).toUInt8 < 0xE0 :=
    (toUInt8_lt (by omega) 0xE0).mpr (by change _ < 224; omega)
  have hsecond := isSecond_byte (0xC0 + c.toNat / 0x40) (0x80 + c.toNat % 0x40) (by omega)
    (by omega) (by omega) (by omega) (by omega) (by omega) (by omega)
  have hnumber : number (0xC0 + c.toNat / 0x40 - 0xC0) [(0x80 + c.toNat % 0x40).toUInt8] = c := by
    simp only [number, List.foldl_cons, List.foldl_nil, UInt8.toNat_ofNat_of_lt' hlastByte]
    refine (congrArg Char.ofNat ?_).trans (Char.ofNat_toNat c)
    omega
  rw [encodeChar, decodeFrom.eq_def]
  simp only [if_neg (Nat.not_lt.mpr hlow), if_pos hhigh, List.cons_append, List.nil_append,
    if_neg hlead.1, if_neg hlead.2, hsecond, Bool.not_true, Bool.false_eq_true, if_false,
    if_pos hshort, UInt8.toNat_ofNat_of_lt' hfirstByte, hnumber]

theorem decodeFrom_three (hlow : 0x800 ≤ c.toNat) (hhigh : c.toNat < 0x10000) :
    decodeFrom position done (encodeChar c ++ rest)
      = decodeFrom (position + 3) (c :: done) rest := by
  -- The bounds on the second byte after `0xED` are the surrogates, which are no characters.
  have hvalid : c.toNat < 0xD800 ∨ 0xDFFF < c.toNat ∧ c.toNat < 0x110000 := c.valid
  have hfirstByte : 0xE0 + c.toNat / 0x1000 < 256 := by omega
  have hsecondByte : 0x80 + c.toNat / 0x40 % 0x40 < 256 := by omega
  have hlastByte : 0x80 + c.toNat % 0x40 < 256 := by omega
  have hlead := lead_byte (n := 0xE0 + c.toNat / 0x1000) (by omega) (by omega)
  have hlong : ¬ (0xE0 + c.toNat / 0x1000).toUInt8 < 0xE0 := fun h =>
    absurd ((toUInt8_lt (by omega) 0xE0).mp h) (by change ¬ _ < 224; omega)
  have hshort : (0xE0 + c.toNat / 0x1000).toUInt8 < 0xF0 :=
    (toUInt8_lt (by omega) 0xF0).mpr (by change _ < 240; omega)
  have hsecond := isSecond_byte (0xE0 + c.toNat / 0x1000) (0x80 + c.toNat / 0x40 % 0x40)
    (by omega) (by omega) (by omega) (by omega) (by omega) (by omega) (by omega)
  have hthird := isContinuation_byte c.toNat
  have hnumber : number (0xE0 + c.toNat / 0x1000 - 0xE0)
      [(0x80 + c.toNat / 0x40 % 0x40).toUInt8, (0x80 + c.toNat % 0x40).toUInt8] = c := by
    simp only [number, List.foldl_cons, List.foldl_nil, UInt8.toNat_ofNat_of_lt' hsecondByte,
      UInt8.toNat_ofNat_of_lt' hlastByte]
    refine (congrArg Char.ofNat ?_).trans (Char.ofNat_toNat c)
    omega
  rw [encodeChar, decodeFrom.eq_def]
  simp only [if_neg (Nat.not_lt.mpr (Nat.le_trans (by decide : 0x80 ≤ 0x800) hlow)),
    if_neg (Nat.not_lt.mpr hlow), if_pos hhigh, List.cons_append, List.nil_append,
    if_neg hlead.1, if_neg hlead.2, hsecond, hthird, Bool.not_true, Bool.false_eq_true, if_false,
    if_neg hlong, if_pos hshort, UInt8.toNat_ofNat_of_lt' hfirstByte, hnumber]

theorem decodeFrom_four (hlow : 0x10000 ≤ c.toNat) :
    decodeFrom position done (encodeChar c ++ rest)
      = decodeFrom (position + 4) (c :: done) rest := by
  have hvalid : c.toNat < 0xD800 ∨ 0xDFFF < c.toNat ∧ c.toNat < 0x110000 := c.valid
  have hfirstByte : 0xF0 + c.toNat / 0x40000 < 256 := by omega
  have hsecondByte : 0x80 + c.toNat / 0x1000 % 0x40 < 256 := by omega
  have hthirdByte : 0x80 + c.toNat / 0x40 % 0x40 < 256 := by omega
  have hlastByte : 0x80 + c.toNat % 0x40 < 256 := by omega
  have hlead := lead_byte (n := 0xF0 + c.toNat / 0x40000) (by omega) (by omega)
  have hlong : ¬ (0xF0 + c.toNat / 0x40000).toUInt8 < 0xE0 := fun h =>
    absurd ((toUInt8_lt (by omega) 0xE0).mp h) (by change ¬ _ < 224; omega)
  have hlong' : ¬ (0xF0 + c.toNat / 0x40000).toUInt8 < 0xF0 := fun h =>
    absurd ((toUInt8_lt (by omega) 0xF0).mp h) (by change ¬ _ < 240; omega)
  have hsecond := isSecond_byte (0xF0 + c.toNat / 0x40000) (0x80 + c.toNat / 0x1000 % 0x40)
    (by omega) (by omega) (by omega) (by omega) (by omega) (by omega) (by omega)
  have hthird := isContinuation_byte (c.toNat / 0x40)
  have hfourth := isContinuation_byte c.toNat
  have hnumber : number (0xF0 + c.toNat / 0x40000 - 0xF0)
      [(0x80 + c.toNat / 0x1000 % 0x40).toUInt8, (0x80 + c.toNat / 0x40 % 0x40).toUInt8,
        (0x80 + c.toNat % 0x40).toUInt8] = c := by
    simp only [number, List.foldl_cons, List.foldl_nil, UInt8.toNat_ofNat_of_lt' hsecondByte,
      UInt8.toNat_ofNat_of_lt' hthirdByte, UInt8.toNat_ofNat_of_lt' hlastByte]
    refine (congrArg Char.ofNat ?_).trans (Char.ofNat_toNat c)
    omega
  rw [encodeChar, decodeFrom.eq_def]
  simp only [if_neg (Nat.not_lt.mpr (Nat.le_trans (by decide : 0x80 ≤ 0x10000) hlow)),
    if_neg (Nat.not_lt.mpr (Nat.le_trans (by decide : 0x800 ≤ 0x10000) hlow)),
    if_neg (Nat.not_lt.mpr hlow), List.cons_append, List.nil_append, if_neg hlead.1,
    if_neg hlead.2, hsecond, hthird, hfourth, Bool.not_true, Bool.false_eq_true, if_false,
    if_neg hlong, if_neg hlong', UInt8.toNat_ofNat_of_lt' hfirstByte, hnumber]

/-- **The bytes of a character are read as that character.** -/
theorem decodeFrom_encodeChar (c : Char) :
    ∃ length, decodeFrom position done (encodeChar c ++ rest)
      = decodeFrom (position + length) (c :: done) rest := by
  by_cases h₁ : c.toNat < 0x80
  · exact ⟨1, decodeFrom_one position done rest h₁⟩
  by_cases h₂ : c.toNat < 0x800
  · exact ⟨2, decodeFrom_two position done rest (Nat.not_lt.mp h₁) h₂⟩
  by_cases h₃ : c.toNat < 0x10000
  · exact ⟨3, decodeFrom_three position done rest (Nat.not_lt.mp h₂) h₃⟩
  · exact ⟨4, decodeFrom_four position done rest (Nat.not_lt.mp h₃)⟩

/-! ## A whole text -/

theorem decodeFrom_encode : ∀ (t : Text) (position : Nat) (done : Text),
    decodeFrom position done (encode t) = .ok (done.reverse ++ t)
  | [], position, done => by
      rw [List.append_nil]
      exact decodeFrom.eq_1 position done
  | c :: t, position, done => by
      obtain ⟨length, h⟩ := decodeFrom_encodeChar position done (encode t) c
      rw [encode, List.flatMap_cons, ← encode, h, decodeFrom_encode t]
      simp

/-- **A text that was encoded is decoded again.** -/
theorem decode_encode (t : Text) : decode (encode t) = .ok t := decodeFrom_encode t 0 []

/-! ## From bytes to characters and back -/

/-- The number of a character, if there is a character of this number. -/
theorem toNat_number {lead : Nat} {bytes : Bytes} {n : Nat}
    (hn : bytes.foldl (fun n b => n * 0x40 + (b.toNat - 0x80)) lead = n) (hvalid : n.isValidChar) :
    (number lead bytes).toNat = n := by
  rw [number, hn, Char.ofNat, dif_pos hvalid]
  rfl

theorem toUInt8_eq {n : Nat} {b : UInt8} (h : n = b.toNat) : n.toUInt8 = b := by
  rw [h]
  exact UInt8.ofNat_toNat

/-- A byte that may continue a character, as a number. -/
theorem continuation_bounds {b : UInt8} (h : isContinuation b = true) :
    0x80 ≤ b.toNat ∧ b.toNat ≤ 0xBF := by
  rw [isContinuation, Bool.and_eq_true, decide_eq_true_iff, decide_eq_true_iff] at h
  exact h

/-- The bounds on a second byte, as numbers. -/
theorem second_bounds {a b : UInt8} (h : isSecond a b = true) :
    0x80 ≤ b.toNat ∧ b.toNat ≤ 0xBF ∧ (a.toNat = 0xE0 → 0xA0 ≤ b.toNat)
      ∧ (a.toNat = 0xED → b.toNat ≤ 0x9F) ∧ (a.toNat = 0xF0 → 0x90 ≤ b.toNat)
      ∧ (a.toNat = 0xF4 → b.toNat ≤ 0x8F) := by
  have heq : ∀ c : UInt8, a = c ↔ a.toNat = c.toNat := fun c => UInt8.toNat_inj.symm
  simp only [isSecond, Bool.and_eq_true, decide_eq_true_iff, UInt8.le_iff_toNat_le,
    heq, apply_ite UInt8.toNat, UInt8.reduceToNat] at h
  grind

theorem encodeChar_number_one {a : UInt8} (h : a.toNat < 0x80) :
    encodeChar (number a.toNat []) = [a] := by
  have hnumber : (number a.toNat []).toNat = a.toNat := toNat_number rfl (.inl (by omega))
  simp only [encodeChar, hnumber, if_pos h, toUInt8_eq rfl]

theorem encodeChar_number_two {a b : UInt8} (hlow : 0xC2 ≤ a.toNat) (hhigh : a.toNat < 0xE0)
    (hb : isSecond a b = true) : encodeChar (number (a.toNat - 0xC0) [b]) = [a, b] := by
  obtain ⟨h₁, h₂, -⟩ := second_bounds hb
  obtain ⟨n, hn⟩ : ∃ n, n = (a.toNat - 0xC0) * 0x40 + (b.toNat - 0x80) := ⟨_, rfl⟩
  have hnumber : (number (a.toNat - 0xC0) [b]).toNat = n :=
    toNat_number hn.symm (.inl (by omega))
  have ha : (0xC0 + n / 0x40).toUInt8 = a := toUInt8_eq (by omega)
  have hb : (0x80 + n % 0x40).toUInt8 = b := toUInt8_eq (by omega)
  have hlong : ¬ n < 0x80 := by omega
  have hshort : n < 0x800 := by omega
  simp only [encodeChar, hnumber, if_neg hlong, if_pos hshort, ha, hb]

theorem encodeChar_number_three {a b c : UInt8} (hlow : 0xE0 ≤ a.toNat) (hhigh : a.toNat < 0xF0)
    (hb : isSecond a b = true) (hc : isContinuation c = true) :
    encodeChar (number (a.toNat - 0xE0) [b, c]) = [a, b, c] := by
  obtain ⟨h₁, h₂, hE0, hED, -⟩ := second_bounds hb
  obtain ⟨h₃, h₄⟩ := continuation_bounds hc
  obtain ⟨n, hn⟩ : ∃ n, n = ((a.toNat - 0xE0) * 0x40 + (b.toNat - 0x80)) * 0x40
      + (c.toNat - 0x80) := ⟨_, rfl⟩
  have hnumber : (number (a.toNat - 0xE0) [b, c]).toNat = n := by
    refine toNat_number hn.symm ?_
    rw [Nat.isValidChar]
    omega
  have ha : (0xE0 + n / 0x1000).toUInt8 = a := toUInt8_eq (by omega)
  have hb : (0x80 + n / 0x40 % 0x40).toUInt8 = b := toUInt8_eq (by omega)
  have hc : (0x80 + n % 0x40).toUInt8 = c := toUInt8_eq (by omega)
  have hlong : ¬ n < 0x80 := by omega
  have hlong' : ¬ n < 0x800 := by omega
  have hshort : n < 0x10000 := by omega
  simp only [encodeChar, hnumber, if_neg hlong, if_neg hlong', if_pos hshort, ha, hb, hc]

theorem encodeChar_number_four {a b c d : UInt8} (hlow : 0xF0 ≤ a.toNat) (hhigh : a.toNat ≤ 0xF4)
    (hb : isSecond a b = true) (hc : isContinuation c = true) (hd : isContinuation d = true) :
    encodeChar (number (a.toNat - 0xF0) [b, c, d]) = [a, b, c, d] := by
  obtain ⟨h₁, h₂, -, -, hF0, hF4⟩ := second_bounds hb
  obtain ⟨h₃, h₄⟩ := continuation_bounds hc
  obtain ⟨h₅, h₆⟩ := continuation_bounds hd
  obtain ⟨n, hn⟩ : ∃ n, n = (((a.toNat - 0xF0) * 0x40 + (b.toNat - 0x80)) * 0x40
      + (c.toNat - 0x80)) * 0x40 + (d.toNat - 0x80) := ⟨_, rfl⟩
  have hnumber : (number (a.toNat - 0xF0) [b, c, d]).toNat = n := by
    refine toNat_number hn.symm ?_
    rw [Nat.isValidChar]
    omega
  have ha : (0xF0 + n / 0x40000).toUInt8 = a := toUInt8_eq (by omega)
  have hb : (0x80 + n / 0x1000 % 0x40).toUInt8 = b := toUInt8_eq (by omega)
  have hc : (0x80 + n / 0x40 % 0x40).toUInt8 = c := toUInt8_eq (by omega)
  have hd : (0x80 + n % 0x40).toUInt8 = d := toUInt8_eq (by omega)
  have hlong : ¬ n < 0x80 := by omega
  have hlong' : ¬ n < 0x800 := by omega
  have hlong'' : ¬ n < 0x10000 := by omega
  simp only [encodeChar, hnumber, if_neg hlong, if_neg hlong', if_neg hlong'', ha, hb, hc, hd]

/-- The bounds on the first of several bytes, as numbers. -/
theorem lead_bounds {a : UInt8} (h : ¬ (decide (a < 0xC2) || decide (0xF4 < a)) = true) :
    0xC2 ≤ a.toNat ∧ a.toNat ≤ 0xF4 := by
  rw [Bool.or_eq_true, decide_eq_true_iff, decide_eq_true_iff, not_or] at h
  exact ⟨UInt8.le_iff_toNat_le.mp (UInt8.not_lt.mp h.1),
    UInt8.le_iff_toNat_le.mp (UInt8.not_lt.mp h.2)⟩

/-- One character more in front of a text. -/
theorem exists_encode_cons {done t : Text} {c : Char} {bytes rest : Bytes}
    (hc : encodeChar c = bytes)
    (h : ∃ new, t = (c :: done).reverse ++ new ∧ encode new = rest) :
    ∃ new, t = done.reverse ++ new ∧ encode new = bytes ++ rest := by
  obtain ⟨new, rfl, rfl⟩ := h
  exact ⟨c :: new, by simp, by rw [encode, List.flatMap_cons, hc, ← encode]⟩

/-- **Bytes that were decoded are the bytes of the text.** -/
theorem encode_of_decodeFrom {position : Nat} {done : Text} {bytes : Bytes} {t : Text}
    (h : decodeFrom position done bytes = .ok t) :
    ∃ new, t = done.reverse ++ new ∧ encode new = bytes := by
  fun_induction decodeFrom position done bytes with
  | case1 position done => exact ⟨[], by simpa using h.symm, rfl⟩
  | case2 position done a rest ha ih =>
    exact exists_encode_cons (encodeChar_number_one (UInt8.lt_iff_toNat_lt.mp ha)) (ih h)
  | case6 position done a _ hlead b rest hb ha ih =>
    have hb' : isSecond a b = true := by simpa using hb
    exact exists_encode_cons
      (encodeChar_number_two (lead_bounds hlead).1 (UInt8.lt_iff_toNat_lt.mp ha) hb') (ih h)
  | case9 position done a _ hlead b hb ha c rest hc ha' ih =>
    have hb' : isSecond a b = true := by simpa using hb
    have hc' : isContinuation c = true := by simpa using hc
    exact exists_encode_cons (encodeChar_number_three
      (UInt8.le_iff_toNat_le.mp (UInt8.not_lt.mp ha)) (UInt8.lt_iff_toNat_lt.mp ha') hb' hc') (ih h)
  | case12 position done a _ hlead b hb ha c hc ha' d rest hd ih =>
    have hb' : isSecond a b = true := by simpa using hb
    have hc' : isContinuation c = true := by simpa using hc
    have hd' : isContinuation d = true := by simpa using hd
    exact exists_encode_cons (encodeChar_number_four
      (UInt8.le_iff_toNat_le.mp (UInt8.not_lt.mp ha')) (lead_bounds hlead).2 hb' hc' hd') (ih h)
  -- In all other cases decoding ends with a flaw.
  | _ => exact nomatch h

/-- **Bytes that can be decoded are the bytes of their text**, so no text has two forms. -/
theorem encode_of_decode {bytes : Bytes} {t : Text} (h : decode bytes = .ok t) :
    encode t = bytes := by
  obtain ⟨new, rfl, hnew⟩ := encode_of_decodeFrom h
  exact hnew

end CallEdits.Utf8
