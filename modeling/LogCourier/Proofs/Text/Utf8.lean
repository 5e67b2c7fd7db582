import LogCourier.Proofs.Text
import LogCourier.Text.Utf8

/-!
# UTF-8 is read as it is written

A character has one form in bytes, and only that form is read as the character. So bytes are text
exactly if they are what some text is written in, and they are that text.

* `front_cases`: the forms that a character can have.
* `encodeChar_of_front`: what is read as a character is what the character is written in.
* `front_encodeChar`: what a character is written in is read as it.
* `decode?_eq_some_iff`: the same for texts.
* `exists_split_of_encode`: a character that can be seen in the bytes of a text stands in the text.
-/

namespace LogCourier.Text.Utf8

/-! ## Bytes as numbers -/

/-- A byte is the byte with its number. Bytes that were computed are compared with those that were
read through their numbers, where `omega` can decide. -/
theorem ofNat_eq {n : Nat} {b : UInt8} (h : n = b.toNat) : UInt8.ofNat n = b := by
  rw [h, UInt8.ofNat_toNat]

theorem toNat_ofNat {n : Nat} (h : n < 256) : (UInt8.ofNat n).toNat = n := by
  rw [UInt8.toNat_ofNat']
  omega

/-- The bytes that go on with a character, as a range of numbers. -/
theorem isContinuation_iff {b : UInt8} :
    isContinuation b = true ↔ 0x80 ≤ b.toNat ∧ b.toNat ≤ 0xBF := by
  simp [isContinuation, UInt8.le_iff_toNat_le]

/-- What a second byte has to be, as ranges of numbers. Behind four of the first bytes the range is
shorter than elsewhere: these limits keep out forms that are too long, surrogates, and what is
beyond Unicode. -/
theorem secondInRange_iff {f b : UInt8} :
    secondInRange f b = true ↔
      (0x80 ≤ b.toNat ∧ b.toNat ≤ 0xBF) ∧ (f.toNat = 0xE0 → 0xA0 ≤ b.toNat) ∧
        (f.toNat = 0xED → b.toNat ≤ 0x9F) ∧ (f.toNat = 0xF0 → 0x90 ≤ b.toNat) ∧
        (f.toNat = 0xF4 → b.toNat ≤ 0x8F) := by
  unfold secondInRange
  simp only [beq_iff_eq, ← UInt8.toNat_inj, UInt8.le_iff_toNat_le, UInt8.reduceToNat]
  -- one range for each of the four leading bytes that narrow it, and the usual one for the
  -- others
  split
  · simp only [Bool.and_eq_true, decide_eq_true_eq]
    omega
  · split
    · simp only [Bool.and_eq_true, decide_eq_true_eq]
      omega
    · split
      · simp only [Bool.and_eq_true, decide_eq_true_eq]
        omega
      · split
        · simp only [Bool.and_eq_true, decide_eq_true_eq]
          omega
        · rw [isContinuation_iff]
          omega

/-- What is written behind a first byte goes on with a character. -/
theorem isContinuation_ofNat (n : Nat) : isContinuation (UInt8.ofNat (n % 64 + 0x80)) = true := by
  rw [isContinuation_iff, toNat_ofNat (by omega)]
  omega

/-- The six bits that were put into such a byte are read from it. -/
theorem payload_ofNat (n : Nat) : payload (UInt8.ofNat (n % 64 + 0x80)) = n % 64 := by
  rw [payload, toNat_ofNat (by omega)]
  omega

/-! ## The forms of characters -/

section Front

variable {f b c d : UInt8} (rest : Bytes)

theorem front_one (hf : f.toNat < 0x80) :
    front f rest = (some (Char.ofNat f.toNat), 0) := by
  have h : f < 0x80 := UInt8.lt_iff_toNat_lt.mpr hf
  unfold front
  rw [if_pos h]

/-- A first byte and one that goes on: a character of two bytes. -/
theorem front_two (hf : 0xC2 ≤ f.toNat ∧ f.toNat ≤ 0xDF) (hb : isContinuation b = true) :
    front f (b :: rest) = (some (Char.ofNat (f.toNat % 32 * 64 + payload b)), 1) := by
  unfold front
  simp only [UInt8.lt_iff_toNat_lt, UInt8.le_iff_toNat_le, UInt8.reduceToNat, Bool.and_eq_true,
    decide_eq_true_eq]
  rw [if_neg (by omega), if_pos hf]
  simp only [hb, if_true]

/-- A character of three bytes, whose second byte has to be in range. -/
theorem front_three (hf : 0xE0 ≤ f.toNat ∧ f.toNat ≤ 0xEF) (hb : secondInRange f b = true)
    (hc : isContinuation c = true) :
    front f (b :: c :: rest) =
      (some (Char.ofNat ((f.toNat % 16 * 64 + payload b) * 64 + payload c)), 2) := by
  unfold front
  simp only [UInt8.lt_iff_toNat_lt, UInt8.le_iff_toNat_le, UInt8.reduceToNat, Bool.and_eq_true,
    decide_eq_true_eq]
  rw [if_neg (by omega), if_neg (by omega), if_pos hf]
  simp only [hb, hc, if_true]

/-- A character of four bytes, the second again in range. -/
theorem front_four (hf : 0xF0 ≤ f.toNat ∧ f.toNat ≤ 0xF4) (hb : secondInRange f b = true)
    (hc : isContinuation c = true) (hd : isContinuation d = true) :
    front f (b :: c :: d :: rest) =
      (some (Char.ofNat (((f.toNat % 8 * 64 + payload b) * 64 + payload c) * 64 + payload d)),
        3) := by
  unfold front
  simp only [UInt8.lt_iff_toNat_lt, UInt8.le_iff_toNat_le, UInt8.reduceToNat, Bool.and_eq_true,
    decide_eq_true_eq]
  rw [if_neg (by omega), if_neg (by omega), if_neg (by omega), if_pos hf]
  simp only [hb, hc, hd, if_true]

end Front

/-- A first byte and those behind it that make a character: one of four forms. It is the inversion
of `front`, so what has been read is known down to the ranges of its bytes, and `front` is not
opened anywhere else. -/
theorem front_cases {f : UInt8} {rest : Bytes} {x : Char} {n : Nat}
    (h : front f rest = (some x, n)) :
    (f.toNat < 0x80 ∧ n = 0 ∧ x = Char.ofNat f.toNat) ∨
      (∃ b r, rest = b :: r ∧ (0xC2 ≤ f.toNat ∧ f.toNat ≤ 0xDF) ∧ isContinuation b = true ∧ n = 1 ∧
        x = Char.ofNat (f.toNat % 32 * 64 + payload b)) ∨
      (∃ b c r, rest = b :: c :: r ∧ (0xE0 ≤ f.toNat ∧ f.toNat ≤ 0xEF) ∧
        secondInRange f b = true ∧ isContinuation c = true ∧ n = 2 ∧
        x = Char.ofNat ((f.toNat % 16 * 64 + payload b) * 64 + payload c)) ∨
      ∃ b c d r, rest = b :: c :: d :: r ∧ (0xF0 ≤ f.toNat ∧ f.toNat ≤ 0xF4) ∧
        secondInRange f b = true ∧ isContinuation c = true ∧ isContinuation d = true ∧ n = 3 ∧
        x = Char.ofNat (((f.toNat % 8 * 64 + payload b) * 64 + payload c) * 64 + payload d) := by
  unfold front at h
  simp only [UInt8.lt_iff_toNat_lt, UInt8.le_iff_toNat_le, UInt8.reduceToNat, Bool.and_eq_true,
    decide_eq_true_eq] at h
  -- by the leading byte: one byte, two, three or four; where a byte is missing or out of
  -- range there is no character
  split at h
  · rename_i hf
    cases h
    exact .inl ⟨hf, rfl, rfl⟩
  · split at h
    · rename_i hf
      split at h
      · split at h
        · rename_i hb
          cases h
          exact .inr (.inl ⟨_, _, rfl, hf, hb, rfl, rfl⟩)
        · cases h
      · cases h
    · split at h
      · rename_i hf
        split at h
        · split at h
          · rename_i hb
            split at h
            · rename_i hc
              cases h
              exact .inr (.inr (.inl ⟨_, _, _, rfl, hf, hb, hc, rfl, rfl⟩))
            · cases h
          · cases h
        · cases h
        · cases h
      · split at h
        · rename_i hf
          split at h
          · split at h
            · rename_i hb
              split at h
              · rename_i hc
                split at h
                · rename_i hd
                  cases h
                  exact .inr (.inr (.inr ⟨_, _, _, _, rfl, hf, hb, hc, hd, rfl, rfl⟩))
                · cases h
              · cases h
            · cases h
          · cases h
          · cases h
          · cases h
        · cases h

/-- The bytes of a character by its number: the four forms again, this time as they are written. -/
theorem encodeChar_ofNat {v : Nat} (h : v.isValidChar) :
    String.utf8EncodeChar (Char.ofNat v) =
      if v ≤ 0x7F then [UInt8.ofNat v]
      else if v ≤ 0x7FF then [UInt8.ofNat (v / 64 % 32 + 0xC0), UInt8.ofNat (v % 64 + 0x80)]
      else if v ≤ 0xFFFF then
        [UInt8.ofNat (v / 4096 % 16 + 0xE0), UInt8.ofNat (v / 64 % 64 + 0x80),
          UInt8.ofNat (v % 64 + 0x80)]
      else
        [UInt8.ofNat (v / 262144 % 8 + 0xF0), UInt8.ofNat (v / 4096 % 64 + 0x80),
          UInt8.ofNat (v / 64 % 64 + 0x80), UInt8.ofNat (v % 64 + 0x80)] := by
  have hval : (Char.ofNat v).val.toNat = v := by
    rw [Char.ofNat, dif_pos h]
    rfl
  unfold String.utf8EncodeChar
  rw [hval]

/-- What is read as a character is what the character is written in. Each form is a computation with
the number that its bytes make, and the ranges say that the number is in the range of the form. -/
theorem encodeChar_of_front {f : UInt8} {rest : Bytes} {x : Char} {n : Nat}
    (h : front f rest = (some x, n)) : String.utf8EncodeChar x = f :: rest.take n := by
  rcases front_cases h with ⟨hf, rfl, rfl⟩ | ⟨b, r, rfl, hf, hb, rfl, rfl⟩ |
    ⟨b, c, r, rfl, hf, hb, hc, rfl, rfl⟩ | ⟨b, c, d, r, rfl, hf, hb, hc, hd, rfl, rfl⟩
  · -- each length in turn: the value is a character's, and its bytes are the ones that were
    -- read
    have hvalid : f.toNat.isValidChar := by
      unfold Nat.isValidChar
      omega
    rw [encodeChar_ofNat hvalid, if_pos (by omega), ofNat_eq rfl]
    rfl
  · rw [isContinuation_iff] at hb
    have hvalid : (f.toNat % 32 * 64 + payload b).isValidChar := by
      unfold Nat.isValidChar payload
      omega
    rw [encodeChar_ofNat hvalid]
    unfold payload
    rw [if_neg (by omega), if_pos (by omega), ofNat_eq (b := f) (by omega),
      ofNat_eq (b := b) (by omega)]
    rfl
  · -- the range of the second byte keeps out short forms and surrogates
    rw [secondInRange_iff] at hb
    rw [isContinuation_iff] at hc
    have hvalid : ((f.toNat % 16 * 64 + payload b) * 64 + payload c).isValidChar := by
      unfold Nat.isValidChar payload
      omega
    rw [encodeChar_ofNat hvalid]
    unfold payload
    rw [if_neg (by omega), if_neg (by omega), if_pos (by omega), ofNat_eq (b := f) (by omega),
      ofNat_eq (b := b) (by omega), ofNat_eq (b := c) (by omega)]
    rfl
  · rw [secondInRange_iff] at hb
    rw [isContinuation_iff] at hc hd
    have hvalid :
        (((f.toNat % 8 * 64 + payload b) * 64 + payload c) * 64 + payload d).isValidChar := by
      unfold Nat.isValidChar payload
      omega
    rw [encodeChar_ofNat hvalid]
    unfold payload
    rw [if_neg (by omega), if_neg (by omega), if_neg (by omega), ofNat_eq (b := f) (by omega),
      ofNat_eq (b := b) (by omega), ofNat_eq (b := c) (by omega), ofNat_eq (b := d) (by omega)]
    rfl

/-- A character is read off the front of the bytes that it is written in, whatever follows them. The
same computation backwards, one form after the other. -/
theorem front_encodeChar (x : Char) (rest : Bytes) :
    ∃ f bs, String.utf8EncodeChar x = f :: bs ∧ front f (bs ++ rest) = (some x, bs.length) := by
  have hvalid : x.toNat.isValidChar := x.valid
  rw [← Char.ofNat_toNat x, encodeChar_ofNat hvalid]
  generalize x.toNat = v at hvalid
  unfold Nat.isValidChar at hvalid
  split
  · have hf : (UInt8.ofNat v).toNat = v := toNat_ofNat (by omega)
    refine ⟨_, _, rfl, ?_⟩
    rw [List.nil_append, front_one rest (by omega), hf]
    rfl
  · split
    · have hf : (UInt8.ofNat (v / 64 % 32 + 0xC0)).toNat = v / 64 % 32 + 0xC0 :=
        toNat_ofNat (by omega)
      -- the bits that were taken apart make the number again
      have hvalue : (v / 64 % 32 + 0xC0) % 32 * 64 + v % 64 = v := by omega
      refine ⟨_, _, rfl, ?_⟩
      rw [List.singleton_append, front_two rest (by omega) (isContinuation_ofNat v), hf,
        payload_ofNat, hvalue]
      rfl
    · split
      · have hf : (UInt8.ofNat (v / 4096 % 16 + 0xE0)).toNat = v / 4096 % 16 + 0xE0 :=
          toNat_ofNat (by omega)
        have hb : (UInt8.ofNat (v / 64 % 64 + 0x80)).toNat = v / 64 % 64 + 0x80 :=
          toNat_ofNat (by omega)
        have hvalue : ((v / 4096 % 16 + 0xE0) % 16 * 64 + v / 64 % 64) * 64 + v % 64 = v := by omega
        refine ⟨_, _, rfl, ?_⟩
        rw [List.cons_append, List.singleton_append, front_three rest (by omega)
          (secondInRange_iff.mpr (by omega)) (isContinuation_ofNat v), hf, payload_ofNat,
          payload_ofNat, hvalue]
        rfl
      · have hf : (UInt8.ofNat (v / 262144 % 8 + 0xF0)).toNat = v / 262144 % 8 + 0xF0 :=
          toNat_ofNat (by omega)
        have hb : (UInt8.ofNat (v / 4096 % 64 + 0x80)).toNat = v / 4096 % 64 + 0x80 :=
          toNat_ofNat (by omega)
        have hvalue : (((v / 262144 % 8 + 0xF0) % 8 * 64 + v / 4096 % 64) * 64 + v / 64 % 64) * 64 +
            v % 64 = v := by omega
        refine ⟨_, _, rfl, ?_⟩
        rw [List.cons_append, List.cons_append, List.singleton_append, front_four rest (by omega)
          (secondInRange_iff.mpr (by omega)) (isContinuation_ofNat (v / 64)) (isContinuation_ofNat v),
          hf, payload_ofNat, payload_ofNat, payload_ofNat, hvalue]
        rfl

/-! ## Texts -/

theorem scan_encodeChar_append (x : Char) (rest : Bytes) :
    scan (String.utf8EncodeChar x ++ rest) = some x :: scan rest := by
  obtain ⟨f, bs, hbytes, hfront⟩ := front_encodeChar x rest
  rw [hbytes, List.cons_append, scan, hfront, List.drop_left]

/-- The bytes of a text are read as its characters. Induction on the text. -/
theorem scan_encode (s : List Char) : scan (encode s) = s.map some := by
  induction s with
  | nil => rw [encode, List.flatMap_nil, scan, List.map_nil]
  | cons x rest ih =>
    show scan (String.utf8EncodeChar x ++ encode rest) = _
    rw [scan_encodeChar_append, ih, List.map_cons]

/-- Bytes in which every character is found whole are what these characters are written in.
Induction along the scan, with `encodeChar_of_front` for the character that it finds. -/
theorem encode_of_scan {bs : Bytes} {s : List Char} (h : scan bs = s.map some) : encode s = bs := by
  fun_induction scan bs generalizing s with
  | case1 =>
    rw [List.map_eq_nil_iff.mp h.symm]
    rfl
  | case2 f rest ih =>
    cases s with
    | nil => cases h
    | cons x s =>
      obtain ⟨hx, hs⟩ := List.cons.inj h
      -- the scan goes on behind the bytes of the first character
      have hfront : front f rest = (some x, (front f rest).2) := by rw [← hx]
      show String.utf8EncodeChar x ++ encode s = f :: rest
      rw [ih hs, encodeChar_of_front hfront, List.cons_append, List.take_append_drop]

/-- Everything was found if nothing is missing. -/
theorem mapM_id_eq_some_iff {xs : List (Option Char)} {s : List Char} :
    xs.mapM id = some s ↔ xs = s.map some := by
  induction xs generalizing s with
  | nil => cases s <;> simp
  | cons x rest ih =>
    cases x with
    | none => cases s <;> simp
    | some c =>
      cases s with
      | nil => simp [Option.bind_eq_some_iff]
      | cons d s => simpa [Option.bind_eq_some_iff, ih] using and_comm

/-- **Bytes are text exactly if some text is written in them**, and then they are that text. -/
theorem decode?_eq_some_iff {bs : Bytes} {s : List Char} : decode? bs = some s ↔ encode s = bs := by
  rw [decode?, mapM_id_eq_some_iff]
  constructor
  · exact encode_of_scan
  · rintro rfl
    exact scan_encode s

theorem decode?_encode (s : List Char) : decode? (encode s) = some s :=
  decode?_eq_some_iff.mpr rfl

theorem encodeChar_of_ascii {c : Char} (h : c.toNat < 0x80) :
    String.utf8EncodeChar c = [UInt8.ofNat c.toNat] := by
  have hencode := encodeChar_ofNat (v := c.toNat) c.valid
  rwa [Char.ofNat_toNat, if_pos (by omega)] at hencode

/-- A byte below 0x80 is the whole of a character: all bytes of the longer forms are above. -/
theorem eq_of_mem_encodeChar {x : Char} {b : UInt8} (h : b ∈ String.utf8EncodeChar x)
    (hb : b.toNat < 0x80) : x = Char.ofNat b.toNat := by
  have hhigh : ∀ n, 0x80 ≤ n ∧ n < 0x100 → b ≠ UInt8.ofNat n := by
    rintro n hn rfl
    rw [toNat_ofNat (by omega)] at hb
    omega
  have hx : Char.ofNat x.toNat = x := Char.ofNat_toNat x
  have hvalid : x.toNat.isValidChar := x.valid
  rw [← hx, encodeChar_ofNat hvalid] at h
  split at h
  · rw [List.mem_singleton.mp h, toNat_ofNat (by omega), hx]
  · -- in the longer forms there is no such byte
    exfalso
    split at h
    · simp only [List.mem_cons, List.not_mem_nil, or_false] at h
      rcases h with h | h <;> exact hhigh _ (by omega) h
    · split at h
      · simp only [List.mem_cons, List.not_mem_nil, or_false] at h
        rcases h with h | h | h <;> exact hhigh _ (by omega) h
      · simp only [List.mem_cons, List.not_mem_nil, or_false] at h
        rcases h with h | h | h | h <;> exact hhigh _ (by omega) h

/-- A byte below 0x80 stands for the character with its number. So marks of ASCII can be looked for
in bytes instead of in the text. -/
theorem mem_of_mem_encode {s : List Char} {b : UInt8} (h : b ∈ encode s) (hb : b.toNat < 0x80) :
    Char.ofNat b.toNat ∈ s := by
  obtain ⟨x, hx, hmem⟩ := List.mem_flatMap.mp h
  exact eq_of_mem_encodeChar hmem hb ▸ hx

/-! ## Where a character stands -/

/-- The first byte of a character continues none, and all behind it do. Where a character starts can
be seen from the bytes alone. -/
theorem encodeChar_eq_cons (x : Char) :
    ∃ f bs, String.utf8EncodeChar x = f :: bs ∧ isContinuation f = false ∧
      ∀ b ∈ bs, isContinuation b = true := by
  have hfirst : ∀ {n : Nat}, n < 0x80 ∨ 0xC0 ≤ n ∧ n < 0x100 →
      isContinuation (UInt8.ofNat n) = false := by
    intro n hn
    rw [Bool.eq_false_iff, ne_eq, isContinuation_iff, toNat_ofNat (by omega)]
    omega
  have hvalid : x.toNat.isValidChar := x.valid
  rw [← Char.ofNat_toNat x, encodeChar_ofNat hvalid]
  -- the lengths in turn; only the ranges of the bytes count
  generalize x.toNat = v
  split
  · exact ⟨_, _, rfl, hfirst (by omega), nofun⟩
  · split
    · refine ⟨_, _, rfl, hfirst (by omega), fun b hb => ?_⟩
      rw [List.mem_singleton.mp hb]
      exact isContinuation_ofNat v
    · split
      · refine ⟨_, _, rfl, hfirst (by omega), fun b hb => ?_⟩
        simp only [List.mem_cons, List.not_mem_nil, or_false] at hb
        rcases hb with rfl | rfl <;> exact isContinuation_ofNat _
      · refine ⟨_, _, rfl, hfirst (by omega), fun b hb => ?_⟩
        simp only [List.mem_cons, List.not_mem_nil, or_false] at hb
        rcases hb with rfl | rfl | rfl <;> exact isContinuation_ofNat _

/-- No character is written in the start of what another is written in: reading gives both back. -/
theorem encodeChar_append_inj {x y : Char} {r s : Bytes}
    (h : String.utf8EncodeChar x ++ r = String.utf8EncodeChar y ++ s) : x = y ∧ r = s := by
  have hscan : some x :: scan r = some y :: scan s := by
    rw [← scan_encodeChar_append, h, scan_encodeChar_append]
  obtain rfl : x = y := Option.some.inj (List.cons.inj hscan).1
  exact ⟨rfl, List.append_cancel_left h⟩

/-- **Where bytes of a text are those of a character, the text has the character there**, whatever
stands before and behind them: no character before it reaches into them. Induction on the text; its
first character lies in the run, is the one that was found, or would have to end inside it. -/
theorem exists_split_of_encode {t : List Char} {run bs : Bytes} {c : Char}
    (h : encode t = run ++ (String.utf8EncodeChar c ++ bs)) :
    ∃ before after, t = before ++ c :: after ∧ encode before = run ∧ encode after = bs := by
  obtain ⟨g, gs, hc, hg, -⟩ := encodeChar_eq_cons c
  induction t generalizing run with
  | nil =>
    rw [hc] at h
    exact absurd h (by simp [encode])
  | cons x rest ih =>
    obtain ⟨f, fs, hx, -, hfs⟩ := encodeChar_eq_cons x
    have hsplit : String.utf8EncodeChar x ++ encode rest = run ++ (String.utf8EncodeChar c ++ bs) := h
    rcases List.append_eq_append_iff.mp hsplit with ⟨run', hrun, hrest⟩ | ⟨cut, hcut, hrest⟩
    · -- the character belongs to the run
      obtain ⟨before, after, rfl, hbefore, hafter⟩ := ih hrest
      refine ⟨x :: before, after, rfl, ?_, hafter⟩
      show String.utf8EncodeChar x ++ encode before = run
      rw [hbefore, hrun]
    · cases run with
      | nil =>
        rw [List.nil_append] at hsplit
        obtain ⟨rfl, hafter⟩ := encodeChar_append_inj hsplit
        exact ⟨[], rest, rfl, rfl, hafter⟩
      | cons r rs =>
        -- the run ends inside of the character, or at its end
        rw [hx, List.cons_append] at hcut
        obtain ⟨-, hfs'⟩ := List.cons.inj hcut
        cases cut with
        | nil =>
          have hwhole : encode rest = [] ++ (String.utf8EncodeChar c ++ bs) := hrest.symm
          obtain ⟨before, after, rfl, hbefore, hafter⟩ := ih hwhole
          refine ⟨x :: before, after, rfl, ?_, hafter⟩
          show String.utf8EncodeChar x ++ encode before = r :: rs
          rw [hbefore, hx, hcut, List.append_nil, List.append_nil]
        | cons b cut =>
          rw [hc, List.cons_append, List.cons_append] at hrest
          have hb : isContinuation b = true := hfs b (hfs' ▸ List.mem_append_right rs List.mem_cons_self)
          rw [← (List.cons.inj hrest).1, hg] at hb
          cases hb

end LogCourier.Text.Utf8
