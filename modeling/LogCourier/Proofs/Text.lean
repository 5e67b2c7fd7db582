import LogCourier.Text.Blank
import LogCourier.Text.Percent
import Mathlib.Data.List.TakeWhile

/-!
# Characters of texts

Which characters can be in a text that the library writes: in one where some characters are escaped,
and in a numeral. What has no blanks around it is left alone by trimming.
-/

namespace LogCourier.Text

/-- What holds along a text is decided along the text, not over all characters. Without it `decide`
would look for an instance over all of `Char`. -/
instance decidableAlong (s : List Char) (P : Char → Prop) [DecidablePred P] :
    Decidable (∀ c ∈ s, P c) :=
  List.decidableBAll P s

/-- What holds of the first 128 characters holds of every one of them. A fact about ASCII is a
decision over 128 numbers then. -/
@[elab_as_elim]
theorem of_ascii {P : Char → Prop} {c : Char} (hc : c.toNat < 128) (h : ∀ n < 128, P (Char.ofNat n)) :
    P c :=
  Char.ofNat_toNat c ▸ h c.toNat hc

/-- What stands in a joined text is the mark between the parts or comes from a part. Induction on
the parts, with a case for the last one, which has no mark behind it. -/
theorem mem_intercalate {x c : Char} {ss : List (List Char)} (h : c ∈ List.intercalate [x] ss) :
    c = x ∨ ∃ s ∈ ss, c ∈ s := by
  induction ss with
  | nil => cases h
  | cons s rest ih =>
    -- the last part has no mark behind it
    cases rest with
    | nil =>
      rw [List.intercalate_singleton] at h
      exact .inr ⟨s, List.mem_cons_self, h⟩
    | cons t others =>
      rw [List.intercalate_cons_cons] at h
      -- in the part, the mark behind it, or the parts that follow
      rcases List.mem_append.mp h with h | h
      · rcases List.mem_append.mp h with h | h
        · exact .inr ⟨s, List.mem_cons_self, h⟩
        · exact .inl (List.mem_singleton.mp h)
      · rcases ih h with h | ⟨u, hu, hc⟩
        · exact .inl h
        · exact .inr ⟨u, List.mem_cons_of_mem s hu, hc⟩

/-- What is not a mark is in one of the parts, since the parts joined again are the text. -/
theorem exists_mem_splitOn {x c : Char} {s : List Char} (hmem : c ∈ s) (hc : c ≠ x) :
    ∃ t ∈ s.splitOn x, c ∈ t := by
  have htext : List.intercalate [x] (s.splitOn x) = s := List.intercalate_splitOn x
  rw [← htext] at hmem
  exact (mem_intercalate hmem).resolve_left hc

/-- The parts of a text hold none of the marks that part it, and nothing that is not in the text.
Induction on the text: its first character is a mark and opens a part, or belongs to the first
part. -/
theorem mem_splitOnP {p : Char → Bool} {s t : List Char} (h : t ∈ s.splitOnP p) :
    (∀ c ∈ t, p c = false) ∧ t ⊆ s := by
  induction s generalizing t with
  | nil =>
    rw [List.mem_singleton.mp (h : t ∈ [[]])]
    exact ⟨nofun, List.Subset.refl _⟩
  | cons c rest ih =>
    have hrest : ∀ u ∈ rest.splitOnP p, (∀ d ∈ u, p d = false) ∧ u ⊆ c :: rest := fun u hu =>
      ⟨(ih hu).1, List.subset_cons_of_subset c (ih hu).2⟩
    rw [List.splitOnP_cons_eq_if_modifyHead] at h
    split at h
    · -- a mark: the part in front of it is empty
      rcases List.mem_cons.mp h with rfl | h
      · exact ⟨nofun, List.nil_subset _⟩
      · exact hrest t h
    · -- the character goes in front of the first part
      rename_i hc
      obtain ⟨first, others, hsplit⟩ := List.exists_cons_of_ne_nil (List.splitOnP_ne_nil p rest)
      rw [hsplit, List.modifyHead_cons] at h
      rcases List.mem_cons.mp h with rfl | h
      · obtain ⟨hfirst, hsub⟩ := ih (t := first) (by rw [hsplit]; exact List.mem_cons_self)
        refine ⟨fun d hd => ?_, List.cons_subset_cons c hsub⟩
        rcases List.mem_cons.mp hd with rfl | hd
        · exact Bool.eq_false_iff.mpr hc
        · exact hfirst d hd
      · exact hrest t (by rw [hsplit]; exact List.mem_cons_of_mem first h)

/-! ## Parting at a mark -/

/-- Looking for a mark that is not there, one comes to the end. -/
theorem takeWhile_ne_of_not_mem {c : Char} {s : List Char} (h : c ∉ s) :
    s.takeWhile (· != c) = s :=
  List.takeWhile_eq_self_iff.mpr fun _ hd => bne_iff_ne.mpr (ne_of_mem_of_not_mem hd h)

/-- What stands in front of the first mark is found by looking for the mark. -/
theorem takeWhile_ne_append {c : Char} {s : List Char} (h : c ∉ s) (t : List Char) :
    (s ++ c :: t).takeWhile (· != c) = s := by
  have hstop : (c :: t).takeWhile (· != c) = [] := List.takeWhile_cons_of_neg (by simp)
  rw [List.takeWhile_append_of_pos fun d hd => bne_iff_ne.mpr (ne_of_mem_of_not_mem hd h), hstop,
    List.append_nil]

/-- A text is parted at its first mark in one way: two ways to write it as a front without the mark,
the mark and a rest are the same way. -/
theorem eq_of_first_mark {c : Char} {s s' t t' : List Char} (hs : c ∉ s) (hs' : c ∉ s')
    (h : s ++ c :: t = s' ++ c :: t') : s = s' ∧ t = t' := by
  have hfront : s = s' :=
    calc
      s = (s ++ c :: t).takeWhile (· != c) := (takeWhile_ne_append hs t).symm
      _ = (s' ++ c :: t').takeWhile (· != c) := by rw [h]
      _ = s' := takeWhile_ne_append hs' t'
  subst hfront
  exact ⟨rfl, (List.cons.inj (List.append_cancel_left h)).2⟩

/-! ## Trimming -/

/-- Nothing is dropped from a text in which nothing is to be dropped; its first character
decides. -/
theorem dropWhile_eq_self {p : Char → Bool} {s : List Char} (h : ∀ c ∈ s, p c = false) :
    s.dropWhile p = s := by
  cases s with
  | nil => rfl
  | cons c rest => exact List.dropWhile_cons_of_neg (Bool.eq_false_iff.mp (h c List.mem_cons_self))

theorem dropEndWhile_eq_self {p : Char → Bool} {s : List Char} (h : ∀ c ∈ s, p c = false) :
    dropEndWhile p s = s := by
  have hreverse : ∀ c ∈ s.reverse, p c = false := fun c hc => h c (List.mem_reverse.mp hc)
  rw [dropEndWhile, dropWhile_eq_self hreverse, List.reverse_reverse]

/-- A text without blanks is left alone by trimming. Of parsed words and numerals no more is
needed. -/
theorem trim_eq_self {s : List Char} (h : ∀ c ∈ s, isBlank c = false) : trim s = s := by
  rw [trim, dropWhile_eq_self h, dropEndWhile_eq_self h]

/-- Trimming the end stops at the first character that stays. -/
theorem dropEndWhile_cons {p : Char → Bool} {c : Char} (hc : p c = false) (s : List Char) :
    dropEndWhile p (c :: s) = c :: dropEndWhile p s := by
  -- seen from the end, the character that stays comes last
  have hone : [c].dropWhile p = [c] := List.dropWhile_cons_of_neg (Bool.eq_false_iff.mp hc)
  simp only [dropEndWhile, List.reverse_cons, List.dropWhile_append, hone]
  split
  · rename_i hnil
    rw [List.isEmpty_iff.mp hnil]
    rfl
  · rw [List.reverse_append]
    rfl

/-- Only the last character decides whether dropping at the end does anything. -/
theorem dropEndWhile_of_last {p : Char → Bool} {s : List Char} (h : s.getLast?.any p = false) :
    dropEndWhile p s = s := by
  rcases List.eq_nil_or_concat s with rfl | ⟨front, c, rfl⟩
  · rfl
  · have hc : p c = false := by simpa using h
    simp [dropEndWhile, hc]

/-- What is kept at its end keeps the text in front of it: dropping stops at the character that
stays, if it gets there. -/
theorem dropEndWhile_append_of_last {p : Char → Bool} {front : List Char} {c : Char}
    (hc : p c = false) (s : List Char) :
    dropEndWhile p (front ++ [c] ++ s) = front ++ [c] ++ dropEndWhile p s := by
  have hkept : dropEndWhile p (front ++ [c]) = front ++ [c] :=
    dropEndWhile_of_last (by rw [List.getLast?_concat, Option.any_some, hc])
  unfold dropEndWhile at hkept ⊢
  -- dropping either comes to the end of `s` or stops in it
  rw [List.reverse_append, List.dropWhile_append]
  split
  · rename_i hnil
    rw [hkept, List.isEmpty_iff.mp hnil, List.reverse_nil, List.append_nil]
  · rw [List.reverse_append, List.reverse_reverse]

/-- A text that ends in something to be dropped gets shorter. Repeated trimming comes to an end by
it. -/
theorem length_dropEndWhile_lt {p : Char → Bool} {s : List Char} (h : s.getLast?.any p = true) :
    (dropEndWhile p s).length < s.length := by
  rcases List.eq_nil_or_concat s with rfl | ⟨front, c, rfl⟩
  · cases h
  · have hc : p c = true := by simpa using h
    -- the last character goes, and what follows makes nothing longer
    have hshort := (List.dropWhile_sublist p (l := front.reverse)).length_le
    simp only [dropEndWhile, List.concat_eq_append, List.reverse_append, List.reverse_singleton,
      List.singleton_append, List.dropWhile_cons_of_pos hc, List.length_reverse, List.length_append,
      List.length_singleton] at hshort ⊢
    omega

/-- Whether there is nothing but blanks. -/
def IsBlanks (s : List Char) : Prop :=
  ∀ c ∈ s, isBlank c = true

instance (s : List Char) : Decidable (IsBlanks s) :=
  decidableAlong s fun c => isBlank c = true

/-- The empty text is blanks too, so a text that ends at its last word has blanks around it. -/
theorem isBlanks_nil : IsBlanks [] :=
  nofun

/-- What is all to be dropped at the end is dropped, and dropping goes on in front of it. -/
theorem dropEndWhile_append {p : Char → Bool} {t : List Char} (ht : ∀ c ∈ t, p c = true)
    (s : List Char) : dropEndWhile p (s ++ t) = dropEndWhile p s := by
  have hreverse : ∀ c ∈ t.reverse, p c = true := fun c hc => ht c (List.mem_reverse.mp hc)
  rw [dropEndWhile, List.reverse_append, List.dropWhile_append_of_pos hreverse]
  rfl

/-- Blanks around a text do not matter to what trimming leaves of it. The text itself may have
blanks at its ends, or consist of them. -/
theorem trim_append {b₁ b₂ : List Char} (h₁ : IsBlanks b₁) (h₂ : IsBlanks b₂) (s : List Char) :
    trim (b₁ ++ s ++ b₂) = trim s := by
  rw [trim, List.append_assoc, List.dropWhile_append_of_pos h₁, List.dropWhile_append]
  split
  · -- there was nothing but blanks in the text
    rename_i hnil
    have hblanks : b₂.dropWhile isBlank = [] := List.dropWhile_eq_nil_iff.mpr h₂
    rw [trim, hblanks, List.isEmpty_iff.mp hnil]
  · rw [dropEndWhile_append h₂]
    rfl

theorem trim_blanks {b : List Char} (h : IsBlanks b) : trim b = [] := by
  have htrim := trim_append h isBlanks_nil []
  rwa [List.append_nil, List.append_nil] at htrim

/-- Trimming takes blanks off both ends and nothing else: the text is what was taken, what is left,
and what was taken again. -/
theorem exists_trim (s : List Char) :
    ∃ b₁ b₂, IsBlanks b₁ ∧ IsBlanks b₂ ∧ s = b₁ ++ trim s ++ b₂ := by
  refine ⟨s.takeWhile isBlank, ((s.dropWhile isBlank).reverse.takeWhile isBlank).reverse, ?_, ?_, ?_⟩
  · exact fun c hc => List.mem_takeWhile_imp hc
  · exact fun c hc => List.mem_takeWhile_imp (List.mem_reverse.mp hc)
  · -- the blanks at the end are those that are found from behind
    have hend : trim s ++ ((s.dropWhile isBlank).reverse.takeWhile isBlank).reverse =
        s.dropWhile isBlank := by
      rw [trim, dropEndWhile, ← List.reverse_append, List.takeWhile_append_dropWhile,
        List.reverse_reverse]
    rw [List.append_assoc, hend, List.takeWhile_append_dropWhile]

/-! ## Digits -/

/-- Only ASCII has digits here, so facts about digits can be decided. -/
theorem toNat_lt_of_digitValue? {c : Char} {n : Nat} (h : digitValue? c = some n) :
    c.toNat < 128 := by
  unfold digitValue? isAsciiDigit at h
  simp only [Bool.and_eq_true, decide_eq_true_eq, Char.le_def, UInt32.le_iff_toNat_le] at h
  -- what is left compares code points with those of the digits and letters
  simp only [Char.toNat]
  grind

/-- No blank is a digit, neither among the blanks of ASCII nor among the others. -/
theorem digitValue?_of_isBlank {c : Char} (h : isBlank c = true) : digitValue? c = none := by
  cases hdigit : digitValue? c with
  | none => rfl
  | some n =>
    have hnone : isBlank c = true → digitValue? c = none :=
      of_ascii (toNat_lt_of_digitValue? hdigit) (by decide)
    exact hdigit.symm.trans (hnone h)

/-! ## Escapes -/

namespace Percent

/-- The characters that escapes are made of. -/
def alphabet : List Char :=
  "%0123456789ABCDEF".toList

/-- An escape is a percent sign and two upper-case digits. -/
theorem mem_alphabet_of_mem_escape {b : UInt8} {c : Char} (h : c ∈ escape b) : c ∈ alphabet := by
  have hdigit : ∀ n < 16, upperHexDigit n ∈ alphabet := by decide
  have hbyte : b.toNat < 256 := b.toNat_lt
  -- the sign, the upper digit and the lower digit
  rcases List.mem_cons.mp h with rfl | h
  · decide
  · rcases List.mem_cons.mp h with rfl | h
    · exact hdigit _ (by omega)
    · rw [List.mem_singleton.mp h]
      exact hdigit _ (Nat.mod_lt _ (by decide))

/-- What is written is not escaped, or part of an escape. So a text in which everything awkward is
escaped is made of what is harmless and of `alphabet`. -/
theorem mem_encodeWhere {p : Char → Bool} {s : List Char} {c : Char} (h : c ∈ encodeWhere p s) :
    (c ∈ s ∧ p c = false) ∨ c ∈ alphabet := by
  obtain ⟨d, hd, hc⟩ := List.mem_flatMap.mp h
  split at hc
  · obtain ⟨b, -, hb⟩ := List.mem_flatMap.mp hc
    exact .inr (mem_alphabet_of_mem_escape hb)
  · rename_i hp
    rw [List.mem_singleton.mp hc]
    exact .inl ⟨hd, Bool.eq_false_iff.mpr hp⟩

/-- An escape leaves its mark, so a text without the mark has been left alone. Induction on the
text; every character has a first byte, and its escape begins with the mark. -/
theorem encodeWhere_eq_self {p : Char → Bool} {s : List Char} (h : '%' ∉ encodeWhere p s) :
    encodeWhere p s = s := by
  induction s with
  | nil => rfl
  | cons c rest ih =>
    have hcons : encodeWhere p (c :: rest) =
        (if p c then (String.utf8EncodeChar c).flatMap escape else [c]) ++ encodeWhere p rest := rfl
    -- no sign in the whole means none in its head and none in its rest
    rw [hcons, List.mem_append, not_or] at h
    rw [hcons, ih h.2]
    split
    · -- an escaped character would have left a sign
      rename_i hp
      obtain ⟨b, bytes, hbytes⟩ := List.exists_cons_of_ne_nil (String.utf8EncodeChar_ne_nil (c := c))
      rw [if_pos hp, hbytes] at h
      exact absurd List.mem_cons_self h.1
    · rfl

end Percent

/-! ## Numerals -/

/-- The characters of a numeral are digits below its base. Strong induction on the number, along the
divisions by the base that write it. -/
theorem exists_of_mem_toDigits {b n : Nat} (hb : 1 < b) {c : Char} (h : c ∈ Nat.toDigits b n) :
    ∃ d < b, c = Nat.digitChar d := by
  induction n using Nat.strongRecOn with
  | ind n ih =>
    rw [Nat.toDigits_eq_if hb] at h
    split at h
    · rename_i hn
      exact ⟨n, hn, List.mem_singleton.mp h⟩
    · rename_i hn
      -- the digits of the quotient, then that of the remainder
      rcases List.mem_append.mp h with h | h
      · exact ih (n / b) (Nat.div_lt_self (by omega) hb) h
      · exact ⟨n % b, Nat.mod_lt n (by omega), List.mem_singleton.mp h⟩

def digits : List Char :=
  "0123456789".toList

/-- A decimal numeral holds decimal digits only: no sign, no mark and nothing that would have to be
escaped. -/
theorem mem_digits_of_mem_toString {n : Nat} {c : Char} (h : c ∈ (toString n).toList) :
    c ∈ digits := by
  have hdigit : ∀ d < 10, Nat.digitChar d ∈ digits := by decide
  rw [Nat.toString_eq_repr, Nat.toList_repr] at h
  obtain ⟨d, hd, rfl⟩ := exists_of_mem_toDigits (by decide) h
  exact hdigit d hd

/-- Numbers that are written alike are the same number, since reading a numeral gives the number
back. -/
theorem eq_of_toString {m n : Nat} (h : (toString m).toList = (toString n).toList) : m = n := by
  -- reading undoes writing
  have hvalue : ∀ k : Nat, Nat.ofDigitChars 10 (toString k).toList 0 = k := fun k => by
    rw [Nat.toString_eq_repr, Nat.toList_repr]
    exact Nat.ofDigitChars_toDigits (by decide) (by decide)
  rw [← hvalue m, ← hvalue n, h]

theorem mem_of_mem_hexDigits {n : Nat} {c : Char} (h : c ∈ hexDigits n) :
    c ∈ "0123456789abcdef".toList := by
  have hdigit : ∀ d < 16, Nat.digitChar d ∈ "0123456789abcdef".toList := by decide
  obtain ⟨d, hd, rfl⟩ := exists_of_mem_toDigits (by decide) h
  exact hdigit d hd

end LogCourier.Text
