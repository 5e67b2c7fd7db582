import LogCourier.Proofs.Text.Utf8
import LogCourier.Text.Percent

/-!
# Escapes are read as they are written

A text may be spelled in many ways: which of its characters are escaped is free, but for some
that have to be, and so is the letter case of the digits. All of them are read as the text, if
the mark of escapes is among the characters that have to be escaped.

* `decode?_of_spells`: what a spelling is read as.
* `not_mem_of_spells`: what has to be escaped does not stand in a spelling.
* `spells_encodeWhere`: what `encodeWhere` writes is a spelling.
-/

namespace LogCourier.Text.Percent

/-- `e` is the bytes as escapes, each digit in either letter case. -/
inductive IsEscaped : Bytes → List Char → Prop
  | nil : IsEscaped [] []
  | cons {b : UInt8} {high low : Char} {bs : Bytes} {e : List Char}
      (hhigh : digitValue? high = some (b.toNat / 16))
      (hlow : digitValue? low = some (b.toNat % 16)) (hrest : IsEscaped bs e) :
      IsEscaped (b :: bs) ('%' :: high :: low :: e)

/-- `t` spells `s`: a character stands for itself or is escaped as its bytes, and what `must`
holds of is escaped. -/
inductive Spells (must : Char → Bool) : List Char → List Char → Prop
  | nil : Spells must [] []
  | kept {c : Char} {s t : List Char} (hc : must c = false) (hrest : Spells must s t) :
      Spells must (c :: s) (c :: t)
  | escaped {c : Char} {e s t : List Char} (he : IsEscaped (String.utf8EncodeChar c) e)
      (hrest : Spells must s t) : Spells must (c :: s) (e ++ t)

/-! ## Reading -/

/-- Two digits name their byte, in either letter case. A plus sign is no digit, so the exception for
it does not apply. -/
theorem octet?_of_digits {b : UInt8} {high low : Char}
    (hhigh : digitValue? high = some (b.toNat / 16))
    (hlow : digitValue? low = some (b.toNat % 16)) : octet? high low = some b := by
  have hplus : high ≠ '+' := by
    rintro rfl
    cases hhigh
  rw [octet?, if_neg hplus, hhigh, hlow]
  show some (UInt8.ofNat (16 * (b.toNat / 16) + b.toNat % 16)) = some b
  rw [Nat.div_add_mod, UInt8.ofNat_toNat]

/-- A reader that comes to escapes collects their bytes in its run. Induction on the escapes, for
every run before them. -/
theorem decodeAfter_escaped {bs : Bytes} {e : List Char} (h : IsEscaped bs e) (run : Bytes)
    (t : List Char) : decodeAfter run (e ++ t) = decodeAfter (run ++ bs) t := by
  induction h generalizing run with
  | nil => rw [List.nil_append, List.append_nil]
  | @cons b high low bs e hhigh hlow hrest ih =>
    calc
      decodeAfter run ('%' :: high :: low :: (e ++ t))
          = (octet? high low).bind fun b => decodeAfter (run ++ [b]) (e ++ t) := rfl
      _ = decodeAfter (run ++ [b]) (e ++ t) := by rw [octet?_of_digits hhigh hlow, Option.bind_some]
      _ = decodeAfter (run ++ b :: bs) t := by rw [ih, List.append_assoc, List.singleton_append]

/-- A character that is no mark ends a run: the run is read, the character stays, and what follows
starts a new run. -/
theorem decodeAfter_kept {c : Char} (hc : c ≠ '%') (run : Bytes) (t : List Char) :
    decodeAfter run (c :: t) =
      (Utf8.decode? run).bind fun before =>
        (decodeAfter [] t).bind fun after => some (before ++ c :: after) := by
  rw [decodeAfter]
  · rfl
  · intro high low rest h
    exact absurd h hc
  · exact hc

section Spells

variable {must : Char → Bool} {s t : List Char}

/-- The bytes of a run are those of whole characters, however many runs and characters there are.
Induction on the spelling, with the characters that are still in the run. -/
theorem decodeAfter_of_spells (hmark : must '%' = true) (h : Spells must s t) (before : List Char) :
    decodeAfter (Utf8.encode before) t = some (before ++ s) := by
  induction h generalizing before with
  | nil =>
    rw [List.append_nil]
    exact Utf8.decode?_encode before
  | @kept c s t hc _ ih =>
    -- the mark itself has to be escaped, so a character that was kept is none
    have hmem : c ≠ '%' := by
      rintro rfl
      rw [hmark] at hc
      cases hc
    have hrest : decodeAfter [] t = some s := ih []
    rw [decodeAfter_kept hmem, Utf8.decode?_encode, hrest]
    rfl
  | @escaped c e s t he _ ih =>
    -- the escaped character joins those of the run
    have hrun : Utf8.encode before ++ String.utf8EncodeChar c = Utf8.encode (before ++ [c]) := by
      simp [Utf8.encode]
    rw [decodeAfter_escaped he, hrun, ih, List.append_assoc, List.singleton_append]

/-- **Every spelling is read as its text.** -/
theorem decode?_of_spells (hmark : must '%' = true) (h : Spells must s t) : decode? t = some s :=
  decodeAfter_of_spells hmark h []

/-! ## What stands in a spelling -/

/-- Escapes are made of marks and digits. -/
theorem mem_of_isEscaped {bs : Bytes} {e : List Char} (h : IsEscaped bs e) {c : Char} (hc : c ∈ e) :
    c = '%' ∨ (digitValue? c).isSome = true := by
  induction h with
  | nil => cases hc
  | cons hhigh hlow _ ih =>
    -- an escape is the sign and two digits, one after the other
    rcases List.mem_cons.mp hc with rfl | hc
    · exact .inl rfl
    · rcases List.mem_cons.mp hc with rfl | hc
      · exact .inr (Option.isSome_of_eq_some hhigh)
      · rcases List.mem_cons.mp hc with rfl | hc
        · exact .inr (Option.isSome_of_eq_some hlow)
        · exact ih hc

/-- What has to be escaped does not stand in a spelling, unless escapes are made of it. So a
spelling can be put between commas or signs that it has to escape. -/
theorem not_mem_of_spells (h : Spells must s t) {c : Char} (hc : must c = true) (hmark : c ≠ '%')
    (hdigit : digitValue? c = none) : c ∉ t := by
  induction h with
  | nil => exact List.not_mem_nil
  | @kept d s t hd _ ih =>
    refine List.not_mem_cons_of_ne_of_not_mem ?_ ih
    rintro rfl
    rw [hc] at hd
    cases hd
  | escaped he _ ih =>
    -- an escape holds the sign and digits only, and the character is none of these
    refine fun hmem => (List.mem_append.mp hmem).elim (fun hmem => ?_) ih
    rcases mem_of_isEscaped he hmem with hmem | hmem
    · exact hmark hmem
    · rw [hdigit] at hmem
      cases hmem

end Spells

/-! ## Reading leniently -/

/-- What no escape is made of stays, even if what is around it is no proper escape. Induction along
the scan, which takes three characters where an escape is proper and one everywhere else. -/
theorem subset_lenientBytes {s : List Char} {c : Char} (hmem : c ∈ s) (hmark : c ≠ '%')
    (hdigit : digitValue? c = none) : String.utf8EncodeChar c ⊆ lenientBytes s := by
  fun_induction lenientBytes s with
  | case1 => cases hmem
  | case2 high low rest h l hlow hhigh ih =>
    -- the three characters of an escape are not the one in question
    rcases List.mem_cons.mp hmem with heq | hmem
    · exact absurd heq hmark
    · rcases List.mem_cons.mp hmem with rfl | hmem
      · cases hdigit.symm.trans hhigh
      · rcases List.mem_cons.mp hmem with rfl | hmem
        · cases hdigit.symm.trans hlow
        · exact List.subset_cons_of_subset _ (ih hmem)
  | case3 high low rest hdigits ih =>
    rcases List.mem_cons.mp hmem with heq | hmem
    · exact absurd heq hmark
    · exact List.subset_cons_of_subset _ (ih hmem)
  | case4 d rest hnot ih =>
    rcases List.mem_cons.mp hmem with rfl | hmem
    · exact List.subset_append_left _ _
    · exact List.subset_append_of_subset_right _ (ih hmem)

/-! ## Writing -/

/-- The escapes that the library writes are escapes. -/
theorem isEscaped_escape (bs : Bytes) : IsEscaped bs (bs.flatMap escape) := by
  have hdigit : ∀ n < 16, digitValue? (upperHexDigit n) = some n := by decide
  induction bs with
  | nil => exact .nil
  | cons b rest ih =>
    have hbyte : b.toNat < 256 := b.toNat_lt
    exact .cons (hdigit _ (by omega)) (hdigit _ (Nat.mod_lt _ (by decide))) ih

/-- Any characters may be escaped besides those that have to be: whatever `encodeWhere` is told to
escape, it writes a spelling. -/
theorem spells_encodeWhere {must p : Char → Bool} (h : ∀ c, must c = true → p c = true)
    (s : List Char) : Spells must s (encodeWhere p s) := by
  induction s with
  | nil => exact .nil
  | cons c rest ih =>
    show Spells must (c :: rest)
      ((if p c then (String.utf8EncodeChar c).flatMap escape else [c]) ++ encodeWhere p rest)
    split
    · exact .escaped (isEscaped_escape _) ih
    · rename_i hp
      exact .kept (Bool.eq_false_iff.mpr fun hmust => hp (h c hmust)) ih

end LogCourier.Text.Percent
