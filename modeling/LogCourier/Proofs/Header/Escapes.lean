import LogCourier.Proofs.Header.Line
import LogCourier.Proofs.Text.Escapes

/-!
# Keys and values with faulty escapes

A key or a value of a header line is a text with escapes. It is read as the text that it stands
for, and as it is written where it stands for none: one fault, in an escape or in the bytes that
the escapes name, and all of its escapes stay.

* `unescaped_eq_iff`: how a key or value is read, without runs and decoders.
* `entry?_eq_some_iff`: how an entry is read.
* `escapes_read_but_for_signs`: reading accepts escapes of two digits, and those with a sign
  besides.
-/

namespace LogCourier.Headers

open Text.Percent (StandsFor decode? meetsSign)

/-- `s` is read as `t`: as the text that it stands for, or as it is written if it stands for
none. -/
def ReadsAs (s t : List Char) : Prop :=
  StandsFor true s (Text.Utf8.encode t) ∨
    (∀ u, ¬StandsFor true s (Text.Utf8.encode u)) ∧ t = s

/-- How a key or a value is read, without decoders: as the text it stands for if there is one, else
as it is written. -/
theorem unescaped_eq_iff {s t : List Char} : unescaped s = t ↔ ReadsAs s t := by
  unfold unescaped ReadsAs
  simp only [← Text.Percent.decode?_eq_some_iff]
  -- a text that is no escape in full is read as it stands
  cases decode? s with
  | some u =>
    constructor
    · rintro rfl
      exact .inl rfl
    · rintro (h | ⟨hnone, -⟩)
      · exact Option.some.inj h
      · exact absurd rfl (hnone u)
  | none =>
    constructor
    · rintro rfl
      exact .inr ⟨nofun, rfl⟩
    · rintro (h | ⟨-, rfl⟩)
      · cases h
      · rfl

/-- An entry gives the key and the value that its two sides are read as, if neither is
empty. The two sides are parted at the first sign, trimmed, and read on their own, so a
fault on one side leaves that side as it is written and does not touch the other. -/
theorem entry?_eq_some_iff {key value : List Char} (hsign : '=' ∉ key) {k v : String} :
    entry? (key ++ '=' :: value) = some (k, v) ↔
      ReadsAs (Text.trim key) k.toList ∧ ReadsAs (Text.trim value) v.toList ∧ k ≠ "" ∧ v ≠ "" := by
  rw [entry?_of_sign hsign, ← unescaped_eq_iff, ← unescaped_eq_iff]
  -- from here on only whether the two texts are empty counts
  generalize unescaped (Text.trim key) = k'
  generalize unescaped (Text.trim value) = v'
  have hempty : ∀ s : String, s ≠ "" ↔ s.toList ≠ [] := fun s => by
    rw [ne_eq, ne_eq, String.toList_eq_nil_iff]
  rw [hempty, hempty]
  constructor
  · intro h
    split at h
    · cases h
    · rename_i hfull
      cases h
      rw [not_or] at hfull
      simp only [String.toList_ofList]
      exact ⟨trivial, trivial, hfull⟩
  · rintro ⟨rfl, rfl, hk, hv⟩
    rw [if_neg fun h => h.elim hk hv, String.ofList_toList, String.ofList_toList]

/-- **Escapes are read as what they name, all together or not at all.** A text is read as a text
`t` exactly if it stands for the bytes of `t`: each `%` that a scan from the left meets has two
digits, or a sign and a digit, behind it, and the bytes of escapes and other characters together
are UTF-8. Escapes with a sign are the whole difference to two digits each: reading agrees with
that rule at a text exactly unless a sign is met and the text is read all the same. If the text
is an entry, its two sides are read so, and one that cannot be read is kept as it is written. -/
theorem escapes_read_but_for_signs (s : List Char) :
    (∀ t, decode? s = some t ↔ StandsFor true s (Text.Utf8.encode t)) ∧
      ((∀ t, decode? s = some t ↔ StandsFor false s (Text.Utf8.encode t)) ↔
        meetsSign s = false ∨ decode? s = none) ∧
      ∀ key value : List Char, '=' ∉ key → s = key ++ '=' :: value → ∀ k v : String,
        (k, v) ∈ entry? s ↔
          ReadsAs (Text.trim key) k.toList ∧ ReadsAs (Text.trim value) v.toList ∧ k ≠ "" ∧ v ≠ "" := by
  refine ⟨fun t => Text.Percent.decode?_eq_some_iff, ?_, ?_⟩
  · simp only [Text.Percent.standsFor_false_iff, ← Text.Percent.decode?_eq_some_iff]
    constructor
    · intro hagrees
      -- a text that is not decoded at all has no reading to disagree about
      cases hread : decode? s with
      | none => exact .inr rfl
      | some t => exact .inl ((hagrees t).mp hread).2
    · -- with no sign met the two rules ask the same; with no reading neither accepts
      -- anything
      rintro (hmeets | hnone) t
      · exact (and_iff_left hmeets).symm
      · rw [hnone]
        exact iff_of_false nofun (fun h => nomatch h.1)
  · rintro key value hsign rfl k v
    exact entry?_eq_some_iff hsign

/-- A key with a fault behind a good escape, and a value with an escape and blanks around it. -/
theorem faulty_key_is_kept :
    '=' ∉ "%41%zz".toList ∧
      entry? ("%41%zz".toList ++ '=' :: " %C3%A9+%41 ".toList) = some ("%41%zz", "é+A") := by
  have hsign : '=' ∉ "%41%zz".toList := by decide
  have hkey : ReadsAs (Text.trim "%41%zz".toList) "%41%zz".toList := by
    have hfault : decode? "%41%zz".toList = none := rfl
    have hread := (escapes_read_but_for_signs "%41%zz".toList).1
    -- `%zz` is no escape, so the whole key stays as written, `%41` included
    refine .inr ⟨fun u hu => ?_, rfl⟩
    rw [show Text.trim "%41%zz".toList = "%41%zz".toList from rfl, ← hread, hfault] at hu
    cases hu
  have hvalue : ReadsAs (Text.trim " %C3%A9+%41 ".toList) "é+A".toList :=
    .inl (.escaped (h := 12) (l := 3) rfl rfl (.escaped (h := 10) (l := 9) rfl rfl
      (.kept (by decide) (.escaped (h := 4) (l := 1) rfl rfl .nil))))
  obtain ⟨-, -, hentry⟩ :=
    escapes_read_but_for_signs ("%41%zz".toList ++ '=' :: " %C3%A9+%41 ".toList)
  exact ⟨hsign, (hentry _ _ hsign rfl _ _).mpr ⟨hkey, hvalue, by decide, by decide⟩⟩

/-- A sign in the place of a digit is no digit, and the escape is read all the same. By the
rule of two digits the text stands for no bytes, so it should be kept as it is. -/
theorem signed_escape_is_read :
    decode? "%+f".toList = some ['\x0f'] ∧
      (∀ t, ¬StandsFor false "%+f".toList (Text.Utf8.encode t)) ∧
      entry? "k=%+f".toList = some ("k", "\x0f") := by
  have hstands : StandsFor true "%+f".toList (Text.Utf8.encode ['\x0f']) := .signed rfl rfl .nil
  refine ⟨Text.Percent.decode?_eq_some_iff.mpr hstands, fun t ht => ?_, ?_⟩
  · cases Text.Percent.meetsSign_of_standsFor ht
  · have hkey : ReadsAs (Text.trim ['k']) "k".toList := .inl (.kept (by decide) .nil)
    have hsign : '=' ∉ ['k'] := by decide
    exact (entry?_eq_some_iff hsign).mpr ⟨hkey, .inl hstands, by decide, by decide⟩

end LogCourier.Headers
