import LogCourier.Proofs.Text.Utf8
import LogCourier.Text.Percent

/-!
# Which escapes are read

`decode?` takes the bytes of escapes run by run and asks of each run whether it is UTF-8. What that
accepts can be said without runs: a text stands for bytes, escapes for the bytes that they name and
characters for what they are written in, and it is read exactly if all its bytes together are UTF-8.

An escape is `%` and two digits. Reading also takes a plus sign in the place of the first digit,
as it may stand before a numeral, so `StandsFor` comes with and without these signs.

* `decodeAfter_eq_some_iff`: runs and the whole agree, because a character that is not escaped ends
  whatever character a run could leave open.
* `decode?_eq_some_iff`: a text is read as the text whose bytes it stands for.
* `standsFor_false_iff`: the signs that a scan meets are all that tells the two ways to stand for
  bytes apart.
-/

namespace LogCourier.Text.Percent

/-- `s` stands for the bytes `bs`, as a scan from the left finds them. With `signs`, a plus sign
may stand in the place of the first digit of an escape. -/
inductive StandsFor (signs : Bool) : List Char → Bytes → Prop
  | nil : StandsFor signs [] []
  | escaped {high low : Char} {h l : Nat} {s : List Char} {bs : Bytes}
      (hhigh : digitValue? high = some h) (hlow : digitValue? low = some l)
      (hrest : StandsFor signs s bs) :
      StandsFor signs ('%' :: high :: low :: s) (UInt8.ofNat (16 * h + l) :: bs)
  | signed {low : Char} {l : Nat} {s : List Char} {bs : Bytes} (hsigns : signs = true)
      (hlow : digitValue? low = some l) (hrest : StandsFor signs s bs) :
      StandsFor signs ('%' :: '+' :: low :: s) (UInt8.ofNat l :: bs)
  | kept {c : Char} {s : List Char} {bs : Bytes} (hc : c ≠ '%') (hrest : StandsFor signs s bs) :
      StandsFor signs (c :: s) (String.utf8EncodeChar c ++ bs)

/-! ## Escapes -/

/-- What two characters behind a mark name: the value of both digits, or, behind a plus sign, that
of the second one alone. -/
theorem octet?_eq_some_iff {high low : Char} {b : UInt8} :
    octet? high low = some b ↔
      (high = '+' ∧ ∃ l, digitValue? low = some l ∧ UInt8.ofNat l = b) ∨
        ∃ h l, digitValue? high = some h ∧ digitValue? low = some l ∧
          UInt8.ofNat (16 * h + l) = b := by
  unfold octet?
  by_cases hplus : high = '+'
  · subst hplus
    rw [if_pos rfl, Option.map_eq_some_iff]
    constructor
    · exact fun h => .inl ⟨rfl, h⟩
    · rintro (⟨-, h⟩ | ⟨h, l, hhigh, -⟩)
      · exact h
      · cases hhigh
  · rw [if_neg hplus]
    constructor
    · intro hread
      -- both characters have to be digits
      obtain ⟨h, hhigh, hread⟩ := Option.bind_eq_some_iff.mp hread
      obtain ⟨l, hlow, hread⟩ := Option.bind_eq_some_iff.mp hread
      exact .inr ⟨h, l, hhigh, hlow, Option.some.inj hread⟩
    · rintro (⟨heq, -⟩ | ⟨h, l, hhigh, hlow, rfl⟩)
      · exact absurd heq hplus
      · rw [hhigh, hlow]
        rfl

/-- In front of any text, an escape stands for its byte. The two constructors for escapes, put
together as one equation about the reader. -/
theorem standsFor_escape_iff {high low : Char} {s : List Char} {bs : Bytes} :
    StandsFor true ('%' :: high :: low :: s) bs ↔
      ∃ b rest, octet? high low = some b ∧ StandsFor true s rest ∧ bs = b :: rest := by
  constructor
  · intro h
    cases h with
    | escaped hhigh hlow hrest =>
      exact ⟨_, _, octet?_eq_some_iff.mpr (.inr ⟨_, _, hhigh, hlow, rfl⟩), hrest, rfl⟩
    | signed hsigns hlow hrest =>
      exact ⟨_, _, octet?_eq_some_iff.mpr (.inl ⟨rfl, _, hlow, rfl⟩), hrest, rfl⟩
    -- a percent sign is never kept as it is
    | kept hc hrest => exact absurd rfl hc
  · rintro ⟨b, rest, hb, hrest, rfl⟩
    rcases octet?_eq_some_iff.mp hb with ⟨rfl, l, hlow, rfl⟩ | ⟨h, l, hhigh, hlow, rfl⟩
    · exact .signed rfl hlow hrest
    · exact .escaped hhigh hlow hrest

/-- An escape that the text ends in the middle of stands for nothing. -/
theorem not_standsFor_cut {signs : Bool} {s : List Char} {bs : Bytes}
    (h : ∀ high low rest, s ≠ high :: low :: rest) : ¬StandsFor signs ('%' :: s) bs := by
  intro hstands
  cases hstands with
  | escaped hhigh hlow hrest => exact h _ _ _ rfl
  | signed hsigns hlow hrest => exact h _ _ _ rfl
  | kept hc hrest => exact hc rfl

/-- A character that is no mark stands for its own bytes, whatever follows it. -/
theorem standsFor_kept_iff {signs : Bool} {c : Char} {s : List Char} {bs : Bytes} (hc : c ≠ '%') :
    StandsFor signs (c :: s) bs ↔
      ∃ rest, StandsFor signs s rest ∧ bs = String.utf8EncodeChar c ++ rest := by
  constructor
  · intro h
    cases h with
    | kept hc hrest => exact ⟨_, hrest, rfl⟩
    | _ => exact absurd rfl hc
  · rintro ⟨rest, hrest, rfl⟩
    exact .kept hc hrest

/-! ## Reading -/

/-- What follows a run of escapes is read exactly if its bytes behind those of the run are UTF-8.
Induction along the reader. The step that needs an argument is the one where a run ends: that the
bytes are text as a whole has to be turned into that they are text before the character and behind
it. -/
theorem decodeAfter_eq_some_iff {run : Bytes} {s t : List Char} :
    decodeAfter run s = some t ↔ ∃ bs, StandsFor true s bs ∧ Utf8.encode t = run ++ bs := by
  -- along the decoder, with the bytes collected so far as `run`: an escape, a cut escape,
  -- any other character, and the end
  fun_induction decodeAfter run s generalizing t with
  | case1 run high low rest ih =>
    constructor
    · intro h
      obtain ⟨b, hb, hrest⟩ := Option.bind_eq_some_iff.mp h
      obtain ⟨bs, hbs, ht⟩ := (ih b).mp hrest
      refine ⟨b :: bs, standsFor_escape_iff.mpr ⟨b, bs, hb, hbs, rfl⟩, ?_⟩
      rw [ht, List.append_assoc, List.singleton_append]
    · rintro ⟨bs, hbs, ht⟩
      obtain ⟨b, bs, hb, hrest, rfl⟩ := standsFor_escape_iff.mp hbs
      refine Option.bind_eq_some_iff.mpr ⟨b, hb, (ih b).mpr ⟨bs, hrest, ?_⟩⟩
      rw [ht, List.append_assoc, List.singleton_append]
  | case2 run s hcut =>
    -- a sign without two characters behind it fails the decoder and stands for nothing
    refine iff_of_false nofun ?_
    rintro ⟨bs, hbs, -⟩
    exact not_standsFor_cut (fun high low rest hs => hcut high low rest hs) hbs
  | case3 run c rest _ hc ih =>
    constructor
    · intro h
      obtain ⟨before, hbefore, h⟩ := Option.bind_eq_some_iff.mp h
      obtain ⟨after, hafter, h⟩ := Option.bind_eq_some_iff.mp h
      obtain ⟨bs, hbs, hencode⟩ := ih.mp hafter
      cases h
      refine ⟨_, .kept hc hbs, ?_⟩
      rw [← Utf8.decode?_eq_some_iff.mp hbefore, ← List.nil_append bs, ← hencode]
      simp [Utf8.encode]
    · -- the character stands in the text, so the run before it is whole characters
      rintro ⟨bs, hbs, ht⟩
      obtain ⟨bs, hrest, rfl⟩ := (standsFor_kept_iff hc).mp hbs
      obtain ⟨before, after, rfl, hbefore, hafter⟩ := Utf8.exists_split_of_encode ht
      have hread : decodeAfter [] rest = some after := ih.mpr ⟨bs, hrest, hafter⟩
      refine Option.bind_eq_some_iff.mpr ⟨before, Utf8.decode?_eq_some_iff.mpr hbefore, ?_⟩
      exact Option.bind_eq_some_iff.mpr ⟨after, hread, rfl⟩
  | case4 run =>
    rw [Utf8.decode?_eq_some_iff]
    constructor
    · intro h
      exact ⟨[], .nil, h.trans (List.append_nil run).symm⟩
    · rintro ⟨bs, hbs, ht⟩
      cases hbs
      exact ht.trans (List.append_nil run)

/-- **A text is read as the text whose bytes it stands for**, and as none if there is no such
text. -/
theorem decode?_eq_some_iff {s t : List Char} :
    decode? s = some t ↔ StandsFor true s (Utf8.encode t) := by
  rw [decode?, decodeAfter_eq_some_iff]
  constructor
  · rintro ⟨bs, hbs, ht⟩
    rw [ht]
    exact hbs
  · intro h
    exact ⟨_, h, rfl⟩

/-! ## Signs -/

/-- Whether a scan from the left meets an escape with a sign. -/
def meetsSign : List Char → Bool
  | '%' :: high :: _ :: rest => high == '+' || meetsSign rest
  | _ :: rest => meetsSign rest
  | [] => false

theorem meetsSign_kept {c : Char} (hc : c ≠ '%') (s : List Char) :
    meetsSign (c :: s) = meetsSign s := by
  rw [meetsSign]
  exact fun _ _ _ h => absurd h hc

/-- Without signs no scan meets one: a plus sign is no digit. -/
theorem meetsSign_of_standsFor {s : List Char} {bs : Bytes} (h : StandsFor false s bs) :
    meetsSign s = false := by
  induction h with
  | nil => rfl
  | @escaped high low h l s bs hhigh hlow hrest ih =>
    -- the first digit of a proper escape is hexadecimal, and plus is not
    have hplus : high ≠ '+' := by
      rintro rfl
      cases hhigh
    show (high == '+' || meetsSign s) = false
    rw [ih, beq_eq_false_iff_ne.mpr hplus, Bool.or_false]
  | signed hsigns hlow hrest ih => cases hsigns
  | kept hc hrest ih => rw [meetsSign_kept hc, ih]

/-- Where signs are taken but none is met, the escapes have two digits each. -/
theorem standsFor_of_not_meetsSign {signs : Bool} {s : List Char} {bs : Bytes}
    (h : StandsFor true s bs) (hmeets : meetsSign s = false) : StandsFor signs s bs := by
  induction h with
  | nil => exact .nil
  | escaped hhigh hlow hrest ih =>
    exact .escaped hhigh hlow (ih (Bool.or_eq_false_iff.mp hmeets).2)
  | signed hsigns hlow hrest ih => cases hmeets
  | kept hc hrest ih =>
    rw [meetsSign_kept hc] at hmeets
    exact .kept hc (ih hmeets)

/-- Taking signs besides loses nothing: the proper escapes are all still there. -/
theorem StandsFor.with_signs {s : List Char} {bs : Bytes} (h : StandsFor false s bs) :
    StandsFor true s bs := by
  induction h with
  | nil => exact .nil
  | escaped hhigh hlow hrest ih => exact .escaped hhigh hlow ih
  | signed hsigns hlow hrest ih => cases hsigns
  | kept hc hrest ih => exact .kept hc ih

/-- The two ways to stand for bytes differ exactly in the texts in which a sign is met. -/
theorem standsFor_false_iff {s : List Char} {bs : Bytes} :
    StandsFor false s bs ↔ StandsFor true s bs ∧ meetsSign s = false :=
  ⟨fun h => ⟨h.with_signs, meetsSign_of_standsFor h⟩, fun h => standsFor_of_not_meetsSign h.1 h.2⟩

end LogCourier.Text.Percent
