import LogCourier.Proofs.Text.Percent
import LogCourier.Proofs.Url.Host

/-!
# Hosts as they are written

A host is unescaped, put in lower case and written in ASCII before it is looked at, but the marks
around hosts cannot slip through on the way: a mark that was written is still there in the end,
or the tables of the platform have refused it. So a host that is accepted is written without
marks, or as an address between brackets.

* `not_mem_of_name?`: a name that is accepted holds no mark before it is read.
* `isWritten_of_readName`, `isWritten_of_readOpaque`: what accepted hosts look like.
-/

namespace LogCourier.Url

/-! ## Names -/

namespace Host

/-- Where a check of all succeeds it succeeded for each. -/
theorem exists_mem_of_mapM {α β : Type} {f : α → Option β} {xs : List α} {ys : List β}
    (h : xs.mapM f = some ys) {x : α} (hx : x ∈ xs) : ∃ y ∈ ys, f x = some y := by
  induction xs generalizing ys with
  | nil => cases hx
  | cons x' rest ih =>
    rw [List.mapM_cons] at h
    obtain ⟨z, hz, h⟩ := Option.bind_eq_some_iff.mp h
    obtain ⟨zs, hzs, h⟩ := Option.bind_eq_some_iff.mp h
    cases h
    rcases List.mem_cons.mp hx with rfl | hx
    · exact ⟨z, List.mem_cons_self, hz⟩
    · obtain ⟨y, hy, hfx⟩ := ih hzs hx
      exact ⟨y, List.mem_cons_of_mem z hy, hfx⟩

theorem isForbiddenInName_of_mem_marks {c : Char} (h : c ∈ marks) : isForbiddenInName c = true := by
  have hall : ∀ d ∈ marks, isForbiddenInName d = true := by decide
  exact hall c h

/-- A mark around hosts is ASCII, has no lower case, and no escape is made of it. That is all the
next lemma has to know of marks. -/
theorem of_mem_marks {c : Char} (h : c ∈ marks) :
    c.toNat < 128 ∧ c ≠ '%' ∧ Text.digitValue? c = none ∧ Text.asciiLower c = c := by
  have hall : ∀ d ∈ marks,
      d.toNat < 128 ∧ d ≠ '%' ∧ Text.digitValue? d = none ∧ Text.asciiLower d = d := by decide
  exact hall c h

/-- Before a name is read, too, it holds no mark. A mark is followed through the steps of reading:
taking escapes out leaves it, as no escape is made of it; lower case leaves it, as it has none; and
then it is refused, by the tables or by the reader. -/
theorem not_mem_of_name? {idna : Idna} {s name : List Char} (h : name? idna s = some name) {c : Char}
    (hc : c ∈ marks) : c ∉ s := by
  obtain ⟨hascii, hmark, hdigit, hlower⟩ := of_mem_marks hc
  intro hmem
  unfold name? at h
  obtain ⟨decoded, hdecoded, h⟩ := Option.bind_eq_some_iff.mp h
  -- the mark is in ASCII and no part of an escape, so decoding keeps it
  have hdecodedMem : c ∈ decoded := by
    have hbyte : (UInt8.ofNat c.toNat).toNat = c.toNat := Text.Utf8.toNat_ofNat (by omega)
    have hbytes : UInt8.ofNat c.toNat ∈ Text.Percent.lenientBytes s := by
      refine Text.Percent.subset_lenientBytes hmem hmark hdigit ?_
      rw [Text.Utf8.encodeChar_of_ascii hascii]
      exact List.mem_singleton.mpr rfl
    rw [← Text.Utf8.decode?_eq_some_iff.mp hdecoded] at hbytes
    have hchar := Text.Utf8.mem_of_mem_encode hbytes (hbyte.symm ▸ hascii)
    rwa [hbyte, Char.ofNat_toNat] at hchar
  split at h
  · rw [idna.refuses hdecodedMem hc] at h
    cases h
  · -- lower case does not lose it
    have hwritten : c ∈ decoded.map Text.asciiLower := hlower ▸ List.mem_map_of_mem hdecodedMem
    have hrefused : (decoded.map Text.asciiLower).any isForbiddenInName = true :=
      List.any_eq_true.mpr ⟨c, hwritten, isForbiddenInName_of_mem_marks hc⟩
    simp only [hrefused, if_true] at h
    cases h

end Host

/-! ## Addresses -/

/-- All characters of a numeral are digits. -/
theorem isSome_of_areDigits {base : Nat} {s : List Char} (h : areDigits base s = true) {c : Char}
    (hc : c ∈ s) : (Text.digitValue? c).isSome = true := by
  have hdigit := List.all_eq_true.mp h c hc
  cases hvalue : Text.digitValue? c with
  | none =>
    rw [hvalue] at hdigit
    cases hdigit
  | some d => rfl

namespace Ipv6

/-- The characters that pieces are written in. -/
def IsPieceChar (c : Char) : Prop :=
  c = '.' ∨ (Text.digitValue? c).isSome = true

/-- The last piece of an address may be written as four numbers, in digits and dots. -/
theorem isPieceChar_of_dotted? {s : List Char} {ps : List Nat} (h : dotted? s = some ps) :
    ∀ c ∈ s, IsPieceChar c := by
  intro c hc
  by_cases hdot : c = '.'
  · exact .inl hdot
  · unfold dotted? at h
    split at h
    · rename_i hbytes
      obtain ⟨t, ht, hct⟩ := Text.exists_mem_splitOn hc hdot
      -- the character is in one of the four bytes, and each of them was read
      obtain ⟨b, -, hb⟩ := Host.exists_mem_of_mapM hbytes ht
      unfold Ipv4.dottedByte? at hb
      split at hb
      · cases hb
      · rename_i hproper
        rw [not_or, not_or, Decidable.not_not] at hproper
        exact .inr (isSome_of_areDigits hproper.2.1 hct)
    · cases h

/-- Any other piece is written in digits. -/
theorem isPieceChar_of_piece? {s : List Char} {p : Nat} (h : piece? s = some p) :
    ∀ c ∈ s, IsPieceChar c := by
  unfold piece? at h
  split at h
  · rename_i hproper
    exact fun c hc => .inr (isSome_of_areDigits hproper.2.2 hc)
  · cases h

/-- Pieces in a row are each written so. Induction on the groups, the last of which may be
dotted. -/
theorem isPieceChar_of_pieces? {gs : List (List Char)} {ps : List Nat} (h : pieces? gs = some ps) :
    ∀ g ∈ gs, ∀ c ∈ g, IsPieceChar c := by
  -- along the groups; the last may be four bytes with dots
  fun_induction pieces? gs generalizing ps with
  | case1 => exact nofun
  | case2 s hdot =>
    intro g hg
    rw [List.mem_singleton.mp hg]
    exact isPieceChar_of_dotted? h
  | case3 s hdot =>
    intro g hg
    obtain ⟨p, hp, -⟩ := Option.map_eq_some_iff.mp h
    rw [List.mem_singleton.mp hg]
    exact isPieceChar_of_piece? hp
  | case4 s rest hrest ih =>
    obtain ⟨p, hp, h⟩ := Option.bind_eq_some_iff.mp h
    obtain ⟨ps', hps', -⟩ := Option.bind_eq_some_iff.mp h
    intro g hg
    rcases List.mem_cons.mp hg with rfl | hg
    · exact isPieceChar_of_piece? hp
    · exact ih hps' g hg

theorem isPieceChar_of_groups {s : List Char} {ps : List Nat} (h : pieces? (groups s) = some ps) :
    ∀ c ∈ s, c = ':' ∨ IsPieceChar c := by
  intro c hc
  by_cases hcolon : c = ':'
  · exact .inl hcolon
  · rw [groups, if_neg (List.ne_nil_of_mem hc)] at h
    obtain ⟨g, hg, hcg⟩ := Text.exists_mem_splitOn hc hcolon
    exact .inr (isPieceChar_of_pieces? h g hg c hcg)

/-- Parting an address at its gap loses nothing but colons. -/
theorem mem_of_splitGap? {s before after : List Char} (h : splitGap? s = some (before, after))
    {c : Char} (hc : c ∈ s) : c = ':' ∨ c ∈ before ∨ c ∈ after := by
  fun_induction splitGap? s generalizing before with
  | case1 => cases h
  | case2 rest =>
    cases h
    rcases List.mem_cons.mp hc with rfl | hc
    · exact .inl rfl
    · exact (List.mem_cons.mp hc).imp_right .inr
  | case3 d rest hgap ih =>
    obtain ⟨⟨before', after'⟩, hsplit, heq⟩ := Option.map_eq_some_iff.mp h
    cases heq
    rcases List.mem_cons.mp hc with rfl | hc
    · exact .inr (.inl List.mem_cons_self)
    · exact (ih hsplit hc).imp_right (·.imp_left (List.mem_cons_of_mem d))

/-- An address is written in digits, colons and dots. -/
theorem isPieceChar_of_read? {s : List Char} {ps : List Nat} (h : read? s = some ps) :
    ∀ c ∈ s, c = ':' ∨ IsPieceChar c := by
  intro c hc
  unfold read? at h
  split at h
  · rename_i before after hgap
    split at h
    · cases h
    · obtain ⟨high, hhigh, h⟩ := Option.bind_eq_some_iff.mp h
      obtain ⟨low, hlow, -⟩ := Option.bind_eq_some_iff.mp h
      -- before the gap or behind it
      rcases mem_of_splitGap? hgap hc with hcolon | hc | hc
      · exact .inl hcolon
      · exact isPieceChar_of_groups hhigh c hc
      · exact isPieceChar_of_groups hlow c hc
  · obtain ⟨pieces, hpieces, -⟩ := Option.bind_eq_some_iff.mp h
    exact isPieceChar_of_groups hpieces c hc

end Ipv6

/-! ## Hosts -/

namespace Host

/-- An address between brackets, as it is written. -/
def IsWrittenAddress (s : List Char) : Prop :=
  ∃ inner, s = '[' :: (inner ++ [']']) ∧ ']' ∉ inner

/-- A host as it is written: a name without the marks around hosts, or an address between
brackets. -/
def IsWritten (s : List Char) : Prop :=
  (∀ c ∈ s, c ≠ ':' ∧ c ≠ '[' ∧ c ≠ ']') ∨ IsWrittenAddress s

/-- What is accepted between brackets holds no bracket itself, since no address is written with
one. -/
theorem isWrittenAddress_of_readBracketed {s : List Char} {h : String} (hfirst : s.head? = some '[')
    (hread : readBracketed s = .ok h) : IsWrittenAddress s := by
  obtain ⟨t, rfl⟩ : ∃ t, s = '[' :: t := by
    cases s with
    | nil => cases hfirst
    | cons c t => exact ⟨t, by rw [Option.some.inj hfirst]⟩
  unfold readBracketed at hread
  split at hread
  · rename_i hlast
    rcases List.eq_nil_or_concat t with rfl | ⟨inner, c, rfl⟩
    · cases hlast
    · rw [List.concat_eq_append] at hlast hread ⊢
      have hc : c = ']' := by
        rw [← List.cons_append, List.getLast?_append] at hlast
        exact Option.some.inj hlast
      -- a bracket within would be a piece of the address, and no piece holds one
      refine ⟨inner, by rw [hc], fun hmem => ?_⟩
      unfold bracketed at hread
      rw [List.drop_one, List.tail_cons, List.dropLast_concat] at hread
      split at hread
      · rename_i ps hps
        rcases Ipv6.isPieceChar_of_read? hps _ hmem with hc | hc | hc <;> revert hc <;> decide
      · cases hread
  · cases hread

theorem isWritten_of_marks {s : List Char} (h : ∀ c ∈ marks, c ∉ s) : IsWritten s := by
  refine .inl fun c hc => ⟨?_, ?_, ?_⟩ <;> rintro rfl <;> exact h _ (by decide) hc

/-- A host that is accepted for a special scheme was written as one: between brackets, or without
any mark. -/
theorem isWritten_of_readName {idna : Idna} {s : List Char} {h : String}
    (hread : readName idna s = .ok h) :
    IsWritten s := by
  unfold readName at hread
  split at hread
  · rename_i hfirst
    exact .inr (isWrittenAddress_of_readBracketed hfirst hread)
  · split at hread
    · cases hread
    · cases hread
    · rename_i name hname
      exact isWritten_of_marks fun c hc => not_mem_of_name? hname hc

theorem isWritten_of_readOpaque {s : List Char} {h : String} (hread : readOpaque s = .ok h) :
    IsWritten s := by
  unfold readOpaque at hread
  split at hread
  · rename_i hfirst
    exact .inr (isWrittenAddress_of_readBracketed hfirst hread)
  · split at hread
    · cases hread
    · rename_i hallowed
      have hforbidden : ∀ c ∈ marks, isForbidden c = true := by decide
      exact isWritten_of_marks fun c hc hmem =>
        hallowed (List.any_eq_true.mpr ⟨c, hmem, hforbidden c hc⟩)

end Host

end LogCourier.Url
