import LogCourier.Proofs.Checked
import LogCourier.Proofs.Text
import LogCourier.Url.Host

/-!
# What hosts look like

Hosts are read from people's text, but what comes out is plain: either all of it is printable ASCII
without the marks that part a URL (`isPlain`), or it is an address between brackets with few colons.
`Host.IsText` says so, for every way to read a host.

* `isPlain_of_mem_name?`: names of the network are plain.
* `count_colon_render_le`: of eight pieces, an address writes at most seven colons.
-/

namespace LogCourier.Url

/-! ## Names -/

namespace Host

/-- The printable ASCII characters that a host may hold outside brackets. -/
def isPlain (c : Char) : Bool :=
  0x21 ≤ c.toNat && c.toNat < 0x7F && !isForbidden c

/-- A character of ASCII that is neither forbidden nor a control is plain. Decided over the 128
characters. -/
theorem isPlain_of_lt {c : Char} (hc : c.toNat < 128) (hforbidden : isForbidden c = false)
    (hcontrol : isControl c = false) : isPlain c = true := by
  revert hforbidden hcontrol
  refine Text.of_ascii hc ?_
  decide

theorem toNat_lt_of_isAscii {s : List Char} (h : isAscii s = true) : ∀ c ∈ s, c.toNat < 128 :=
  fun c hc => of_decide_eq_true (List.all_eq_true.mp h c hc)

theorem toNat_asciiLower_lt {c : Char} (h : c.toNat < 128) : (Text.asciiLower c).toNat < 128 := by
  refine Text.of_ascii h ?_
  decide

/-- Names of the network are plain, whatever tables they are written by: for names that need tables,
their guarantee says so, and for the others the reader has looked for forbidden characters
itself. -/
theorem isPlain_of_mem_name? {idna : Idna} {s name : List Char} (h : name? idna s = some name) :
    ∀ c ∈ name, isPlain c = true := by
  have hallowed : ∀ c ∈ name, c.toNat < 128 ∧ isForbiddenInName c = false := by
    unfold name? at h
    obtain ⟨decoded, -, h⟩ := Option.bind_eq_some_iff.mp h
    split at h
    · exact idna.isName h
    · -- all that is done to a name in ASCII is to put it in lower case
      rename_i hown
      have hascii : isAscii decoded = true := by
        by_contra hforeign
        exact hown (by rw [isForPlatform, Bool.eq_false_iff.mpr hforeign]; rfl)
      simp only at h
      split at h
      · cases h
      · rename_i hnone
        cases h
        intro c hc
        obtain ⟨d, hd, rfl⟩ := List.mem_map.mp hc
        refine ⟨toNat_asciiLower_lt (toNat_lt_of_isAscii hascii d hd), ?_⟩
        exact Bool.eq_false_iff.mpr fun hc' => hnone (List.any_eq_true.mpr ⟨_, hc, hc'⟩)
  intro c hc
  obtain ⟨hlt, hname⟩ := hallowed c hc
  simp only [isForbiddenInName, Bool.or_eq_false_iff] at hname
  exact isPlain_of_lt hlt hname.1.1 hname.1.2

end Host

/-! ## Addresses -/

/-- An address of four numbers is written in digits and dots. -/
theorem Ipv4.isPlain_of_mem_render {address : Nat} {c : Char}
    (h : c ∈ (Ipv4.render address).toList) : Host.isPlain c = true := by
  have hdigits : ∀ d ∈ Text.digits, Host.isPlain d = true := by decide
  rw [Ipv4.render, String.toList_intercalate] at h
  rcases Text.mem_intercalate h with rfl | ⟨s, hs, hc⟩
  · decide
  · obtain ⟨text, htext, rfl⟩ := List.mem_map.mp hs
    obtain ⟨i, -, rfl⟩ := List.mem_map.mp htext
    exact hdigits c (Text.mem_digits_of_mem_toString hc)

namespace Ipv6

/-- The digits and the colons of an address. -/
def alphabet : List Char :=
  ":0123456789abcdef".toList

theorem colon_not_mem_pieceText (p : Nat) : ':' ∉ (pieceText p).toList := by
  have hdigits : ':' ∉ "0123456789abcdef".toList := by decide
  rw [pieceText, String.toList_ofList]
  exact fun h => hdigits (Text.mem_of_mem_hexDigits h)

/-- Pieces joined are digits and colons. -/
theorem mem_alphabet_of_mem_joined {ps : List Nat} {c : Char} (h : c ∈ (joined ps).toList) :
    c ∈ alphabet := by
  have hdigits : ∀ d ∈ "0123456789abcdef".toList, d ∈ alphabet := by decide
  rw [joined, String.toList_intercalate] at h
  rcases Text.mem_intercalate h with rfl | ⟨s, hs, hc⟩
  · decide
  · obtain ⟨text, htext, rfl⟩ := List.mem_map.mp hs
    obtain ⟨p, -, rfl⟩ := List.mem_map.mp htext
    rw [pieceText, String.toList_ofList] at hc
    exact hdigits c (Text.mem_of_mem_hexDigits hc)

/-- The text of an address is made of digits and colons, with a gap in it or without. -/
theorem mem_alphabet_of_mem_render {ps : List Nat} {c : Char} (h : c ∈ (render ps).toList) :
    c ∈ alphabet := by
  have hgap : ∀ d ∈ "::".toList, d ∈ alphabet := by decide
  unfold render at h
  simp only at h
  split at h
  · exact mem_alphabet_of_mem_joined h
  · rw [String.toList_append, String.toList_append] at h
    rcases List.mem_append.mp h with h | h
    · rcases List.mem_append.mp h with h | h
      · exact mem_alphabet_of_mem_joined h
      · exact hgap c h
    · exact mem_alphabet_of_mem_joined h

/-- One colon between any two pieces. Induction on the pieces, as far as their texts hold no
colon. -/
theorem count_colon_joined (ps : List Nat) : (joined ps).toList.count ':' = ps.length - 1 := by
  -- pieces hold no colon, so only the joints count
  have htexts : ∀ ss : List (List Char), (∀ s ∈ ss, ':' ∉ s) →
      (List.intercalate [':'] ss).count ':' = ss.length - 1 := by
    intro ss hss
    induction ss with
    | nil => rfl
    | cons s rest ih =>
      have hs : s.count ':' = 0 := List.count_eq_zero.mpr (hss s List.mem_cons_self)
      have hrest := ih fun t ht => hss t (List.mem_cons_of_mem s ht)
      cases rest with
      | nil => rw [List.intercalate_singleton, hs]; rfl
      | cons t others =>
        rw [List.intercalate_cons_cons, List.count_append, List.count_append, hs, hrest]
        simp only [List.count_singleton_self, List.length_cons]
        omega
  rw [joined, String.toList_intercalate, show ":".toList = [':'] from rfl, htexts]
  · rw [List.length_map, List.length_map]
  · intro s hs
    obtain ⟨text, htext, rfl⟩ := List.mem_map.mp hs
    obtain ⟨p, -, rfl⟩ := List.mem_map.mp htext
    exact colon_not_mem_pieceText p

/-- The longest gap lies within the pieces. Each candidate does: zeros are counted from its start to
the end at most. -/
theorem longestGap_le (ps : List Nat) : (longestGap ps).1 + (longestGap ps).2 ≤ ps.length := by
  unfold longestGap
  -- every gap that is taken for the longest lies within the list
  refine List.foldlRecOn (motive := fun g : Nat × Nat => g.1 + g.2 ≤ ps.length) _ _ (Nat.zero_le _) ?_
  rintro ⟨start, length⟩ hgap i hi
  have hzeros : leadingZeros (ps.drop i) ≤ ps.length - i := by
    rw [← List.length_drop]
    exact (List.takeWhile_sublist _).length_le
  have hlt : i < ps.length := List.mem_range.mp hi
  simp only
  split
  · simp only
    omega
  · exact hgap

/-- **An address has few colons.** Without a gap there are seven; a gap stands for some of the
pieces and brings two colons of its own. -/
theorem count_colon_render_le {ps : List Nat} (h : ps.length = 8) :
    (render ps).toList.count ':' ≤ 8 := by
  have hgap := longestGap_le ps
  unfold render
  simp only
  split
  · rw [count_colon_joined]
    omega
  · -- the gap brings two colons and takes away two pieces or more
    rw [String.toList_append, String.toList_append, List.count_append, List.count_append,
      count_colon_joined, count_colon_joined, List.length_take, List.length_drop]
    have hgapText : "::".toList.count ':' = 2 := by decide
    omega

/-- An address that was read has eight pieces; a gap is filled up to that number. -/
theorem length_of_read? {s : List Char} {ps : List Nat} (h : read? s = some ps) : ps.length = 8 := by
  unfold read? at h
  split at h
  · split at h
    · -- the gap is filled up with zeros
      cases h
    · obtain ⟨high, -, h⟩ := Option.bind_eq_some_iff.mp h
      obtain ⟨low, -, h⟩ := Option.bind_eq_some_iff.mp h
      split at h
      · cases h
        simp only [List.length_append, List.length_replicate]
        omega
      · cases h
  · obtain ⟨pieces, -, h⟩ := Option.bind_eq_some_iff.mp h
    split at h
    · rename_i hlength
      cases h
      exact hlength
    · cases h

end Ipv6

/-! ## Hosts -/

namespace Host

/-- An address between brackets. -/
def IsBracketed (h : List Char) : Prop :=
  ∃ inner, h = '[' :: inner ++ [']'] ∧ (∀ c ∈ inner, c ∈ Ipv6.alphabet) ∧ inner.count ':' ≤ 8

/-- What stands in such an address: brackets, digits and colons. -/
theorem IsBracketed.mem {h : List Char} (hh : IsBracketed h) :
    ∀ c ∈ h, c ∈ '[' :: ']' :: Ipv6.alphabet := by
  obtain ⟨inner, rfl, hinner, -⟩ := hh
  intro c hc
  rcases List.mem_append.mp hc with hc | hc
  · rcases List.mem_cons.mp hc with rfl | hc
    · exact List.mem_cons_self
    · exact List.mem_cons_of_mem _ (List.mem_cons_of_mem _ (hinner c hc))
  · rw [List.mem_singleton.mp hc]
    exact List.mem_cons_of_mem _ List.mem_cons_self

/-- What a host looks like once it is read. -/
def IsText (h : List Char) : Prop :=
  (∀ c ∈ h, isPlain c = true) ∨ IsBracketed h

/-- Between brackets an address is read, and written anew. -/
theorem isBracketed_of_readBracketed {s : List Char} {h : String} (hread : readBracketed s = .ok h) :
    IsBracketed h.toList := by
  unfold readBracketed bracketed at hread
  split at hread
  · split at hread
    · rename_i ps hps
      cases hread
      refine ⟨(Ipv6.render ps).toList, ?_, fun c hc => Ipv6.mem_alphabet_of_mem_render hc,
        Ipv6.count_colon_render_le (Ipv6.length_of_read? hps)⟩
      rw [String.toList_append, String.toList_append]
      rfl
    · cases hread
  · cases hread

/-- Without a name there is no host. -/
theorem readName_nil (idna : Idna) : readName idna [] = .error .emptyHost := by
  have hdecoded : Text.Utf8.decode? (Text.Percent.lenientBytes []) = some [] := by decide +kernel
  have hname : name? idna [] = some [] := by
    unfold name?
    rw [hdecoded]
    rfl
  unfold readName
  rw [hname]
  rfl

/-- The host of a special scheme is an address between brackets, one of four numbers, or a plain
name. -/
theorem isText_of_readName {idna : Idna} {s : List Char} {h : String} (hread : readName idna s = .ok h) :
    IsText h.toList := by
  unfold readName at hread
  split at hread
  · exact .inr (isBracketed_of_readBracketed hread)
  · -- a name that ends in a number is read as an address of four bytes
    split at hread
    · cases hread
    · cases hread
    · rename_i name hname
      split at hread
      · split at hread
        · cases hread
          exact .inl fun c hc => Ipv4.isPlain_of_mem_render hc
        · cases hread
      · cases hread
        rw [String.toList_ofList]
        exact .inl (isPlain_of_mem_name? hname)

/-- The host of another scheme is an address between brackets, or a text in which whatever is not
plain was escaped or refused. -/
theorem isText_of_readOpaque {s : List Char} {h : String} (hread : readOpaque s = .ok h) :
    IsText h.toList := by
  have halphabet : ∀ c ∈ Text.Percent.alphabet, isPlain c = true := by decide
  unfold readOpaque at hread
  split at hread
  · exact .inr (isBracketed_of_readBracketed hread)
  · split at hread
    · cases hread
    · rename_i hallowed
      cases hread
      rw [String.toList_ofList]
      refine .inl fun c hc => ?_
      -- a character that was written and not forbidden, or one of an escape
      rcases Text.Percent.mem_encodeWhere hc with ⟨hcs, hkept⟩ | hc
      · rw [Bool.or_eq_false_iff, decide_eq_false_iff_not, Nat.not_le] at hkept
        have hforbidden : isForbidden c = false := by
          cases hc' : isForbidden c with
          | false => rfl
          | true => exact absurd (List.any_eq_true.mpr ⟨c, hcs, hc'⟩) hallowed
        exact isPlain_of_lt hkept.2 hforbidden hkept.1
      · exact halphabet c hc

end Host

end LogCourier.Url
