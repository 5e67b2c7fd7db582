import LogCourier.Proofs.Uri
import LogCourier.Proofs.Url.Host

/-!
# Targets that are put together from a host and a path

A target is put together from parts of a URL and then read again, by a grammar that is not the
one of URLs. What it makes of them is said here for everything that a URL can give.

* `IsAuthority`: a host as it comes out of a URL, with or without a port.
* `accepts_iff`: such an authority is accepted exactly if none of five characters is in it. One scan
  goes over it, so there is one lemma for what the scan makes of each part.
* `parse_eq_ok_iff`: the target is read exactly if it is not too long and its authority is neither
  empty nor refused, and then it is made of the parts it was put together from.
-/

namespace LogCourier.Uri

/-- Digits behind a colon, or nothing. -/
def IsPort (s : List Char) : Prop :=
  s = [] ∨ ∃ digits, s = ':' :: digits ∧ ∀ c ∈ digits, c ∈ Text.digits

/-- A host as it comes out of a URL, with or without a port. -/
def IsAuthority (s : List Char) : Prop :=
  ∃ host port, s = host ++ port ∧ Url.Host.IsText host ∧ IsPort port

/-- The characters that a host of a URL may hold and an authority may not. -/
def refused : List Char :=
  "\"%`\x7b\x7d".toList

/-! ## Characters -/

/-- Every plain character of a host may stand in an authority, but for five. Decided over
ASCII. -/
theorem isAuthorityChar_or_mem_refused {c : Char} (h : Url.Host.isPlain c = true) :
    isAuthorityChar c = true ∨ c ∈ refused := by
  have hlt : c.toNat < 128 := by
    simp only [Url.Host.isPlain, Bool.and_eq_true, decide_eq_true_iff] at h
    omega
  revert h
  refine Text.of_ascii hlt ?_
  decide

theorem not_mem_refused {c : Char} (h : isAuthorityChar c = true) : c ∉ refused := by
  have hrefused : ∀ d ∈ refused, isAuthorityChar d = false := by decide
  intro hc
  rw [hrefused c hc] at h
  cases h

theorem isAuthorityChar_of_mem_digits {c : Char} (h : c ∈ Text.digits) :
    isAuthorityChar c = true := by
  revert c
  decide

/-- The marks that end an authority or a user part. -/
def marks : List Char :=
  "/?#@".toList

/-- What a port is made of. -/
theorem IsPort.mem {s : List Char} (h : IsPort s) : ∀ c ∈ s, c ∈ ':' :: Text.digits := by
  rcases h with rfl | ⟨digits, rfl, hd⟩
  · exact nofun
  · intro c hc
    rcases List.mem_cons.mp hc with rfl | hc
    · exact List.mem_cons_self
    · exact List.mem_cons_of_mem _ (hd c hc)

/-- No mark that ends an authority or a user part stands in a host of a URL or its port. So
a target that is put together from them is cut where it was put together. -/
theorem IsAuthority.not_mem_marks {s : List Char} (h : IsAuthority s) : ∀ c ∈ s, c ∉ marks := by
  have hplain : ∀ d ∈ marks, Url.Host.isPlain d = false := by decide
  have hbrackets : ∀ d ∈ '[' :: ']' :: Url.Ipv6.alphabet, d ∉ marks := by decide
  have hdigits : ∀ d ∈ ':' :: Text.digits, d ∉ marks := by decide
  obtain ⟨host, port, rfl, hhost, hport⟩ := h
  intro c hc
  -- a character of the host, plain or in brackets, or one of the port
  rcases List.mem_append.mp hc with hc | hc
  · rcases hhost with hhost | hhost
    · intro hmark
      exact Bool.false_ne_true ((hplain c hmark).symm.trans (hhost c hc))
    · exact hbrackets c (hhost.mem c hc)
  · exact hdigits c (hport.mem c hc)

/-! ## Scans -/

namespace AuthorityScan

variable {a a' : AuthorityScan} {s : List Char} {c : Char}

/-- A plain character of an authority leaves the state of the scan alone. -/
theorem step_of_isAuthorityChar (h : isAuthorityChar c = true) (a : AuthorityScan) :
    a.step c = .ok a := by
  have hmarks : ∀ d ∈ ":[]@%".toList, isAuthorityChar d = false := by decide
  have hne : ∀ d ∈ ":[]@%".toList, c ≠ d := by
    rintro d hd rfl
    rw [hmarks c hd] at h
    cases h
  rw [step, if_neg (hne ':' (by decide)), if_neg (hne '[' (by decide)), if_neg (hne ']' (by decide)),
    if_neg (hne '@' (by decide)), if_neg (hne '%' (by decide)), if_pos h]

theorem foldlM_of_isAuthorityChar (h : ∀ c ∈ s, isAuthorityChar c = true) (a : AuthorityScan) :
    s.foldlM step a = .ok a := by
  induction s with
  | nil => rfl
  | cons c rest ih =>
    rw [List.foldlM_cons, step_of_isAuthorityChar (h c List.mem_cons_self)]
    exact ih fun d hd => h d (List.mem_cons_of_mem c hd)

/-- A port counts one colon at most. The scan allows one outside brackets, so the port of a
host without colons is always accepted. -/
theorem foldlM_port (h : IsPort s) (ha : a.colons = 0) :
    ∃ n ≤ 1, s.foldlM step a = .ok { a with colons := n } := by
  rcases h with rfl | ⟨digits, rfl, hd⟩
  · exact ⟨0, Nat.zero_le _, by rw [← ha]; rfl⟩
  · refine ⟨1, Nat.le_refl _, ?_⟩
    have hcolon : a.step ':' = .ok { a with colons := 1 } := by
      rw [step, if_pos rfl, ha, if_pos (by decide)]
    rw [List.foldlM_cons, hcolon]
    exact foldlM_of_isAuthorityChar (fun c hc => isAuthorityChar_of_mem_digits (hd c hc)) _

/-- Digits and colons between brackets are counted. Induction on what is between, with the
colons so far; the bound keeps the scan from giving up. -/
theorem foldlM_inner (h : ∀ c ∈ s, c ∈ Url.Ipv6.alphabet)
    (hcount : a.colons + s.count ':' ≤ maxColons) :
    s.foldlM step a = .ok { a with colons := a.colons + s.count ':' } := by
  have hdigits : ∀ c ∈ Url.Ipv6.alphabet, c = ':' ∨ isAuthorityChar c = true := by decide
  induction s generalizing a with
  | nil => rfl
  | cons c rest ih =>
    have hrest : ∀ d ∈ rest, d ∈ Url.Ipv6.alphabet := fun d hd => h d (List.mem_cons_of_mem c hd)
    rw [List.foldlM_cons]
    -- a colon is counted, and within brackets there is room for eight; a digit changes
    -- nothing
    rcases hdigits c (h c List.mem_cons_self) with rfl | hc
    · rw [List.count_cons_self] at hcount ⊢
      have hstep : a.step ':' = .ok { a with colons := a.colons + 1 } := by
        rw [step, if_pos rfl, if_pos (by omega)]
      rw [hstep]
      have hih := ih (a := { a with colons := a.colons + 1 }) hrest
        (by show a.colons + 1 + _ ≤ _; omega)
      refine Eq.trans hih ?_
      rw [show a.colons + 1 + rest.count ':' = a.colons + (rest.count ':' + 1) by omega]
    · have hne : ':' ≠ c := by
        rintro rfl
        exact absurd hc (by decide)
      rw [List.count_cons_of_ne hne.symm] at hcount ⊢
      rw [step_of_isAuthorityChar hc]
      exact ih hrest hcount

/-- A refused character stops the scan, or is remembered until a bracket or a user part
ends. Induction on the text, from its end: each step of the scan is inverted, and the mark
that it may leave is still there at the end. -/
theorem not_mem_refused_of_foldlM (h : s.foldlM step a = .ok a') (hs : ∀ c ∈ s, c ≠ ']' ∧ c ≠ '@')
    (ha' : a'.percent = false) : a.percent = false ∧ ∀ c ∈ s, c ∉ refused := by
  induction s generalizing a with
  | nil =>
    cases h
    exact ⟨ha', nofun⟩
  | cons c rest ih =>
    rw [List.foldlM_cons] at h
    obtain ⟨b, hstep, hrest⟩ := bind_eq_ok.mp h
    obtain ⟨hb, hnone⟩ := ih hrest fun d hd => hs d (List.mem_cons_of_mem c hd)
    obtain ⟨hclose, hat⟩ := hs c List.mem_cons_self
    have hcolon : ':' ∉ refused := by decide
    have hopen : '[' ∉ refused := by decide
    have hc : a.percent = false ∧ c ∉ refused := by
      -- what the scan lets pass: a colon, an opening bracket, and plain characters; a
      -- percent sign would still be marked at the end
      unfold step at hstep
      split at hstep
      · rename_i hc
        split at hstep
        · cases hstep
          exact ⟨hb, hc ▸ hcolon⟩
        · cases hstep
      · split at hstep
        · rename_i hc
          split at hstep
          · cases hstep
          · cases hstep
            exact ⟨hb, hc ▸ hopen⟩
        · split at hstep
          · cases hstep
            cases hb
          · split at hstep
            · rename_i hc
              cases hstep
              exact ⟨hb, not_mem_refused hc⟩
            · cases hstep
    refine ⟨hc.1, fun d hd => ?_⟩
    rcases List.mem_cons.mp hd with rfl | hd
    · exact hc.2
    · exact hnone d hd

end AuthorityScan

/-- A scan comes to the end of an authority and finds it complete. -/
def Accepts (s : List Char) : Prop :=
  ∃ a, s.foldlM AuthorityScan.step {} = .ok a ∧ a.isComplete = true

/-- An address between brackets is accepted with any port: it has eight colons at most,
which is what the scan allows between brackets. -/
theorem accepts_of_isBracketed {host port : List Char} (hhost : Url.Host.IsBracketed host)
    (hport : IsPort port) : Accepts (host ++ port) := by
  obtain ⟨inner, rfl, hinner, hcount⟩ := hhost
  obtain ⟨n, hn, hscan⟩ := AuthorityScan.foldlM_port (a := ⟨0, true, true, false⟩) hport rfl
  refine ⟨⟨n, true, true, false⟩, ?_, ?_⟩
  · -- the scan from bracket to bracket, which forgets the colons, and then over the port
    have hopen : AuthorityScan.step {} '[' = .ok ⟨0, true, false, false⟩ := rfl
    have hclose : AuthorityScan.step ⟨inner.count ':', true, false, false⟩ ']' =
        .ok ⟨0, true, true, false⟩ := rfl
    have hwithin := AuthorityScan.foldlM_inner (a := ⟨0, true, false, false⟩) hinner
      (by rw [Nat.zero_add]; exact hcount)
    rw [Nat.zero_add] at hwithin
    rw [List.foldlM_append, List.foldlM_append, List.foldlM_cons, hopen]
    show (inner.foldlM _ _ >>= _) >>= _ = _
    rw [hwithin]
    exact hscan
  · show ((true == true) && decide (n ≤ 1) && !false) = true
    rw [decide_eq_true hn]
    rfl

/-- **An authority of a URL is accepted** exactly if it holds none of the refused
characters. For an address there is nothing to ask, since it holds none; a plain host is
scanned character by character. -/
theorem accepts_iff {s : List Char} (h : IsAuthority s) : Accepts s ↔ ∀ c ∈ s, c ∉ refused := by
  obtain ⟨host, port, rfl, hhost, hport⟩ := h
  rcases hhost with hplain | hbracketed
  · constructor
    · rintro ⟨a, hscan, hcomplete⟩
      simp only [AuthorityScan.isComplete, Bool.and_eq_true, Bool.not_eq_true'] at hcomplete
      refine (AuthorityScan.not_mem_refused_of_foldlM hscan ?_ hcomplete.2).2
      -- neither host nor port ends a bracket or a user part
      have hends : ∀ d ∈ [']', '@'], Url.Host.isPlain d = false ∧ d ∉ ':' :: Text.digits := by decide
      intro c hc
      have hne : ∀ d ∈ [']', '@'], c ≠ d := by
        rintro d hd rfl
        rcases List.mem_append.mp hc with hc | hc
        · exact Bool.false_ne_true ((hends c hd).1.symm.trans (hplain c hc))
        · exact (hends c hd).2 (hport.mem c hc)
      exact ⟨hne ']' (by decide), hne '@' (by decide)⟩
    · intro hnone
      have hchars : ∀ c ∈ host, isAuthorityChar c = true := fun c hc =>
        (isAuthorityChar_or_mem_refused (hplain c hc)).resolve_right
          (hnone c (List.mem_append_left _ hc))
      obtain ⟨n, hn, hscan⟩ := AuthorityScan.foldlM_port (a := {}) hport rfl
      refine ⟨{ colons := n }, ?_, ?_⟩
      · rw [List.foldlM_append, AuthorityScan.foldlM_of_isAuthorityChar hchars]
        exact hscan
      · show ((false == false) && decide (n ≤ 1) && !false) = true
        rw [decide_eq_true hn]
        rfl
  · refine iff_of_true (accepts_of_isBracketed hbracketed hport) fun c hc => ?_
    have hbrackets : ∀ d ∈ '[' :: ']' :: Url.Ipv6.alphabet, d ∉ refused := by decide
    have hdigits : ∀ d ∈ ':' :: Text.digits, d ∉ refused := by decide
    rcases List.mem_append.mp hc with hc | hc
    · exact hbrackets c (hbracketed.mem c hc)
    · exact hdigits c (hport.mem c hc)

/-! ## Targets -/

section Targets

variable {host path : List Char}

/-- The text of a path and nothing else. -/
def IsPathText (path : List Char) : Prop :=
  ∀ c ∈ path, isPathChar c = true ∧ c ≠ '?' ∧ c ≠ '#'

/-- What is all path is read as one, without a query. -/
theorem splitPath_of_isPathText (h : IsPathText path) : splitPath path = .ok (path, none) := by
  have hwhole : path.takeWhile (fun c => c != '?' && c != '#') = path := by
    refine List.takeWhile_eq_self_iff.mpr fun c hc => ?_
    rw [Bool.and_eq_true, bne_iff_ne, bne_iff_ne]
    exact (h c hc).2
  have hchars : path.all isPathChar = true := List.all_eq_true.mpr fun c hc => (h c hc).1
  unfold splitPath
  simp only [hwhole, hchars, if_true, List.drop_length]

theorem endsAuthority_eq_false {c : Char} (h : c ∉ marks) : endsAuthority c = false := by
  have hmarks : '/' ∈ marks ∧ '?' ∈ marks ∧ '#' ∈ marks := by decide
  have hne : ∀ d ∈ marks, c ≠ d := fun d hd he => h (he ▸ hd)
  simp only [endsAuthority, Bool.or_eq_false_iff, beq_eq_false_iff_ne]
  exact ⟨⟨hne '/' hmarks.1, hne '?' hmarks.2.1⟩, hne '#' hmarks.2.2⟩

/-- An authority is cut off in front of a path from the root, provided that the scan accepts
it. -/
theorem splitAuthority_eq_ok_iff (hhost : IsAuthority host) {x : List Char × List Char} :
    splitAuthority (host ++ '/' :: path) = .ok x ↔ Accepts host ∧ x = (host, '/' :: path) := by
  -- path).takeWhile (!endsAuthority ·) = host := by :: no mark is in the host, so it is cut
  -- off at the slash
  have hcut : (host ++ '/' :: path).takeWhile (!endsAuthority ·) = host := by
    rw [List.takeWhile_append_of_pos]
    · exact List.append_nil host
    · intro c hc
      rw [endsAuthority_eq_false (hhost.not_mem_marks c hc)]
      rfl
  have hlast : (host.getLast? != some '@') = true := by
    rw [bne_iff_ne]
    intro hat
    exact hhost.not_mem_marks '@' (List.mem_of_getLast? hat) (by decide)
  unfold splitAuthority
  simp only [hcut, hlast, Bool.and_true, List.drop_left]
  constructor
  · intro h
    obtain ⟨a, hscan, h⟩ := bind_eq_ok.mp h
    split at h
    · rename_i hcomplete
      cases h
      exact ⟨⟨a, hscan, hcomplete⟩, rfl⟩
    · cases h
  · rintro ⟨⟨a, hscan, hcomplete⟩, rfl⟩
    exact bind_eq_ok.mpr ⟨a, hscan, if_pos hcomplete⟩

/-- The path only matters behind an authority: where the host is empty the text is refused
before the path is looked at. -/
theorem parseAbsolute_eq_ok_iff (hhost : IsAuthority host)
    (hpath : host ≠ [] → IsPathText ('/' :: path)) {scheme : List Char} {u : Uri} :
    parseAbsolute scheme (host ++ '/' :: path) = .ok u ↔
      Accepts host ∧ host ≠ [] ∧ u = ofParts (some scheme) (some host) ('/' :: path) none := by
  unfold parseAbsolute
  constructor
  · intro h
    obtain ⟨x, hsplit, h⟩ := bind_eq_ok.mp h
    obtain ⟨haccepts, rfl⟩ := (splitAuthority_eq_ok_iff hhost).mp hsplit
    simp only at h
    split at h
    · cases h
    · rename_i hhostNe
      rw [splitPath_of_isPathText (hpath hhostNe)] at h
      cases h
      exact ⟨haccepts, hhostNe, rfl⟩
  · rintro ⟨haccepts, hhostNe, rfl⟩
    rw [(splitAuthority_eq_ok_iff hhost).mpr ⟨haccepts, rfl⟩]
    show (if host = [] then _ else _) = _
    rw [if_neg hhostNe, splitPath_of_isPathText (hpath hhostNe)]
    rfl

/-- **Targets keep their parts.** A target that is put together from the authority of a URL and a
path from the root is read exactly if it is not too long and its authority is neither empty nor
holds a refused character; it is then made of these parts. -/
theorem parse_eq_ok_iff {plain : Bool} {host path : String} (hhost : IsAuthority host.toList)
    (hrooted : path.toList.head? = some '/') (hpath : host ≠ "" → IsPathText path.toList) {u : Uri} :
    parse (webScheme plain ++ "://" ++ host ++ path) = .ok u ↔
      (Text.Utf8.ofString (webScheme plain ++ "://" ++ host ++ path)).length ≤ maxLength ∧
        host ≠ "" ∧ (∀ c ∈ host.toList, c ∉ refused) ∧
        u = ⟨some (webScheme plain), some host, path, none⟩ := by
  obtain ⟨rest, hrest⟩ : ∃ rest, path.toList = '/' :: rest := by
    cases h : path.toList with
    | nil =>
      rw [h] at hrooted
      cases hrooted
    | cons c rest =>
      rw [h] at hrooted
      exact ⟨rest, by rw [Option.some.inj hrooted]⟩
  -- the texts as lists of characters
  have hempty : host.toList ≠ [] ↔ host ≠ "" := by
    rw [Ne, Ne, String.toList_eq_nil_iff]
  have htext : (webScheme plain ++ "://" ++ host ++ path).toList =
      (webScheme plain).toList ++ "://".toList ++ (host.toList ++ '/' :: rest) := by
    rw [String.toList_append, String.toList_append, String.toList_append, hrest, List.append_assoc]
  have hu : ofParts (some (webScheme plain).toList) (some host.toList) ('/' :: rest) none =
      ⟨some (webScheme plain), some host, path, none⟩ := by
    rw [← hrest]
    simp only [ofParts, Option.map_some, Option.map_none, String.ofList_toList]
  -- the length is looked at first, in bytes
  rw [parse, Text.Utf8.ofString, htext, parseChars_webScheme, ← hempty, ← accepts_iff hhost, ← hu]
  split
  · rename_i hlong
    constructor
    · intro h
      cases h
    · rintro ⟨hfits, -⟩
      exact absurd hfits (Nat.not_le.mpr hlong)
  · rename_i hshort
    rw [parseAbsolute_eq_ok_iff hhost fun h => hrest ▸ hpath (hempty.mp h),
      and_iff_right (Nat.not_lt.mp hshort)]
    exact and_left_comm

/-- A target with a path is written as its parts one behind the other. -/
theorem render_absolute {scheme host path : String} (h : path ≠ "") :
    render ⟨some scheme, some host, path, none⟩ = scheme ++ "://" ++ host ++ path := by
  have hshown : path.isEmpty = false := by
    rw [Bool.eq_false_iff]
    exact fun hempty => h (String.isEmpty_iff.mp hempty)
  show scheme ++ "://" ++ host ++ (if path.isEmpty && true then "/" else path) ++ "" = _
  rw [hshown, String.append_empty]
  rfl

end Targets

end LogCourier.Uri
