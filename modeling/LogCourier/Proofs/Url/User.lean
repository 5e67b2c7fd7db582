import LogCourier.Proofs.Url.Port

/-!
# User parts of URLs

In front of its host a URL may name a user and a password. They are read over, so a URL that is
accepted says the same whatever its user part.

* `SameButUser`: two texts that nothing but their user parts tells apart.
* `parseChars_user`: where a text with a user part is cut.
* `eq_of_sameButUser`: of two such texts that are accepted, both are the same URL.
-/

namespace LogCourier.Url

open Endpoint (afterLast)

variable {idna : Idna}

/-! ## What is dropped from a text -/

def isKept (c : Char) : Bool :=
  c != '\t' && c != '\n' && c != '\r'

def isOuter (c : Char) : Bool :=
  c.toNat ≤ 0x20

/-- A text without what is dropped everywhere and at its front. -/
def opened (s : List Char) : List Char :=
  (s.filter isKept).dropWhile isOuter

/-- The end of a text without what is dropped there. -/
def closed (s : List Char) : List Char :=
  Text.dropEndWhile isOuter (s.filter isKept)

/-- What is dropped everywhere is dropped at the ends too. -/
theorem isOuter_of_dropped {c : Char} (h : isKept c = false) : isOuter c = true := by
  have hdropped : c = '\t' ∨ c = '\n' ∨ c = '\r' := by
    simpa only [isKept, Bool.and_eq_false_iff, bne_eq_false_iff_eq, or_assoc] using h
  rcases hdropped with rfl | rfl | rfl <;> rfl

/-- Dropping at the front and dropping everywhere can be done in either order. Induction on the
text; what is dropped everywhere is never what stops the other. -/
theorem filter_dropWhile_isOuter (s : List Char) :
    (s.dropWhile isOuter).filter isKept = (s.filter isKept).dropWhile isOuter := by
  induction s with
  | nil => rfl
  | cons c t ih =>
    -- what filtering drops is among what is cut off at the ends
    cases houter : isOuter c with
    | true =>
      rw [List.dropWhile_cons_of_pos houter, ih]
      cases hkept : isKept c with
      | true => rw [List.filter_cons_of_pos hkept, List.dropWhile_cons_of_pos houter]
      | false => rw [List.filter_cons_of_neg (Bool.eq_false_iff.mp hkept)]
    | false =>
      have hkept : isKept c = true := by
        refine Bool.not_eq_false _ |>.mp fun hdropped => ?_
        rw [isOuter_of_dropped hdropped] at houter
        cases houter
      have hstop : ¬isOuter c = true := Bool.eq_false_iff.mp houter
      rw [List.dropWhile_cons_of_neg hstop, List.filter_cons_of_pos hkept,
        List.dropWhile_cons_of_neg hstop]

/-- It does not matter what is dropped first. So a text is stripped in two halves, its front by
`opened` and its end last. -/
theorem stripped_eq (s : List Char) : stripped s = Text.dropEndWhile isOuter (opened s) := by
  show (((s.dropWhile isOuter).reverse.dropWhile isOuter).reverse).filter isKept = _
  rw [List.filter_reverse, filter_dropWhile_isOuter, List.filter_reverse, filter_dropWhile_isOuter]
  rfl

/-! ## Texts with user parts -/

theorem isSlash_iff {c : Char} : isSlash c = true ↔ c = '/' ∨ c = '\\' := by
  rw [isSlash, Bool.or_eq_true, beq_iff_eq, beq_iff_eq]

/-- Both kinds of slashes end an authority of a special scheme. -/
theorem endsAuthority_of_isSlash {c : Char} (h : isSlash c = true) : endsAuthority true c = true := by
  rcases isSlash_iff.mp h with rfl | rfl <;> rfl

theorem not_isOuter_of_isSlash {c : Char} (h : isSlash c = true) : isOuter c = false := by
  rcases isSlash_iff.mp h with rfl | rfl <;> rfl

/-- Whether no slash stands at the front of a text. -/
def IsPastSlashes (s : List Char) : Prop :=
  ∀ c ∈ s.head?, isSlash c = false

/-- Past the slashes is where the text cannot be written with a slash in front. -/
theorem isPastSlashes_of {s : List Char} (h : ∀ c t, isSlash c = true → s ≠ c :: t) :
    IsPastSlashes s := by
  intro c hc
  obtain ⟨t, ht⟩ := List.head?_eq_some_iff.mp hc
  exact Bool.eq_false_iff.mpr fun hslash => h c t hslash ht

theorem IsPastSlashes.not_isSlash {c : Char} {s : List Char} (h : IsPastSlashes (c :: s)) :
    ¬isSlash c = true :=
  Bool.eq_false_iff.mp (h c rfl)

theorem IsPastSlashes.dropWhile_eq {s : List Char} (h : IsPastSlashes s) :
    s.dropWhile isSlash = s := by
  cases s with
  | nil => rfl
  | cons c t => exact List.dropWhile_cons_of_neg h.not_isSlash

/-- A text up to the start of an authority. The special schemes take any number of slashes of either
kind, the others two. The URL of a file names no user. -/
def LeadsAuthority (scheme front : List Char) : Prop :=
  ∃ slashes, splitScheme? (opened front) = some (scheme, slashes) ∧
    if isSpecial scheme then ∀ c ∈ slashes, isSlash c = true
    else scheme ≠ "file".toList ∧ slashes = ['/', '/']

/-- A text in front of an `@`, or nothing at all. -/
def IsUserPart (special : Bool) (user : List Char) : Prop :=
  user = [] ∨ ∃ name, user = name ++ ['@'] ∧ ∀ c ∈ name, endsAuthority special c = false

/-- Nothing but their user parts tells the two texts apart. -/
inductive SameButUser : List Char → List Char → Prop
  | same (v : List Char) : SameButUser v v
  | user {scheme front user user' : List Char} (hfront : LeadsAuthority scheme front)
      (huser : IsUserPart (isSpecial scheme) user) (huser' : IsUserPart (isSpecial scheme) user')
      (back : List Char) : SameButUser (front ++ user ++ back) (front ++ user' ++ back)

section Parts

variable {special : Bool} {user : List Char}

/-- A user part lies within its authority, its `@` included. -/
theorem IsUserPart.endsAuthority (h : IsUserPart special user) :
    ∀ c ∈ user, Url.endsAuthority special c = false := by
  rcases h with rfl | ⟨name, rfl, hname⟩
  · exact nofun
  · intro c hc
    rcases List.mem_append.mp hc with hc | hc
    · exact hname c hc
    · rw [List.mem_singleton.mp hc]
      cases special <;> rfl

/-- What is dropped everywhere leaves a user part a user part: the `@` stays. -/
theorem IsUserPart.filter (h : IsUserPart special user) :
    IsUserPart special (user.filter isKept) := by
  rcases h with rfl | ⟨name, rfl, hname⟩
  · exact .inl rfl
  · refine .inr ⟨name.filter isKept, List.filter_append .., fun c hc => ?_⟩
    exact hname c (List.mem_filter.mp hc).1

/-- A user part of which nothing is left was none, since an `@` would be left. -/
theorem IsUserPart.eq_nil_of_filter (h : IsUserPart special user) (hnone : user.filter isKept = []) :
    user = [] := by
  rcases h with rfl | ⟨name, rfl, -⟩
  · rfl
  · rw [List.filter_append] at hnone
    cases (List.append_eq_nil_iff.mp hnone).2

/-- Behind a user part an authority is read as if it were not there. -/
theorem afterLast_user (h : IsUserPart special user) (s : List Char) :
    user = [] ∨ ∀ front, afterLast '@' (front ++ user ++ s) = afterLast '@' s := by
  rcases h with rfl | ⟨name, rfl, -⟩
  · exact .inl rfl
  · refine .inr fun front => ?_
    rw [← List.append_assoc, List.append_assoc, List.singleton_append]
    exact Endpoint.afterLast_append_cons _

/-- An authority that ends in the first of two texts does not depend on the second. -/
theorem authorityAt_append_of_outside {s : List Char}
    (hs : ¬∀ c ∈ s, Url.endsAuthority special c = false) (t : List Char) :
    authorityAt special (s ++ t) = authorityAt special s := by
  unfold authorityAt
  rw [List.takeWhile_append, if_neg]
  intro hlength
  have hall := List.takeWhile_eq_self_iff.mp ((List.takeWhile_prefix _).eq_of_length hlength)
  exact hs fun c hc => by simpa using hall c hc

/-- An authority that does not end in the first text goes on in the second. -/
theorem authorityAt_append_of_inside {s : List Char}
    (hs : ∀ c ∈ s, Url.endsAuthority special c = false) (t : List Char) :
    authorityAt special (s ++ t) = s ++ authorityAt special t :=
  List.takeWhile_append_of_pos fun c hc => by rw [hs c hc]; rfl

/-- What stands behind an authority does not depend on a text that lies within it. -/
theorem behindAuthority_append_of_inside {s : List Char}
    (hs : ∀ c ∈ s, Url.endsAuthority special c = false) (t : List Char) :
    behindAuthority special (s ++ t) = behindAuthority special t :=
  List.dropWhile_append_of_pos fun c hc => by rw [hs c hc]; rfl

/-- The text from the host on. -/
def behindUser (special : Bool) (s : List Char) : List Char :=
  afterLast '@' (authorityAt special s) ++ behindAuthority special s

/-- The text from the host on is the same with a user part and without. -/
theorem behindUser_user (h : IsUserPart special user) (s : List Char) :
    behindUser special (user ++ s) = behindUser special s := by
  unfold behindUser
  rw [authorityAt_append_of_inside h.endsAuthority, behindAuthority_append_of_inside h.endsAuthority]
  rcases afterLast_user h (authorityAt special s) with rfl | hskip
  · rfl
  · rw [← List.nil_append user, hskip []]

/-- In front of a slash there is neither user nor host, so the text from the host on is all of
it. -/
theorem behindUser_of_isSlash {c : Char} (h : isSlash c = true) (s : List Char) :
    behindUser true (c :: s) = c :: s := by
  have hstop : ¬(!Url.endsAuthority true c) = true := by
    rw [endsAuthority_of_isSlash h]
    exact Bool.false_ne_true
  have hnone : authorityAt true (c :: s) = [] := List.takeWhile_cons_of_neg hstop
  have hall : behindAuthority true (c :: s) = c :: s := List.dropWhile_cons_of_neg hstop
  rw [behindUser, hnone, hall]
  rfl

end Parts

/-! ## Authorities with user parts -/

/-- An authority is read from its host on: two that agree there and are accepted are the same URL.
What is in front decides only whether it is accepted. -/
theorem eq_of_behindUser {scheme s s' : List Char} {url url' : Url}
    (h : readAuthority idna scheme s = .ok url) (h' : readAuthority idna scheme s' = .ok url')
    (hbehind : behindUser (isSpecial scheme) s = behindUser (isSpecial scheme) s') : url = url' := by
  obtain ⟨text, host, port, rest, ⟨hasUser, htext⟩, -, hhost, hport, rfl⟩ := exists_of_readAuthority h
  obtain ⟨text', host', port', rest', ⟨hasUser', htext'⟩, -, hhost', hport', rfl⟩ :=
    exists_of_readAuthority h'
  -- everything but the text behind the user is the same on both sides
  obtain rfl : text = text' :=
    (text_of_afterUser htext).trans (hbehind.trans (text_of_afterUser htext').symm)
  rw [hhost] at hhost'
  rw [hport] at hport'
  cases hhost'
  cases hport'
  rfl

/-- A special scheme needs a host, so no slash stands where one is expected. -/
theorem isPastSlashes_of_readAuthority {scheme s : List Char} {url : Url}
    (hspecial : isSpecial scheme = true) (h : readAuthority idna scheme s = .ok url) :
    IsPastSlashes (behindUser true s) := by
  obtain ⟨text, host, port, rest, ⟨hasUser, htext⟩, -, hhost, -, -⟩ := exists_of_readAuthority h
  rw [hspecial] at htext hhost
  rw [behindUser, ← text_of_afterUser htext]
  refine isPastSlashes_of ?_
  rintro c t hslash rfl
  -- there would be no host in front of the slash
  have hempty : hostLength true false (c :: t) = 0 := by
    rw [hostLength, endsAuthority_of_isSlash hslash, Bool.or_true, if_pos rfl]
  have hnone : Host.readName idna [] = .error .emptyHost := Host.readName_nil idna
  rw [hempty, if_pos rfl, List.take_zero, hnone] at hhost
  cases hhost

/-! ## Texts up to an authority -/

section Front

variable {scheme front : List Char}

/-- A scheme, a colon and slashes: that is all such a text holds once it is stripped. -/
theorem LeadsAuthority.exists_parts (h : LeadsAuthority scheme front) :
    ∃ written slashes, opened front = written ++ ':' :: slashes ∧
      (∀ c ∈ written, isSchemeChar c = true) ∧ (∀ c ∈ slashes, isSlash c = true) := by
  obtain ⟨slashes, hsplit, hslashes⟩ := h
  obtain ⟨written, hwritten, hchars, -⟩ := exists_of_splitScheme? hsplit
  refine ⟨written, slashes, hwritten, hchars, ?_⟩
  split at hslashes
  · exact hslashes
  · rw [hslashes.2]
    decide

/-- As it is written, such a text has one colon, and no `@` behind it. Tabs and line ends may stand
anywhere between, as they are dropped; so the colon is looked for in the text that is left, and
found in the one that was written. -/
theorem LeadsAuthority.exists_colon (h : LeadsAuthority scheme front) :
    ∃ before behind, front = before ++ ':' :: behind ∧ ':' ∉ before ∧ ':' ∉ behind ∧
      '@' ∉ behind := by
  obtain ⟨written, slashes, hfront, hchars, hslashes⟩ := h.exists_parts
  have hkept : front.filter isKept =
      ((front.filter isKept).takeWhile isOuter ++ written) ++ ':' :: slashes := by
    rw [List.append_assoc, ← hfront]
    exact List.takeWhile_append_dropWhile.symm
  obtain ⟨first, second, rfl, hfirst, hsecond⟩ := List.filter_eq_append_iff.mp hkept
  obtain ⟨dropped, behind, rfl, hdropped, -, hbehind⟩ := List.filter_eq_cons_iff.mp hsecond
  -- behind the colon only slashes are kept
  have hslash : ∀ c ∈ behind, isKept c = true → isSlash c = true := fun c hc hkept =>
    hslashes c (hbehind ▸ List.mem_filter.mpr ⟨hc, hkept⟩)
  refine ⟨first ++ dropped, behind, (List.append_assoc ..).symm, ?_, ?_, ?_⟩
  · intro hmem
    rcases List.mem_append.mp hmem with hmem | hmem
    · have hcolon : ':' ∈ first.filter isKept := List.mem_filter.mpr ⟨hmem, rfl⟩
      rw [hfirst] at hcolon
      rcases List.mem_append.mp hcolon with hcolon | hcolon
      · cases List.mem_takeWhile_imp hcolon
      · cases hchars _ hcolon
    · exact hdropped _ hmem rfl
  · exact fun hmem => Bool.noConfusion (hslash _ hmem rfl)
  · exact fun hmem => Bool.noConfusion (hslash _ hmem rfl)

/-- A scheme ends at its colon, so what follows adds nothing to it. With this a URL can be
split in front of the user and of what stands behind the user separately. -/
theorem splitScheme?_append {s rest : List Char} (h : splitScheme? s = some (scheme, rest))
    (t : List Char) : splitScheme? (s ++ t) = some (scheme, rest ++ t) := by
  obtain ⟨written, rfl, hchars, -⟩ := exists_of_splitScheme? h
  -- t').takeWhile isSchemeChar = written := fun t' => by :: the colon ends the scheme,
  -- whatever comes behind it
  have htake : ∀ t', (written ++ ':' :: t').takeWhile isSchemeChar = written := fun t' => by
    have hstop : (':' :: t').takeWhile isSchemeChar = [] := List.takeWhile_cons_of_neg nofun
    rw [List.takeWhile_append_of_pos hchars, hstop, List.append_nil]
  unfold splitScheme? at h ⊢
  simp only [List.append_assoc, List.cons_append, htake, List.drop_left] at h ⊢
  cases written with
  | nil => cases h
  | cons c others =>
    simp only [List.cons_append, List.head?_cons] at h ⊢
    split at h
    · rename_i hletter
      cases h
      rw [if_pos hletter]
    · cases h

/-- Behind a scheme nothing is dropped at the front any more. -/
theorem opened_append (h : LeadsAuthority scheme front) (s : List Char) :
    opened (front ++ s) = opened front ++ s.filter isKept := by
  obtain ⟨written, slashes, hfront, -, -⟩ := h.exists_parts
  have hsome : ¬((front.filter isKept).dropWhile isOuter).isEmpty = true := by
    show ¬(opened front).isEmpty = true
    rw [hfront, List.isEmpty_iff]
    exact List.append_ne_nil_of_right_ne_nil _ (List.cons_ne_nil _ _)
  rw [opened, List.filter_append, List.dropWhile_append, if_neg hsome]
  rfl

/-- What is dropped from the end of a text is dropped from what stands behind the user part. So the
user part is left whole, but for what is dropped everywhere. -/
theorem stripped_user (h : LeadsAuthority scheme front) {special : Bool} {user : List Char}
    (huser : IsUserPart special user) (back : List Char) :
    stripped (front ++ user ++ back) = opened front ++ (user.filter isKept ++ closed back) := by
  -- a slash, the colon of the scheme or an `@` stays at the end of what comes before it
  have hlast : ∃ init c, opened front ++ user.filter isKept = init ++ [c] ∧ isOuter c = false := by
    rcases huser.filter with hnone | ⟨name, hname, -⟩
    · obtain ⟨written, slashes, hfront, -, hslashes⟩ := h.exists_parts
      rw [hnone, List.append_nil, hfront]
      rcases List.eq_nil_or_concat slashes with rfl | ⟨others, c, rfl⟩
      · exact ⟨written, ':', rfl, rfl⟩
      · refine ⟨written ++ ':' :: others, c, ?_, not_isOuter_of_isSlash (hslashes c (by simp))⟩
        rw [List.concat_eq_append, List.append_assoc, List.cons_append]
    · exact ⟨opened front ++ name, '@', by rw [hname, List.append_assoc], rfl⟩
  obtain ⟨init, c, hinit, hc⟩ := hlast
  rw [stripped_eq, List.append_assoc, opened_append h, List.filter_append, ← List.append_assoc,
    hinit, Text.dropEndWhile_append_of_last hc, ← hinit, List.append_assoc]
  rfl

end Front

/-! ## URLs with user parts -/

section Users

variable {scheme front user back : List Char}

/-- What is dropped from the end of a text does not hide that it starts with a slash. -/
theorem isPastSlashes_of_closed (h : IsPastSlashes (closed back)) : IsPastSlashes back := by
  refine isPastSlashes_of ?_
  rintro c t hslash rfl
  have hkept : isKept c = true := by
    rcases isSlash_iff.mp hslash with rfl | rfl <;> rfl
  rw [closed, List.filter_cons_of_pos hkept,
    Text.dropEndWhile_cons (not_isOuter_of_isSlash hslash)] at h
  exact h.not_isSlash hslash

/-- A user part does not start with a slash, since slashes would end the authority in front of
it. -/
theorem isPastSlashes_user_append (huser : IsUserPart true user) {s : List Char}
    (h : user = [] → IsPastSlashes s) : IsPastSlashes (user ++ s) := by
  cases user with
  | nil => exact h rfl
  | cons c others =>
    refine isPastSlashes_of fun d t hslash heq => ?_
    cases heq
    have hends := huser.endsAuthority c List.mem_cons_self
    rw [endsAuthority_of_isSlash hslash] at hends
    cases hends

/-- Where a text with a user part is cut: the authority starts at the user part, unless slashes
behind an empty one are taken for some of those in front of it. The premise `hback` rules this
out. -/
theorem parseChars_user (hfront : LeadsAuthority scheme front)
    (huser : IsUserPart (isSpecial scheme) user)
    (hback : isSpecial scheme = true → user = [] → IsPastSlashes (closed back)) :
    parseChars idna (front ++ user ++ back) =
      readAuthority idna scheme (user.filter isKept ++ closed back) := by
  obtain ⟨slashes, hsplit, hslashes⟩ := id hfront
  have hrest := splitScheme?_append hsplit (user.filter isKept ++ closed back)
  unfold parseChars
  rw [stripped_user hfront huser, hrest]
  simp only
  -- where the slashes in front are skipped, none may follow them
  split at hslashes
  · rename_i hspecial
    rw [hspecial] at huser
    have hstart : IsPastSlashes (user.filter isKept ++ closed back) :=
      isPastSlashes_user_append huser.filter fun hnone =>
        hback hspecial (huser.eq_nil_of_filter hnone)
    rw [if_pos hspecial]
    refine congrArg (readAuthority idna scheme) (Eq.trans ?_ hstart.dropWhile_eq)
    exact List.dropWhile_append_of_pos hslashes
  · rename_i hspecial
    obtain ⟨hfile, rfl⟩ := hslashes
    rw [if_neg hspecial, if_neg hfile]
    rfl

/-- Behind a user part of a special scheme there is a host, so no slash. -/
theorem isPastSlashes_of_user {url : Url} (hfront : LeadsAuthority scheme front)
    (huser : IsUserPart (isSpecial scheme) user) (hsome : user ≠ [])
    (h : parseChars idna (front ++ user ++ back) = .ok url) (hspecial : isSpecial scheme = true) :
    IsPastSlashes (closed back) := by
  rw [parseChars_user hfront huser fun _ hnone => absurd hnone hsome] at h
  rw [hspecial] at huser
  have hhost := isPastSlashes_of_readAuthority hspecial h
  rw [behindUser_user huser.filter] at hhost
  refine isPastSlashes_of fun c t hslash ht => ?_
  rw [ht, behindUser_of_isSlash hslash] at hhost
  exact hhost.not_isSlash hslash

/-- Two texts that are accepted and that nothing but their user parts tells apart are the same text,
or their authorities start at their user parts. If one of the user parts is not empty, it shows for
both texts that no slash follows. -/
theorem SameButUser.cases_of_parse {v v' : List Char} {url url' : Url} (hsame : SameButUser v v')
    (h : parseChars idna v = .ok url) (h' : parseChars idna v' = .ok url') :
    v = v' ∨ ∃ scheme front user user' back,
      v = front ++ user ++ back ∧ v' = front ++ user' ++ back ∧ LeadsAuthority scheme front ∧
        IsUserPart (isSpecial scheme) user ∧ IsUserPart (isSpecial scheme) user' ∧
        (isSpecial scheme = true → IsPastSlashes (closed back)) := by
  cases hsame with
  | same => exact .inl rfl
  | @user scheme front user user' hfront huser huser' back =>
    -- one of the two users is written, or the addresses are the same
    by_cases hsome : user = []
    · by_cases hsome' : user' = []
      · rw [hsome, hsome']
        exact .inl rfl
      · exact .inr ⟨scheme, front, user, user', back, rfl, rfl, hfront, huser, huser',
          isPastSlashes_of_user hfront huser' hsome' h'⟩
    · exact .inr ⟨scheme, front, user, user', back, rfl, rfl, hfront, huser, huser',
        isPastSlashes_of_user hfront huser hsome h⟩

/-- **A URL does not depend on its user part.** Both texts are cut at their user parts, and from
there on the same is read. -/
theorem eq_of_sameButUser {v v' : List Char} {url url' : Url} (hsame : SameButUser v v')
    (h : parseChars idna v = .ok url) (h' : parseChars idna v' = .ok url') : url = url' := by
  rcases hsame.cases_of_parse h h' with
    rfl | ⟨scheme, front, user, user', back, rfl, rfl, hfront, huser, huser', hback⟩
  · exact Except.ok.inj (h.symm.trans h')
  · rw [parseChars_user hfront huser fun hspecial _ => hback hspecial] at h
    rw [parseChars_user hfront huser' fun hspecial _ => hback hspecial] at h'
    refine eq_of_behindUser h h' ?_
    rw [behindUser_user huser.filter, behindUser_user huser'.filter]

end Users

end LogCourier.Url
