import LogCourier.Proofs.Endpoint
import LogCourier.Proofs.Endpoint.Search
import LogCourier.Proofs.Url.User

/-!
# User parts of addresses

An address that is accepted does not depend on the user part of its URL, although the search for
a port goes through the whole text a second time. An address that is refused is quoted in the
reason, with its user part.

* `hasWrittenPort_user`: the search for a port does not notice a user part.
* `eq_of_sameButUser`: of two addresses that are accepted and that nothing but their user parts
  tells apart, both are the same.
* `message_injective`: the reason for refusing an address tells all of its text.
-/

namespace LogCourier.Endpoint

open Url (authorityAt endsAuthority IsUserPart LeadsAuthority SameButUser)

variable {idna : Url.Idna}

/-! ## The search for a port -/

section Search

variable {user back : List Char}

/-- There is no `://` in a text without slashes, nor across the `@` behind it. Induction on the text
in front of the `@`: a colon there would need two slashes behind it. -/
theorem afterFirst?_user {name : List Char} (h : '/' ∉ name) (back : List Char) :
    afterFirst? "://".toList (name ++ ['@'] ++ back) = afterFirst? "://".toList back := by
  rw [List.append_assoc, List.singleton_append]
  induction name with
  | nil => exact afterFirst?_cons_of_not_prefix rfl
  | cons c t ih =>
    -- back) = false := by :: two slashes would have to start in the name, which holds none
    have hnext : "//".toList.isPrefixOf (t ++ '@' :: back) = false := by
      cases t with
      | nil => rfl
      | cons d t =>
        have hd : '/' ≠ d := List.ne_of_not_mem_cons (List.not_mem_of_not_mem_cons h)
        show ('/' == d && _) = false
        rw [beq_eq_false_iff_ne.mpr hd, Bool.false_and]
    have hmark : "://".toList.isPrefixOf (c :: (t ++ '@' :: back)) = false := by
      show (':' == c && "//".toList.isPrefixOf (t ++ '@' :: back)) = false
      rw [hnext, Bool.and_false]
    rw [List.cons_append, afterFirst?_cons_of_not_prefix hmark]
    exact ih (List.not_mem_of_not_mem_cons h)

/-- Two slashes do not stand across the end of a text if what follows does not start with one. -/
theorem slashes_prefix_of_append {s t : List Char} (ht : t.head? ≠ some '/')
    (h : "//".toList <+: s ++ t) : "//".toList <+: s := by
  rcases List.prefix_or_prefix_of_prefix h (List.prefix_append s t) with
    hinside | ⟨others, hothers⟩
  · exact hinside
  · -- otherwise the slashes reach over into `t`, which does not start with one
    obtain ⟨rest, hrest⟩ := h
    rw [← hothers, List.append_assoc] at hrest
    have htail : t = others ++ rest := (List.append_cancel_left hrest).symm
    cases others with
    | nil => exact ⟨[], by rw [← hothers, List.append_nil, List.append_nil]⟩
    | cons c others =>
      have hc : c ∈ "//".toList := hothers ▸ List.mem_append_right _ List.mem_cons_self
      have hslash : c = '/' := by simpa using hc
      rw [htail, hslash] at ht
      exact absurd rfl ht

/-- The first `://` stands in a text with one colon, or it stands behind that text; if the text
behind does not start with a slash, it does not stand across. The two cases decide whether the
search starts in front of the user part or behind it. -/
theorem afterFirst?_front {before behind : List Char} (hbefore : ':' ∉ before)
    (hbehind : ':' ∉ behind) :
    (∃ slashes rest, behind = slashes ++ rest ∧ ∀ t,
        afterFirst? "://".toList (before ++ ':' :: behind ++ t) = some (rest ++ t)) ∨
      ∀ t, t.head? ≠ some '/' →
        afterFirst? "://".toList (before ++ ':' :: behind ++ t) = afterFirst? "://".toList t := by
  have hskip : ∀ t, afterFirst? "://".toList (before ++ ':' :: behind ++ t) =
      afterFirst? "://".toList (':' :: (behind ++ t)) := fun t => by
    rw [List.append_assoc, afterFirst?_skip hbefore, List.cons_append]
  -- the mark is at the only colon of the front, or it is not in the front at all
  by_cases hslashes : "//".toList <+: behind
  · obtain ⟨rest, rfl⟩ := hslashes
    exact .inl ⟨"//".toList, rest, rfl, fun t => by rw [hskip]; rfl⟩
  · refine .inr fun t ht => ?_
    have hmark : "://".toList.isPrefixOf (':' :: (behind ++ t)) = false := by
      refine Bool.eq_false_iff.mpr fun hprefix => hslashes (slashes_prefix_of_append ht ?_)
      exact (List.cons_prefix_cons.mp (List.isPrefixOf_iff_prefix.mp hprefix)).2
    rw [hskip, afterFirst?_cons_of_not_prefix hmark, afterFirst?_skip hbehind]

/-- In an authority with a user part, a port is seen exactly if it is seen without. The cut at the
last `@` takes the user part away, and the front that is left without one has no colon to be
mistaken for a port's. -/
theorem seesPort_user {front : List Char} (hcolon : ':' ∉ front) (hat : '@' ∉ front)
    (huser : IsUserPart true user) (back : List Char) :
    seesPort (afterLast '@' (authorityAt false (front ++ (user ++ back)))) =
      seesPort (afterLast '@' (authorityAt false (front ++ back))) := by
  by_cases hinside : ∀ c ∈ front, endsAuthority false c = false
  · have hfree : ∀ c ∈ user, endsAuthority false c = false := by
      intro c hc
      refine Bool.eq_false_iff.mpr fun hends => ?_
      have hname := huser.endsAuthority c hc
      rw [Url.endsAuthority_true hends] at hname
      cases hname
    -- without a user part the front may stand behind the last `@`, but it hides no port
    have hbare : ∀ t, seesPort (afterLast '@' (front ++ t)) = seesPort (afterLast '@' t) := by
      intro t
      by_cases ht : '@' ∈ t
      · rw [afterLast_append_of_mem ht]
      · rw [afterLast_append_of_not_mem ht, afterLast_of_not_mem hat, afterLast_of_not_mem ht,
          seesPort_append hcolon]
    rw [Url.authorityAt_append_of_inside hinside, Url.authorityAt_append_of_inside hinside,
      Url.authorityAt_append_of_inside hfree]
    rcases Url.afterLast_user huser (authorityAt false back) with rfl | hskip
    · rfl
    · rw [← List.append_assoc, hskip front, hbare]
  -- the authority ends in front of the user part
  · rw [Url.authorityAt_append_of_outside hinside, Url.authorityAt_append_of_outside hinside]

/-- The search for a port does not notice a user part, wherever it starts to look. If it
finds the authority, it goes on behind the last sign, where the user is cut off; if it does
not, it passes over the user, which holds no slash and so no `://`. -/
theorem hasWrittenPort_user {scheme front : List Char} (hfront : LeadsAuthority scheme front)
    (huser : IsUserPart true user) (hback : Url.IsPastSlashes back) :
    hasWrittenPort (front ++ user ++ back) = hasWrittenPort (front ++ back) := by
  obtain ⟨before, behind, rfl, hbefore, hcolon, hat⟩ := hfront.exists_colon
  have hstart : ∀ {t}, Url.IsPastSlashes t → t.head? ≠ some '/' := fun ht hslash =>
    Bool.noConfusion (ht '/' hslash)
  rw [hasWrittenPort_def, hasWrittenPort_def, List.append_assoc]
  -- the search starts in the front, and then drops the user with the sign; or it starts
  -- behind it
  rcases afterFirst?_front hbefore hcolon with ⟨slashes, rest, rfl, hfirst⟩ | hnone
  · rw [hfirst, hfirst, Option.getD_some, Option.getD_some]
    refine seesPort_user (fun hmem => hcolon ?_) (fun hmem => hat ?_) huser back
    · exact List.mem_append_right _ hmem
    · exact List.mem_append_right _ hmem
  · have hskip : afterFirst? "://".toList (user ++ back) = afterFirst? "://".toList back := by
      rcases huser with rfl | ⟨name, rfl, hname⟩
      · rfl
      · exact afterFirst?_user (fun hmem => Bool.noConfusion (hname _ hmem)) back
    rw [hnone _ (hstart (Url.isPastSlashes_user_append huser fun _ => hback)),
      hnone _ (hstart hback), hskip]

end Search

/-! ## Addresses that are accepted -/

section Accepted

variable {v v' : String}

/-- Two accepted texts that nothing but their user parts tells apart have the same port. For a
scheme with a usual port the search decides, which does not notice them; for any other it is not
asked. -/
theorem port?_eq_of_sameButUser {url : Url} (hsame : SameButUser v.toList v'.toList)
    (h : Url.parse idna v = .ok url) (h' : Url.parse idna v' = .ok url) : port? v url = port? v' url := by
  -- the same address, or the two differ in the user alone
  rcases hsame.cases_of_parse h h' with
    heq | ⟨scheme, front, user, user', back, hv, hv', hfront, huser, huser', hclosed⟩
  · rw [port?, port?, heq]
  · by_cases hspecial : Url.isSpecial scheme = true
    · have hback := Url.isPastSlashes_of_closed (hclosed hspecial)
      rw [hspecial] at huser huser'
      rw [port?, port?, hv, hv', hasWrittenPort_user hfront huser hback,
        hasWrittenPort_user hfront huser' hback]
    · -- without a usual port the search does not matter
      have hscheme : url.scheme = String.ofList scheme := by
        unfold Url.parse at h
        rw [hv, Url.parseChars_user hfront huser fun hspecial' => absurd hspecial' hspecial] at h
        exact Url.scheme_of_readAuthority h
      have husual : Url.usualPort? url.scheme.toList = none := by
        rw [hscheme, String.toList_ofList]
        rwa [Url.isSpecial, Option.not_isSome_iff_eq_none] at hspecial
      rw [port?, port?, husual, ite_self, ite_self]

/-- **An address does not depend on its user part.** Neither the URL does nor the port that is
looked for in the text again. -/
theorem eq_of_sameButUser {e e' : Endpoint} (hsame : SameButUser v.toList v'.toList)
    (h : parse idna v = .ok e) (h' : parse idna v' = .ok e') : e = e' := by
  obtain ⟨url, hurl, -, rfl⟩ := exists_url_of_parse h
  obtain ⟨url', hurl', -, rfl⟩ := exists_url_of_parse h'
  obtain rfl : url = url' := Url.eq_of_sameButUser hsame hurl hurl'
  rw [authority, authority, portText, portText, port?_eq_of_sameButUser hsame hurl hurl']

end Accepted

/-! ## Addresses that are refused -/

/-- Why an address can be refused. -/
def reasons : List String :=
  "missing host" ::
    [Url.Fault.emptyHost, .internationalName, .invalidPort, .invalidIpv4Address,
      .invalidIpv6Address, .invalidDomainCharacter, .relativeWithoutBase].map Url.Fault.message

/-- A refusal quotes the text and names one of few reasons. The reasons are those of the
parser of URLs, and the one for an address without a host. -/
theorem exists_reason_of_parse {v : String} {err : Error} (h : parse idna v = .error err) :
    ∃ why ∈ reasons, err = .invalidUri v why := by
  unfold parse at h
  split at h
  · -- the parser's own faults, and the address without a host
    rename_i f _
    cases h
    refine ⟨f.message, List.mem_cons_of_mem _ (List.mem_map_of_mem ?_), rfl⟩
    cases f <;> decide
  · unfold ofUrl at h
    split at h
    · cases h
      exact ⟨_, List.mem_cons_self, rfl⟩
    · cases h

/-- No reason is the end of another one, decided over all pairs. So a message can be cut in front of
its reason in one way only. -/
theorem eq_of_suffix_reason :
    ∀ why ∈ reasons, ∀ why' ∈ reasons, why.toList <:+ why'.toList → why = why' := by
  decide

/-- The reason for refusing an address tells all of its text, its password included: two refusals
with one message are about the same text. -/
theorem message_injective {v v' : String} {err err' : Error} (h : parse idna v = .error err)
    (h' : parse idna v' = .error err') (hmessage : err.message = err'.message) : v = v' := by
  obtain ⟨why, hwhy, rfl⟩ := exists_reason_of_parse h
  obtain ⟨why', hwhy', rfl⟩ := exists_reason_of_parse h'
  have hlist : ("invalid URI " ++ v ++ ". Reason ").toList ++ why.toList =
      ("invalid URI " ++ v' ++ ". Reason ").toList ++ why'.toList := by
    rw [← String.toList_append, ← String.toList_append]
    exact congrArg String.toList hmessage
  -- no reason is the end of another, so the messages quote the same address
  have hreason : why = why' := by
    rcases List.suffix_or_suffix_of_suffix (List.suffix_append _ why.toList)
      (hlist ▸ List.suffix_append _ why'.toList) with hsuffix | hsuffix
    · exact eq_of_suffix_reason why hwhy why' hwhy' hsuffix
    · exact (eq_of_suffix_reason why' hwhy' why hwhy hsuffix).symm
  subst hreason
  have hquoted := (String.append_left_inj _).mp ((String.append_left_inj _).mp hmessage)
  exact (String.append_right_inj _).mp hquoted

end LogCourier.Endpoint
