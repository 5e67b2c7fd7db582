import LogCourier.Proofs.Url.Port

/-!
# Searching a text for a port

A port that is the usual one of its scheme is looked for in the text of an address. The search
cuts the text four times, at the first `://`, at the first character that ends an authority, at
the last `@` and at the last `]`, and then looks for a colon with something behind it. All of
these marks may stand elsewhere too: in the user part, in the brackets of a host and behind the
authority.

* `seesPort_append`, `seesPort_bracket`: what stands in front of a port hides nothing of it.
* `hasWrittenPort_eq`: how the search cuts a text with a scheme and an authority.
* `hasWrittenPort_text_iff`: it finds the port of every text that is written regularly.
-/

namespace LogCourier.Endpoint

open Url (authorityAt endsAuthority)

/-! ## Cutting at a mark -/

/-- Where the mark does not stand at the front, the search goes on behind the first character. -/
theorem afterFirst?_cons_of_not_prefix {mark : List Char} {c : Char} {s : List Char}
    (h : mark.isPrefixOf (c :: s) = false) : afterFirst? mark (c :: s) = afterFirst? mark s := by
  rw [afterFirst?, h, if_neg Bool.false_ne_true]

/-- The slashes of `://` need a colon in front of them, so a text without colons can be skipped. -/
theorem afterFirst?_skip {s : List Char} (h : ':' ∉ s) (rest : List Char) :
    afterFirst? "://".toList (s ++ rest) = afterFirst? "://".toList rest := by
  induction s with
  | nil => rfl
  | cons c t ih =>
    have hc : ':' ≠ c := List.ne_of_not_mem_cons h
    have hmark : "://".toList.isPrefixOf (c :: (t ++ rest)) = false := by
      show (':' == c && _) = false
      rw [beq_eq_false_iff_ne.mpr hc, Bool.false_and]
    rw [List.cons_append, afterFirst?_cons_of_not_prefix hmark]
    exact ih (List.not_mem_of_not_mem_cons h)

/-- Behind a scheme the search finds the `://` that stands there, since a scheme has no colon of its
own. -/
theorem afterFirst?_append {scheme : List Char} (h : ':' ∉ scheme) (rest : List Char) :
    afterFirst? "://".toList (scheme ++ "://".toList ++ rest) = some rest := by
  rw [List.append_assoc, afterFirst?_skip h]
  rfl

/-! ## The colon of a port -/

/-- Whether there is a colon with something behind it, outside brackets. -/
def seesPort (text : List Char) : Bool :=
  (afterLast ']' text).contains ':' && afterLast ':' (afterLast ']' text) != []

/-- Without colons a text hides nothing of what follows it. It may move the place behind the last
bracket, but brings no colon there. -/
theorem seesPort_append {s : List Char} (h : ':' ∉ s) (t : List Char) :
    seesPort (s ++ t) = seesPort t := by
  -- behind the last bracket both are the same, or one is longer by a text without colons
  obtain ⟨s', hs', hbehind⟩ : ∃ s', ':' ∉ s' ∧ afterLast ']' (s ++ t) = s' ++ afterLast ']' t := by
    by_cases hclose : ']' ∈ t
    · exact ⟨[], List.not_mem_nil, afterLast_append_of_mem hclose s⟩
    · obtain ⟨before, hbefore⟩ := exists_afterLast ']' s
      refine ⟨afterLast ']' s, fun hmem => h ?_, ?_⟩
      · rw [hbefore]
        exact List.mem_append_right _ hmem
      · rw [afterLast_append_of_not_mem hclose, afterLast_of_not_mem hclose]
  unfold seesPort
  rw [hbehind]
  by_cases hcolon : ':' ∈ afterLast ']' t
  · rw [afterLast_append_of_mem hcolon]
    simp [hcolon]
  · simp [hcolon, hs']

/-- Nor does a text that ends in a bracket: all colons in front of the bracket are passed over,
which is how the colons of an address are kept apart from the one of a port. -/
theorem seesPort_bracket (s t : List Char) : seesPort (s ++ ']' :: t) = seesPort t := by
  unfold seesPort
  rw [afterLast_append_cons]

/-- A colon and a port without further marks: a port is seen if there is something behind the
colon. -/
theorem seesPort_colon {port : List Char} (hcolon : ':' ∉ port) (hclose : ']' ∉ port) :
    seesPort (':' :: port) = (port != []) := by
  have hbehind : ']' ∉ ':' :: port := fun hmem => (List.mem_cons.mp hmem).elim (by decide) hclose
  have hport : afterLast ':' (':' :: port) = port := afterLast_append hcolon []
  rw [seesPort, afterLast_of_not_mem hbehind, hport, List.contains_cons, beq_self_eq_true,
    Bool.true_or, Bool.true_and]

/-! ## The search -/

/-- The search as a composition of its cuts. The first two of them are those of an authority, if
only the marks of all schemes are taken to end it. -/
theorem hasWrittenPort_def (value : List Char) :
    hasWrittenPort value =
      seesPort (afterLast '@' (authorityAt false ((afterFirst? "://".toList value).getD []))) := by
  have hends : (fun c : Char => c != '/' && c != '?' && c != '#') = (!endsAuthority false ·) := by
    funext c
    simp [endsAuthority, bne]
  unfold hasWrittenPort
  simp only [hends]
  rfl

/-- In a text with a scheme, an authority and a tail the search comes to what is behind the last `@`
of the authority. -/
theorem hasWrittenPort_eq {scheme authority tail : List Char} (hscheme : ':' ∉ scheme)
    (hauthority : ∀ c ∈ authority, endsAuthority false c = false) (htail : Url.AtEnd false tail) :
    hasWrittenPort (scheme ++ "://".toList ++ authority ++ tail) =
      seesPort (afterLast '@' authority) := by
  rw [hasWrittenPort_def, List.append_assoc, afterFirst?_append hscheme, Option.getD_some,
    Url.authorityAt_append hauthority htail]

/-! ## Texts that are written regularly -/

/-- None of some marks stands in a text. -/
def IsFreeOf (marks : String) (s : List Char) : Prop :=
  ∀ c ∈ s, c ∉ marks.toList

instance (marks : String) (s : List Char) : Decidable (IsFreeOf marks s) :=
  List.decidableBAll (fun c => c ∉ marks.toList) s

namespace IsFreeOf

variable {marks : String} {s t : List Char}

theorem not_mem (h : IsFreeOf marks s) {c : Char} (hc : c ∈ marks.toList) : c ∉ s :=
  fun hmem => h c hmem hc

theorem fewer {marks' : String} (h : IsFreeOf marks s)
    (hmarks : ∀ m ∈ marks'.toList, m ∈ marks.toList) : IsFreeOf marks' s :=
  fun c hc hmem => h c hc (hmarks c hmem)

theorem append (hs : IsFreeOf marks s) (ht : IsFreeOf marks t) : IsFreeOf marks (s ++ t) := by
  intro c hc
  rcases List.mem_append.mp hc with hc | hc
  · exact hs c hc
  · exact ht c hc

theorem cons {c : Char} (hc : c ∉ marks.toList) (ht : IsFreeOf marks t) :
    IsFreeOf marks (c :: t) :=
  append (s := [c]) (fun _ hd => List.mem_singleton.mp hd ▸ hc) ht

/-- A text without the three marks does not end an authority. -/
theorem not_endsAuthority (h : IsFreeOf "/?#" s) : ∀ c ∈ s, endsAuthority false c = false := by
  intro c hc
  have hmarks : c ≠ '/' ∧ c ≠ '?' ∧ c ≠ '#' := by simpa using h c hc
  simp [endsAuthority, hmarks]

end IsFreeOf

/-- A text with the parts of a URL. A user part may hold every mark but those that end the
authority, brackets may hold colons, and behind the authority may stand anything. -/
structure RegularText where
  scheme : List Char
  user : Option (List Char)
  host : List Char
  port : Option (List Char)
  tail : List Char
  scheme_free : ':' ∉ scheme
  user_free : ∀ u ∈ user, IsFreeOf "/?#" u
  host_free : IsFreeOf "@:]/?#" host ∨
    ∃ inner, host = '[' :: (inner ++ [']']) ∧ IsFreeOf "@]/?#" inner
  port_free : ∀ p ∈ port, IsFreeOf "@:]/?#" p
  tail_start : ∀ c ∈ tail.head?, c ∈ "/?#".toList

namespace RegularText

variable (u : RegularText)

def userText : List Char :=
  u.user.elim [] (· ++ ['@'])

def portText : List Char :=
  u.port.elim [] (':' :: ·)

/-- User part, host and port. -/
def authority : List Char :=
  u.userText ++ (u.host ++ u.portText)

def text : List Char :=
  u.scheme ++ "://".toList ++ u.authority ++ u.tail

/-- Host and port hold neither the mark of a user part nor one that ends the authority. So
they are all that stands between the last `@` and the end of the authority. -/
theorem hostAndPort_free : IsFreeOf "@/?#" (u.host ++ u.portText) := by
  refine .append ?_ ?_
  · rcases u.host_free with hplain | ⟨inner, hinner, hfree⟩
    · exact hplain.fewer (by decide)
    · have hclose : IsFreeOf "@/?#" [']'] := by decide
      rw [hinner]
      exact .cons (by decide) ((hfree.fewer (by decide)).append hclose)
  · unfold portText
    cases hport : u.port with
    | none => exact nofun
    | some p => exact .cons (by decide) ((u.port_free p hport).fewer (by decide))

/-- An authority that is written regularly reaches to its end: none of its parts holds a mark that
ends it. -/
theorem authority_free : IsFreeOf "/?#" u.authority := by
  refine .append ?_ (u.hostAndPort_free.fewer (by decide))
  unfold userText
  cases huser : u.user with
  | none => exact nofun
  | some name =>
    have hmark : IsFreeOf "/?#" ['@'] := by decide
    exact (u.user_free name huser).append hmark

/-- Of the marks of the user part the last one counts, which is the one in front of the host. -/
theorem afterLast_authority : afterLast '@' u.authority = u.host ++ u.portText := by
  have hmark : '@' ∉ u.host ++ u.portText := u.hostAndPort_free.not_mem (by decide)
  unfold authority userText
  cases u.user with
  | none => exact afterLast_of_not_mem hmark
  | some name =>
    rw [Option.elim_some, List.append_assoc, List.singleton_append]
    exact afterLast_append hmark name

theorem seesPort_hostAndPort : seesPort (u.host ++ u.portText) = seesPort u.portText := by
  rcases u.host_free with hplain | ⟨inner, hinner, -⟩
  · exact seesPort_append (hplain.not_mem (by decide)) u.portText
  · rw [hinner, ← List.cons_append, List.append_assoc, List.singleton_append]
    exact seesPort_bracket ('[' :: inner) u.portText

/-- Behind the authority nothing follows, or one of the marks that end it. -/
theorem atEnd_tail : Url.AtEnd false u.tail := by
  intro c hc
  have hmarks : c = '/' ∨ c = '?' ∨ c = '#' := by simpa using u.tail_start c hc
  rcases hmarks with rfl | rfl | rfl <;> rfl

/-- **A port that is written regularly is found**, and nothing else is taken for one: the search
succeeds exactly if there is a port and it is not empty. Each of its four cuts is matched by one of
the lemmas before. -/
theorem hasWrittenPort_text_iff :
    hasWrittenPort u.text = true ↔ ∃ p, u.port = some p ∧ p ≠ [] := by
  -- the search ends up at the text of the port, whatever stands around it
  have hcut : hasWrittenPort u.text = seesPort u.portText := by
    rw [text, hasWrittenPort_eq u.scheme_free u.authority_free.not_endsAuthority u.atEnd_tail,
      afterLast_authority, seesPort_hostAndPort]
  rw [hcut, portText]
  cases hport : u.port with
  | none => exact iff_of_false Bool.false_ne_true nofun
  | some p =>
    have hfree := u.port_free p hport
    rw [Option.elim_some, seesPort_colon (hfree.not_mem (by decide)) (hfree.not_mem (by decide)),
      bne_iff_ne]
    constructor
    · exact fun hsome => ⟨p, rfl, hsome⟩
    · rintro ⟨p', hp', hsome⟩
      rwa [Option.some.inj hp']

/-- Every mark stands where it means nothing as well. -/
def tangled : RegularText where
  scheme := "https".toList
  user := some "a:1@[b]:2".toList
  host := "[::1]".toList
  port := some "443".toList
  tail := "/c://d@e]:3".toList
  scheme_free := by decide
  user_free := by decide
  host_free := .inr ⟨"::1".toList, by decide, by decide⟩
  port_free := by decide
  tail_start c hc := by
    cases hc
    decide

example : tangled.text = "https://a:1@[b]:2@[::1]:443/c://d@e]:3".toList := by decide

example : hasWrittenPort tangled.text = true := by decide

end RegularText

end LogCourier.Endpoint
