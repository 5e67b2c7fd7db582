import LogCourier.Endpoint
import LogCourier.Proofs.Url
import LogCourier.Proofs.Url.Written

/-!
# Ports as they are written

Where the authority of a URL starts and ends depends on the scheme; behind its user part stands a
host, then maybe a colon with the digits of a port. A URL keeps that port, unless it is the usual
one of its scheme.

* `authority?`, `SpellsPort`: which port a text spells, without reading it.
* `parts_of_readAuthority`: how the reader parts an authority.
* `keepsPort_of_parse`: the port of a URL is the one that its text spells, but for the usual one.
-/

namespace LogCourier

/-! ## The text behind the last mark -/

namespace Endpoint

variable (c : Char) (s : List Char)

/-- The text behind the last mark is the end of the text. -/
theorem exists_afterLast : ∃ before, s = before ++ afterLast c s := by
  refine ⟨(s.reverse.dropWhile (· != c)).reverse, ?_⟩
  rw [afterLast, ← List.reverse_append, List.takeWhile_append_dropWhile, List.reverse_reverse]

variable {c s} {t : List Char}

/-- Without a mark it is the whole text: an authority without an `@` is all host and port. -/
theorem afterLast_of_not_mem (h : c ∉ s) : afterLast c s = s := by
  have hreverse : c ∉ s.reverse := fun hmem => h (List.mem_reverse.mp hmem)
  rw [afterLast, Text.takeWhile_ne_of_not_mem hreverse, List.reverse_reverse]

/-- What stands behind a mark and holds none itself is found whole, whatever is in front of the
mark. -/
theorem afterLast_append (h : c ∉ t) (before : List Char) :
    afterLast c (before ++ c :: t) = t := by
  have hreverse : c ∉ t.reverse := fun hmem => h (List.mem_reverse.mp hmem)
  rw [afterLast, List.reverse_append, List.reverse_cons, List.append_assoc, List.singleton_append,
    Text.takeWhile_ne_append hreverse, List.reverse_reverse]

/-- A mark in the second of two texts decides, and the first is not looked at. -/
theorem afterLast_append_of_mem (h : c ∈ t) (s : List Char) :
    afterLast c (s ++ t) = afterLast c t := by
  -- seen from the end, the search stops inside of the second text
  have hstop : (t.reverse.takeWhile (· != c)).length ≠ t.reverse.length := by
    intro hall
    have hself := (List.takeWhile_prefix (· != c)).eq_of_length hall
    have hkept := List.takeWhile_eq_self_iff.mp hself c (List.mem_reverse.mpr h)
    simp at hkept
  rw [afterLast, List.reverse_append, List.takeWhile_append, if_neg hstop]
  rfl

/-- Without a mark in the second of two texts, the search goes on into the first. -/
theorem afterLast_append_of_not_mem (h : c ∉ t) (s : List Char) :
    afterLast c (s ++ t) = afterLast c s ++ t := by
  have hreverse : ∀ d ∈ t.reverse, (d != c) = true := fun d hd =>
    bne_iff_ne.mpr (ne_of_mem_of_not_mem (List.mem_reverse.mp hd) h)
  rw [afterLast, List.reverse_append, List.takeWhile_append_of_pos hreverse, List.reverse_append,
    List.reverse_reverse]
  rfl

/-- A mark hides everything in front of it, other marks among it. -/
theorem afterLast_append_cons (s : List Char) :
    afterLast c (s ++ c :: t) = afterLast c t := by
  by_cases h : c ∈ t
  · rw [← List.singleton_append, ← List.append_assoc, afterLast_append_of_mem h]
  · rw [afterLast_append h, afterLast_of_not_mem h]

end Endpoint

namespace Url

open Endpoint (afterLast)

variable {idna : Idna}

/-! ## What a text spells -/

def isSlash (c : Char) : Bool :=
  c == '/' || c == '\\'

/-- The authority at the front of a text. -/
def authorityAt (special : Bool) (s : List Char) : List Char :=
  s.takeWhile (!endsAuthority special ·)

/-- The authority of a file, behind two slashes of either kind. -/
def fileAuthority? : List Char → Option (List Char)
  | a :: b :: rest => if isSlash a && isSlash b then some (authorityAt true rest) else none
  | _ => none

/-- The authority of a URL of a scheme that need not have one. -/
def otherAuthority? : List Char → Option (List Char)
  | '/' :: '/' :: rest => some (authorityAt false rest)
  | _ => none

/-- The authority of a URL. The special schemes need no slashes in front of it and take any
number of either kind. -/
def authority? (value : List Char) : Option (List Char) :=
  match splitScheme? (stripped value) with
  | none => none
  | some (scheme, rest) =>
    if isSpecial scheme then some (authorityAt true (rest.dropWhile isSlash))
    else if scheme = "file".toList then fileAuthority? rest
    else otherAuthority? rest

/-- An authority with a colon behind its host, and the digits behind that. A backslash ends them,
even where it does not end the authority. -/
def SpellsDigits (authority digits : List Char) : Prop :=
  ∃ host tail, afterLast '@' authority = host ++ ':' :: (digits ++ tail) ∧ Host.IsWritten host ∧
    (∀ c ∈ digits, Text.isAsciiDigit c = true) ∧ (tail = [] ∨ tail.head? = some '\\')

/-- An authority with a port. -/
def SpellsPort (authority : List Char) (n : Nat) : Prop :=
  ∃ digits, SpellsDigits authority digits ∧ digits ≠ [] ∧ n = ofDigits 10 digits

/-- A text with a port in its authority, if it has one. -/
def Spells (authority : Option (List Char)) (n : Nat) : Prop :=
  ∃ a ∈ authority, SpellsPort a n

/-! ## The host of an authority -/

section Authority

variable {special : Bool}

/-- The text behind an authority. -/
def behindAuthority (special : Bool) (s : List Char) : List Char :=
  s.dropWhile (!endsAuthority special ·)

/-- At the end of a text, or at a character that ends an authority. -/
def AtEnd (special : Bool) (s : List Char) : Prop :=
  ∀ c ∈ s.head?, endsAuthority special c = true

theorem authorityAt_append_behindAuthority (s : List Char) :
    authorityAt special s ++ behindAuthority special s = s :=
  List.takeWhile_append_dropWhile

/-- Behind an authority stands nothing or a character that ends it. -/
theorem atEnd_behindAuthority (s : List Char) : AtEnd special (behindAuthority special s) := by
  intro c hc
  have hhead := List.head?_dropWhile_not (!endsAuthority special ·) s
  rw [behindAuthority, Option.mem_def] at hc
  rw [hc] at hhead
  simpa using hhead

theorem endsAuthority_of_mem {s : List Char} :
    ∀ c ∈ authorityAt special s, endsAuthority special c = false := by
  intro c hc
  simpa using List.mem_takeWhile_imp hc

/-- An authority can be told from what follows: if nothing in a text ends it and the next character
does, the text is the authority. With the two lemmas before, all that is needed to cut a text in one
way only. -/
theorem authorityAt_append {s rest : List Char} (hs : ∀ c ∈ s, endsAuthority special c = false)
    (hrest : AtEnd special rest) : authorityAt special (s ++ rest) = s := by
  have hstop : rest.takeWhile (!endsAuthority special ·) = [] := by
    cases rest with
    | nil => rfl
    | cons c t => exact List.takeWhile_cons_of_neg (by simp [hrest c rfl])
  have hall : ∀ c ∈ s, (!endsAuthority special c) = true := fun c hc => by rw [hs c hc]; rfl
  rw [authorityAt, List.takeWhile_append_of_pos hall, hstop, List.append_nil]

/-- What ends an authority in any scheme ends it in the special ones. They have the backslash
besides. -/
theorem endsAuthority_true {c : Char} (h : endsAuthority special c = true) :
    endsAuthority true c = true := by
  cases special with
  | true => exact h
  | false =>
    rw [endsAuthority, Bool.false_and, Bool.or_false] at h
    rw [endsAuthority, h, Bool.true_or]

/-- What the reader takes for the text behind the user part is the text behind the last `@` of the
authority, and all that follows. The reader counts characters from either end; the equation says
what it counted. -/
theorem rest_of_splitUser? {s user rest : List Char} (h : splitUser? special s = some (user, rest)) :
    rest = afterLast '@' (authorityAt special s) ++ behindAuthority special s := by
  obtain ⟨before, hbefore⟩ := Endpoint.exists_afterLast '@' (authorityAt special s)
  have hbehind : ((authorityAt special s).reverse.takeWhile (· != '@')).length =
      (afterLast '@' (authorityAt special s)).length := List.length_reverse.symm
  have hlength : (authorityAt special s).length =
      before.length + (afterLast '@' (authorityAt special s)).length := by
    rw [← List.length_append, ← hbefore]
  -- the user's part is cut off by its length, which is that of `before`
  have hs : s = before ++ (afterLast '@' (authorityAt special s) ++ behindAuthority special s) := by
    rw [← List.append_assoc, ← hbefore, authorityAt_append_behindAuthority]
  have hsplit : splitUser? special s =
      if (authorityAt special s).contains '@' then
        some (s.take ((authorityAt special s).length -
            ((authorityAt special s).reverse.takeWhile (· != '@')).length - 1),
          s.drop ((authorityAt special s).length -
            ((authorityAt special s).reverse.takeWhile (· != '@')).length))
      else none := rfl
  rw [hsplit, hbehind, hlength, Nat.add_sub_cancel] at h
  split at h
  · cases h
    exact (congrArg (List.drop before.length) hs).trans List.drop_left
  · cases h

/-- The user part ends at the last `@` of the authority. Of a password nothing but this can be seen
in the rest of the text. -/
theorem text_of_afterUser {s text : List Char} {hasUser : Bool}
    (h : afterUser special s = .ok (text, hasUser)) :
    text = afterLast '@' (authorityAt special s) ++ behindAuthority special s := by
  unfold afterUser at h
  split at h
  · rename_i hnone
    cases h
    have hmark : '@' ∉ authorityAt special s := by
      simpa [splitUser?, authorityAt] using hnone
    rw [Endpoint.afterLast_of_not_mem hmark, authorityAt_append_behindAuthority]
  · rename_i hsome
    split at h
    · split at h
      · cases h
      · cases h
        exact rest_of_splitUser? hsome
    · cases h
      exact rest_of_splitUser? hsome
  · rename_i hsome
    cases h
    exact rest_of_splitUser? hsome

/-- One character further into a host. A colon belongs to it between brackets only. -/
theorem hostLength_cons {inBrackets : Bool} {c : Char} (hc : c = ':' → inBrackets = true)
    (hends : endsAuthority special c = false) (rest : List Char) :
    hostLength special inBrackets (c :: rest) =
      hostLength special (c == '[' || (inBrackets && c != ']')) rest + 1 := by
  rw [hostLength, if_neg]
  rw [hends, Bool.or_false, Bool.and_eq_true, beq_iff_eq]
  rintro ⟨rfl, h⟩
  rw [hc rfl] at h
  cases h

/-- Between brackets everything belongs to the host until one closes them. Induction on what is
between. -/
theorem hostLength_inside {inner : List Char} (hinner : ']' ∉ inner)
    (hends : ∀ c ∈ inner, endsAuthority special c = false) (rest : List Char) :
    hostLength special true (inner ++ rest) = hostLength special true rest + inner.length := by
  induction inner with
  | nil => rfl
  | cons c t ih =>
    have hc : c ≠ ']' := (List.ne_of_not_mem_cons hinner).symm
    have hinside : (c == '[' || (true && c != ']')) = true := by simp [hc]
    rw [List.cons_append, hostLength_cons (fun _ => rfl) (hends c List.mem_cons_self), hinside,
      ih (List.not_mem_of_not_mem_cons hinner) fun d hd => hends d (List.mem_cons_of_mem c hd)]
    rfl

/-- The host of an authority is the host that is written there, up to a colon or the end. A name is
counted character by character, an address from bracket to bracket. -/
theorem hostLength_of_isWritten {host rest : List Char} (hhost : Host.IsWritten host)
    (hends : ∀ c ∈ host, endsAuthority special c = false)
    (hrest : ∀ c ∈ rest.head?, c = ':' ∨ endsAuthority special c = true) :
    hostLength special false (host ++ rest) = host.length := by
  have hstop : hostLength special false rest = 0 := by
    cases rest with
    | nil => rfl
    | cons c t =>
      rw [hostLength, if_pos]
      rcases hrest c rfl with rfl | hc
      · rfl
      · rw [hc, Bool.or_true]
  rcases hhost with hplain | ⟨inner, rfl, hinner⟩
  · induction host with
    | nil => exact hstop
    | cons c t ih =>
      obtain ⟨hcolon, hopen, -⟩ := hplain c List.mem_cons_self
      have houtside : (c == '[' || (false && c != ']')) = false := by simp [hopen]
      rw [List.cons_append, hostLength_cons (absurd · hcolon) (hends c List.mem_cons_self),
        houtside, ih (fun d hd => hends d (List.mem_cons_of_mem c hd))
          fun d hd => hplain d (List.mem_cons_of_mem c hd)]
      rfl
  · -- in brackets a colon does not end the host, up to the closing one
    have hinside : ∀ c ∈ inner, endsAuthority special c = false := fun c hc =>
      hends c (List.mem_cons_of_mem _ (List.mem_append_left _ hc))
    have hparts : '[' :: (inner ++ [']']) ++ rest = '[' :: (inner ++ ']' :: rest) := by
      rw [List.cons_append, List.append_assoc, List.singleton_append]
    have hopen : endsAuthority special '[' = false := hends _ List.mem_cons_self
    have hclose : endsAuthority special ']' = false :=
      hends _ (List.mem_cons_of_mem _ (List.mem_append_right _ List.mem_cons_self))
    have hopened : hostLength special false ('[' :: (inner ++ ']' :: rest)) =
        hostLength special true (inner ++ ']' :: rest) + 1 :=
      hostLength_cons (by decide) hopen _
    have hclosed : hostLength special true (']' :: rest) = hostLength special false rest + 1 :=
      hostLength_cons (by decide) hclose _
    rw [hparts, hopened, hostLength_inside hinner hinside, hclosed, hstop, List.length_cons,
      List.length_append, List.length_singleton]
    omega

/-- Behind the host comes a colon or the end. Induction on the text, inside and outside of
brackets. -/
theorem head_behind_host (inBrackets : Bool) (s : List Char) :
    ∀ c ∈ (s.drop (hostLength special inBrackets s)).head?,
      c = ':' ∨ endsAuthority special c = true := by
  induction s generalizing inBrackets with
  | nil => exact nofun
  | cons c t ih =>
    unfold hostLength
    split
    · rename_i hstop
      intro d hd
      cases hd
      rw [Bool.or_eq_true, Bool.and_eq_true, beq_iff_eq] at hstop
      exact hstop.imp_left (·.1)
    · exact ih _

/-- A host ends where its authority ends, or before. -/
theorem endsAuthority_of_mem_host (inBrackets : Bool) (s : List Char) :
    ∀ c ∈ s.take (hostLength special inBrackets s), endsAuthority special c = false := by
  induction s generalizing inBrackets with
  | nil => exact nofun
  | cons c t ih =>
    unfold hostLength
    split
    · exact nofun
    · rename_i hgo
      rw [Bool.or_eq_true, not_or, Bool.not_eq_true] at hgo
      intro d hd
      rcases List.mem_cons.mp hd with rfl | hd
      · simpa using hgo.2
      · exact ih _ d hd

end Authority

/-! ## The digits of a port -/

/-- What reading digits comes to: they are read off the front, the number is theirs, and behind them
the authority ends. Induction on the text, with the number so far. -/
theorem readPort_eq_ok {n m : Nat} {s rest : List Char} (h : readPort n s = .ok (m, rest)) :
    rest = s.dropWhile Text.isAsciiDigit ∧ AtEnd true rest ∧
      m = (s.takeWhile Text.isAsciiDigit).foldl
        (fun n c => 10 * n + (Text.digitValue? c).getD 0) n := by
  induction s generalizing n with
  | nil =>
    cases h
    exact ⟨rfl, nofun, rfl⟩
  | cons c t ih =>
    unfold readPort at h
    -- a digit, while the number stays in range, or what may stand behind a port
    split at h
    · rename_i hdigit
      have hvalue : (Text.digitValue? c).getD 0 = c.toNat - 48 := by
        rw [Text.digitValue?, if_pos hdigit, Option.getD_some]
      simp only at h
      split at h
      · rw [List.dropWhile_cons_of_pos hdigit, List.takeWhile_cons_of_pos hdigit, List.foldl_cons,
          hvalue]
        exact ih h
      · cases h
    · rename_i hdigit
      split at h
      · rename_i hends
        cases h
        rw [List.dropWhile_cons_of_neg hdigit, List.takeWhile_cons_of_neg hdigit]
        refine ⟨rfl, fun d hd => ?_, rfl⟩
        cases hd
        exact hends
      · cases h

/-- No digit ends an authority. -/
theorem not_endsAuthority_of_isAsciiDigit {special : Bool} {c : Char}
    (h : Text.isAsciiDigit c = true) : endsAuthority special c = false := by
  cases hc : endsAuthority special c with
  | false => rfl
  | true =>
    have hend := endsAuthority_true hc
    simp only [endsAuthority, Bool.true_and, Bool.or_eq_true, beq_iff_eq] at hend
    rcases hend with ((rfl | rfl) | rfl) | rfl <;> cases h

/-- A colon and digits do not end the authority that they stand in. -/
theorem not_endsAuthority_of_port {special : Bool} {host digits tail : List Char}
    (hhost : ∀ c ∈ host, endsAuthority special c = false)
    (hdigits : ∀ c ∈ digits, Text.isAsciiDigit c = true)
    (htail : ∀ c ∈ tail, endsAuthority special c = false) :
    ∀ c ∈ host ++ ':' :: (digits ++ tail), endsAuthority special c = false := by
  intro c hc
  rcases List.mem_append.mp hc with hc | hc
  · exact hhost c hc
  · rcases List.mem_cons.mp hc with rfl | hc
    · cases special <;> rfl
    · rcases List.mem_append.mp hc with hc | hc
      · exact not_endsAuthority_of_isAsciiDigit (hdigits c hc)
      · exact htail c hc

/-- What is left of an authority behind the digits starts with a backslash. Readers stop there in
every scheme, although only the special ones end the authority by it. -/
theorem head_authorityAt {special : Bool} {rest : List Char} (h : AtEnd true rest) :
    authorityAt special rest = [] ∨ (authorityAt special rest).head? = some '\\' := by
  cases rest with
  | nil => exact .inl rfl
  | cons c t =>
    cases hc : endsAuthority special c with
    | true => exact .inl (List.takeWhile_cons_of_neg (by simp [hc]))
    | false =>
      -- a backslash ends the port everywhere and the authority only in special schemes
      have hslash : c = '\\' := by
        have hend := h c rfl
        simp only [endsAuthority, Bool.true_and, Bool.or_eq_true, Bool.or_eq_false_iff] at hend hc
        exact beq_iff_eq.mp (hend.resolve_left (by simp [hc.1]))
      refine .inr ?_
      rw [authorityAt, List.takeWhile_cons_of_pos (by simp [hc]), hslash]
      rfl

/-- The port that a URL keeps, from the digits that are written. -/
def keptPort (usual : Option Nat) (digits : List Char) : Option Nat :=
  if digits = [] ∨ usual = some (ofDigits 10 digits) then none else some (ofDigits 10 digits)

/-- The two ways in which reading a port succeeds: there is no colon and no port, or there are a
colon and digits, maybe none, and the URL keeps what `keptPort` says. -/
theorem splitPort_cases {usual port : Option Nat} {s rest : List Char}
    (h : splitPort usual s = .ok (port, rest)) :
    (s.head? ≠ some ':' ∧ port = none) ∨
      ∃ digits, s = ':' :: (digits ++ rest) ∧ (∀ c ∈ digits, Text.isAsciiDigit c = true) ∧
        AtEnd true rest ∧ port = keptPort usual digits := by
  unfold splitPort at h
  split at h
  · rename_i text
    obtain ⟨⟨m, behind⟩, hread, h⟩ := bind_eq_ok.mp h
    obtain ⟨hbehind, hend, hm⟩ := readPort_eq_ok hread
    cases h
    have htext : text.takeWhile Text.isAsciiDigit ++ rest = text :=
      hbehind ▸ List.takeWhile_append_dropWhile
    -- the reader compares lengths to find out whether there were digits
    have hnone : text.length = rest.length ↔ text.takeWhile Text.isAsciiDigit = [] := by
      have hlength := congrArg List.length htext
      rw [List.length_append] at hlength
      rw [← List.length_eq_zero_iff]
      omega
    refine .inr ⟨text.takeWhile Text.isAsciiDigit, by rw [htext],
      fun c hc => List.mem_takeWhile_imp hc, hend, ?_⟩
    simp only [keptPort, hnone, hm]
    rfl
  · rename_i hcolon
    cases h
    refine .inl ⟨fun hhead => ?_, rfl⟩
    obtain ⟨t, ht⟩ := List.head?_eq_some_iff.mp hhead
    exact hcolon t ht

/-- **How an authority is parted.** Behind the user part stands a host alone, or a host, a colon and
the digits of a port, which the URL keeps unless there are none or they give the usual one. -/
theorem parts_of_readAuthority {scheme s : List Char} {url : Url}
    (h : readAuthority idna scheme s = .ok url) :
    (Host.IsWritten (afterLast '@' (authorityAt (isSpecial scheme) s)) ∧ url.port = none) ∨
      ∃ digits, SpellsDigits (authorityAt (isSpecial scheme) s) digits ∧
        url.port = keptPort (usualPort? scheme) digits := by
  obtain ⟨text, name, port, rest, ⟨_, huser⟩, -, hhost, hport, rfl⟩ := exists_of_readAuthority h
  generalize hspecial : isSpecial scheme = special at *
  -- the text behind the user part and the host at its front
  have hfront : afterLast '@' (authorityAt special s) = authorityAt special text := by
    obtain ⟨before, hbefore⟩ := Endpoint.exists_afterLast '@' (authorityAt special s)
    have hall : ∀ c ∈ afterLast '@' (authorityAt special s), endsAuthority special c = false := by
      intro c hc
      have hmem : c ∈ authorityAt special s := by
        rw [hbefore]
        exact List.mem_append_right _ hc
      exact endsAuthority_of_mem c hmem
    rw [text_of_afterUser huser, authorityAt_append hall (atEnd_behindAuthority s)]
  -- an accepted host was written as one, which is what makes its end certain
  have hwritten : Host.IsWritten (text.take (hostLength special false text)) := by
    split at hhost
    · exact Host.isWritten_of_readName hhost
    · exact Host.isWritten_of_readOpaque hhost
  have hinside : ∀ c ∈ text.take (hostLength special false text), endsAuthority special c = false :=
    endsAuthority_of_mem_host false text
  have hbehind : ∀ c ∈ (text.drop (hostLength special false text)).head?,
      c = ':' ∨ endsAuthority special c = true := head_behind_host false text
  have htext := List.take_append_drop (hostLength special false text) text
  generalize text.take (hostLength special false text) = host at *
  generalize text.drop (hostLength special false text) = behind at *
  subst htext
  rcases splitPort_cases hport with ⟨hcolon, rfl⟩ | ⟨digits, rfl, hdigits, hend, rfl⟩
  · have hatEnd : AtEnd special behind := by
      intro c hc
      refine (hbehind c hc).resolve_left ?_
      rintro rfl
      exact hcolon hc
    refine .inl ⟨?_, rfl⟩
    rw [hfront, authorityAt_append hinside hatEnd]
    exact hwritten
  · have hrest : host ++ ':' :: (digits ++ rest) =
        host ++ ':' :: (digits ++ authorityAt special rest) ++ behindAuthority special rest := by
      rw [List.append_assoc, List.cons_append, List.append_assoc, authorityAt_append_behindAuthority]
    refine .inr ⟨digits, ⟨host, authorityAt special rest, ?_, hwritten, hdigits,
      head_authorityAt hend⟩, rfl⟩
    rw [hfront, hrest, authorityAt_append
      (not_endsAuthority_of_port hinside hdigits endsAuthority_of_mem) (atEnd_behindAuthority rest)]

/-! ## No two ways to part an authority -/

section Unique

variable {special : Bool} {authority : List Char}
  (hauthority : ∀ c ∈ authority, endsAuthority special c = false)

include hauthority

/-- A host that stands at the front of what is behind the user part is the one that the reader
finds, as far as the authority reaches. -/
theorem hostLength_afterLast {host rest : List Char}
    (hparts : afterLast '@' authority = host ++ rest) (hhost : Host.IsWritten host)
    (hrest : ∀ c ∈ rest.head?, c = ':' ∨ endsAuthority special c = true) :
    hostLength special false (afterLast '@' authority) = host.length := by
  obtain ⟨before, hbefore⟩ := Endpoint.exists_afterLast '@' authority
  rw [hparts]
  refine hostLength_of_isWritten hhost (fun c hc => hauthority c ?_) hrest
  rw [hbefore, hparts]
  exact List.mem_append_right _ (List.mem_append_left _ hc)

/-- Where all of it is a host there is no port. -/
theorem not_spellsDigits_of_isWritten (h : Host.IsWritten (afterLast '@' authority))
    (digits : List Char) : ¬SpellsDigits authority digits := by
  rintro ⟨host, tail, hparts, hhost, -, -⟩
  -- the host would be the whole text, and shorter than it
  have hwhole := hostLength_afterLast hauthority (List.append_nil _).symm h nofun
  have hshort := hostLength_afterLast hauthority hparts hhost
    fun c hc => .inl (Option.some.inj hc).symm
  have hlength := congrArg List.length hparts
  rw [List.length_append, List.length_cons] at hlength
  omega

/-- **An authority spells the digits of one port at most.** Two ways to part it would have hosts of
one length, hence the same text behind them. -/
theorem digits_unique {digits digits' : List Char} (h : SpellsDigits authority digits)
    (h' : SpellsDigits authority digits') : digits = digits' := by
  have hfront : ∀ {ds tail : List Char}, (∀ c ∈ ds, Text.isAsciiDigit c = true) →
      (tail = [] ∨ tail.head? = some '\\') → (ds ++ tail).takeWhile Text.isAsciiDigit = ds := by
    intro ds tail hds htail
    have hstop : tail.takeWhile Text.isAsciiDigit = [] := by
      rcases htail with rfl | hhead
      · rfl
      · obtain ⟨t, rfl⟩ := List.head?_eq_some_iff.mp hhead
        rfl
    rw [List.takeWhile_append_of_pos hds, hstop, List.append_nil]
  obtain ⟨host, tail, hparts, hhost, hdigits, htail⟩ := h
  obtain ⟨host', tail', hparts', hhost', hdigits', htail'⟩ := h'
  have hlength := hostLength_afterLast hauthority hparts hhost
    fun c hc => .inl (Option.some.inj hc).symm
  have hlength' := hostLength_afterLast hauthority hparts' hhost'
    fun c hc => .inl (Option.some.inj hc).symm
  -- hosts of one length leave the same text behind them, and its first digits are told by it
  obtain ⟨-, hbehind⟩ := List.append_inj (hparts.symm.trans hparts') (hlength.symm.trans hlength')
  calc
    digits = (digits ++ tail).takeWhile Text.isAsciiDigit := (hfront hdigits htail).symm
    _ = (digits' ++ tail').takeWhile Text.isAsciiDigit := by rw [(List.cons.inj hbehind).2]
    _ = digits' := hfront hdigits' htail'

end Unique

/-! ## The port of a URL -/

/-- The port of `url` is the one that its authority spells, but for the usual one of its scheme. -/
def KeepsPort (url : Url) (authority : Option (List Char)) : Prop :=
  (∀ n, Spells authority n →
      url.port = if usualPort? url.scheme.toList = some n then none else some n) ∧
    ((∀ n, ¬Spells authority n) → url.port = none)

theorem keepsPort_of_none {url : Url} (hport : url.port = none) : url.KeepsPort none := by
  refine ⟨?_, fun _ => hport⟩
  rintro n ⟨a, ha, -⟩
  cases ha

/-- Spelling a port, for a text that has an authority. -/
theorem spells_some {a : List Char} {n : Nat} : Spells (some a) n ↔ SpellsPort a n := by
  constructor
  · rintro ⟨a', ha', h⟩
    cases ha'
    exact h
  · exact fun h => ⟨a, rfl, h⟩

/-- The port of a URL with an authority is the one that the authority spells. Where it is parted as
a host alone it spells none, and else it spells the digits that were found, and no others. -/
theorem keepsPort_of_readAuthority {scheme s : List Char} {url : Url}
    (h : readAuthority idna scheme s = .ok url) :
    url.KeepsPort (some (authorityAt (isSpecial scheme) s)) := by
  have hauthority : ∀ c ∈ authorityAt (isSpecial scheme) s,
      endsAuthority (isSpecial scheme) c = false := endsAuthority_of_mem
  have hscheme : url.scheme.toList = scheme := by
    rw [scheme_of_readAuthority h, String.toList_ofList]
  unfold KeepsPort
  simp only [spells_some, hscheme]
  -- no colon behind the host, or a colon and digits, maybe none of them
  rcases parts_of_readAuthority h with ⟨hwritten, hport⟩ | ⟨digits, hdigits, hport⟩
  · refine ⟨?_, fun _ => hport⟩
    rintro n ⟨digits, hdigits, -, -⟩
    exact absurd hdigits (not_spellsDigits_of_isWritten hauthority hwritten digits)
  · constructor
    · rintro n ⟨digits', hdigits', hsome, rfl⟩
      rw [hport, digits_unique hauthority hdigits hdigits', keptPort]
      simp only [hsome, false_or]
    · intro hnone
      have hempty : digits = [] :=
        Classical.byContradiction fun hsome => hnone _ ⟨digits, hdigits, hsome, rfl⟩
      rw [hport, keptPort, if_pos (.inl hempty)]

/-- Without backslashes the digits stand at the end. -/
theorem exists_host_of_spellsDigits {authority digits : List Char} (h : SpellsDigits authority digits)
    (hslash : '\\' ∉ authority) :
    ∃ host, afterLast '@' authority = host ++ ':' :: digits ∧ Host.IsWritten host ∧
      ∀ c ∈ digits, Text.isAsciiDigit c = true := by
  obtain ⟨host, tail, hparts, hhost, hdigits, htail⟩ := h
  obtain ⟨before, hbefore⟩ := Endpoint.exists_afterLast '@' authority
  -- only a backslash could stand behind the digits
  have hnone : tail = [] := by
    refine htail.resolve_right fun hhead => hslash ?_
    obtain ⟨t, rfl⟩ := List.head?_eq_some_iff.mp hhead
    rw [hbefore, hparts]
    exact List.mem_append_right _ (List.mem_append_right _
      (List.mem_cons_of_mem _ (List.mem_append_right _ List.mem_cons_self)))
  rw [hnone, List.append_nil] at hparts
  exact ⟨host, hparts, hhost, hdigits⟩

/-- The last digit of a port ends an authority that holds no backslash. This is how ports are told
from drives. -/
theorem exists_digit_of_spellsPort {authority : List Char} {n : Nat} (h : SpellsPort authority n)
    (hslash : '\\' ∉ authority) :
    ':' ∈ authority ∧ ∃ d, authority.getLast? = some d ∧ Text.isAsciiDigit d = true := by
  obtain ⟨digits, hspells, hsome, -⟩ := h
  obtain ⟨host, hparts, -, hdigits⟩ := exists_host_of_spellsDigits hspells hslash
  obtain ⟨before, hbefore⟩ := Endpoint.exists_afterLast '@' authority
  rw [hparts, ← List.append_assoc] at hbefore
  -- the digits are last in the authority, and there is one
  obtain ⟨front, d, rfl⟩ : ∃ front d, digits = front ++ [d] := by
    rcases List.eq_nil_or_concat digits with hnil | ⟨front, d, hconcat⟩
    · exact absurd hnil hsome
    · exact ⟨front, d, hconcat.trans List.concat_eq_append⟩
  rw [hbefore]
  refine ⟨List.mem_append_right _ List.mem_cons_self, d, ?_,
    hdigits d (List.mem_append_right _ List.mem_cons_self)⟩
  rw [← List.cons_append, ← List.append_assoc, List.getLast?_concat]

/-- A drive ends with a colon or a bar, so what ends with a digit is none. -/
theorem not_isDrive_of_digit {s : List Char} {d : Char} (hlast : s.getLast? = some d)
    (hd : Text.isAsciiDigit d = true) : Route.isDrive s = false := by
  match s with
  | [] | [_] | _ :: _ :: _ :: _ => rfl
  | [l, m] =>
    cases hlast
    have hcolon : m ≠ ':' ∧ m ≠ '|' := by
      constructor <;> rintro rfl <;> cases hd
    simp [Route.isDrive, hcolon]

/-- The name of a file's host spells no port: it is a drive, a name without colons, or an address
that ends with a bracket. -/
theorem not_spellsPort_of_fileHost {name : List Char} {host : Option String}
    (h : fileHost idna name = .ok host) (hslash : '\\' ∉ name) (n : Nat) : ¬SpellsPort name n := by
  intro hport
  obtain ⟨hcolon, d, hlast, hdigit⟩ := exists_digit_of_spellsPort hport hslash
  unfold fileHost at h
  split at h
  · -- a drive is no port: it ends in its colon or bar
    rename_i hnone
    rcases hnone with rfl | hdrive
    · cases hlast
    · rw [not_isDrive_of_digit hlast hdigit] at hdrive
      cases hdrive
  · obtain ⟨read, hread, -⟩ := map_eq_ok.mp h
    rcases Host.isWritten_of_readName hread with hplain | ⟨inner, rfl, -⟩
    · exact (hplain _ hcolon).1 rfl
    · rw [← List.cons_append, List.getLast?_concat] at hlast
      cases hlast
      cases hdigit

/-- Files have no ports, and no name of one is taken for a host and a port: a colon behind
the host makes the reading fail, unless it belongs to a drive, and a drive ends in no
digit. -/
theorem keepsPort_of_readFile {s : List Char} {url : Url} (h : readFile idna s = .ok url) :
    url.KeepsPort (fileAuthority? s) := by
  unfold readFile at h
  split at h
  · rename_i a b rest
    have hauthority : fileAuthority? (a :: b :: rest) =
        if (a == '/' || a == '\\') && (b == '/' || b == '\\') then some (authorityAt true rest)
        else none := rfl
    rw [hauthority]
    split at h
    · rename_i hslashes
      obtain ⟨host, hhost, h⟩ := bind_eq_ok.mp h
      cases h
      rw [if_pos hslashes]
      -- the authority of a file ends before a backslash
      have hslash : '\\' ∉ authorityAt true rest := fun hmem => by
        cases endsAuthority_of_mem _ hmem
      exact ⟨fun n hn => absurd (spells_some.mp hn) (not_spellsPort_of_fileHost hhost hslash n),
        fun _ => rfl⟩
    · rename_i hslashes
      cases h
      rw [if_neg hslashes]
      exact keepsPort_of_none rfl
  · rename_i hshort
    cases h
    have hauthority : fileAuthority? s = none := by
      unfold fileAuthority?
      split
      · exact absurd rfl (hshort _ _ _)
      · rfl
    rw [hauthority]
    exact keepsPort_of_none rfl

/-- Other schemes have an authority behind two slashes, or no port. Behind one slash or none
there is a path, and no digits in it are a port. -/
theorem keepsPort_of_readOther {scheme s : List Char} {url : Url} (hspecial : isSpecial scheme = false)
    (h : readOther idna scheme s = .ok url) : url.KeepsPort (otherAuthority? s) := by
  unfold readOther at h
  split at h
  · have hkeeps := keepsPort_of_readAuthority h
    rw [hspecial] at hkeeps
    exact hkeeps
  · rename_i rest hone
    cases h
    -- rest) = none := by :: one slash starts a path
    have hauthority : otherAuthority? ('/' :: rest) = none := by
      unfold otherAuthority?
      split
      · rename_i heq
        exact absurd (List.cons.inj heq).2 (hone _)
      · rfl
    rw [hauthority]
    exact keepsPort_of_none rfl
  · rename_i htwo hone
    cases h
    have hauthority : otherAuthority? s = none := by
      unfold otherAuthority?
      split
      · exact absurd rfl (hone _)
      · rfl
    rw [hauthority]
    exact keepsPort_of_none rfl

/-- The authority of a text, once its scheme is known. -/
theorem authority?_eq {value scheme rest : List Char}
    (h : splitScheme? (stripped value) = some (scheme, rest)) :
    authority? value =
      if isSpecial scheme then some (authorityAt true (rest.dropWhile isSlash))
      else if scheme = "file".toList then fileAuthority? rest
      else otherAuthority? rest := by
  unfold authority?
  rw [h]

/-- **The port of a URL** is the one that its text spells, but for the usual one of its scheme. One
of the three lemmas before for each kind of scheme. -/
theorem keepsPort_of_parse {value : String} {url : Url} (h : parse idna value = .ok url) :
    url.KeepsPort (authority? value.toList) := by
  unfold parse parseChars at h
  -- by the kind of scheme, as both the parser and `authority?` go
  split at h
  · cases h
  · rename_i scheme rest hsplit
    rw [authority?_eq hsplit]
    split at h
    · rename_i hspecial
      have hkeeps := keepsPort_of_readAuthority h
      rw [hspecial] at hkeeps
      rw [if_pos hspecial]
      exact hkeeps
    · rename_i hspecial
      rw [if_neg hspecial]
      split at h
      · rename_i hfile
        rw [if_pos hfile]
        exact keepsPort_of_readFile h
      · rename_i hfile
        rw [if_neg hfile]
        exact keepsPort_of_readOther (Bool.eq_false_iff.mpr hspecial) h

/-- Of the three kinds of URLs, those with a usual port have an authority in any case.
However many slashes are written behind the scheme, all of them are skipped. -/
theorem exists_of_parse_special {value : String} {url : Url} (h : parse idna value = .ok url)
    (hspecial : isSpecial url.scheme.toList = true) :
    ∃ scheme rest, splitScheme? (stripped value.toList) = some (scheme, rest) ∧
      isSpecial scheme = true ∧ readAuthority idna scheme (rest.dropWhile isSlash) = .ok url := by
  unfold parse parseChars at h
  split at h
  · cases h
  · rename_i scheme rest hsplit
    split at h
    · rename_i hs
      exact ⟨scheme, rest, hsplit, hs, h⟩
    · rename_i hs
      -- the other readers keep their scheme, which is not special
      exfalso
      split at h
      · rw [scheme_of_readFile h] at hspecial
        revert hspecial
        decide
      · rw [scheme_of_readOther h, String.toList_ofList] at hspecial
        exact hs hspecial

end Url

end LogCourier
