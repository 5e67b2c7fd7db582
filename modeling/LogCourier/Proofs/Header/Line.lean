import LogCourier.Proofs.Config.Layers
import LogCourier.Proofs.Header
import LogCourier.Proofs.Text.Percent

/-!
# Headers on one line

Pairs of keys and values are written on one line in many ways: which of their characters are
escaped is mostly free, blanks may stand around entries and signs, and entries that give nothing
may stand anywhere. Every one of these lines is read as its pairs.

* `entry?_trim`, `pairsOf_trim`: blanks around an entry or a line do not matter.
* `Gives`, `Idle`, `Lists`: the ways to write an entry, and a line of them.
* `headers_of_line`: what a line is read as, and the headers that it configures.
-/

namespace LogCourier.Headers

open Text (IsBlanks isBlanks_nil)

/-! ## Entries -/

theorem ne_of_isBlanks {b : List Char} (h : IsBlanks b) {c : Char} (hc : Text.isBlank c = false) :
    c ∉ b := by
  intro hmem
  rw [h c hmem] at hc
  cases hc

theorem entry?_of_no_sign {e : List Char} (h : '=' ∉ e) : entry? e = none := by
  unfold entry?
  simp only [Text.takeWhile_ne_of_not_mem h, List.drop_length]

/-- An entry is parted at its first sign. -/
theorem entry?_of_sign {key : List Char} (h : '=' ∉ key) (value : List Char) :
    entry? (key ++ '=' :: value) =
      if unescaped (Text.trim key) = [] ∨ unescaped (Text.trim value) = [] then none
      else some (String.ofList (unescaped (Text.trim key)),
        String.ofList (unescaped (Text.trim value))) := by
  unfold entry?
  simp only [Text.takeWhile_ne_append h, List.drop_left]

/-- Blanks around an entry do not matter: they are around its key or its value then, and both are
trimmed. -/
theorem entry?_append {b₁ b₂ : List Char} (h₁ : IsBlanks b₁) (h₂ : IsBlanks b₂) (e : List Char) :
    entry? (b₁ ++ e ++ b₂) = entry? e := by
  have hsign₁ : '=' ∉ b₁ := ne_of_isBlanks h₁ rfl
  have hsign₂ : '=' ∉ b₂ := ne_of_isBlanks h₂ rfl
  -- the blanks around the entry end up around its key and around its value
  by_cases hmem : '=' ∈ e
  · obtain ⟨key, value, rfl, hkey⟩ := List.eq_append_cons_of_mem hmem
    have hkeys : Text.trim (b₁ ++ key) = Text.trim key := by
      rw [← Text.trim_append h₁ isBlanks_nil key, List.append_nil]
    have hvalues : Text.trim (value ++ b₂) = Text.trim value :=
      Text.trim_append isBlanks_nil h₂ value
    have hparts : b₁ ++ (key ++ '=' :: value) ++ b₂ = (b₁ ++ key) ++ '=' :: (value ++ b₂) := by
      simp only [List.append_assoc, List.cons_append]
    have hboth : '=' ∉ b₁ ++ key := fun h => (List.mem_append.mp h).elim hsign₁ hkey
    rw [hparts, entry?_of_sign hboth, entry?_of_sign hkey, hkeys, hvalues]
  · -- blanks bring no sign
    have hnone : '=' ∉ b₁ ++ e ++ b₂ := by
      rw [List.mem_append, List.mem_append]
      rintro ((h | h) | h)
      · exact hsign₁ h
      · exact hmem h
      · exact hsign₂ h
    rw [entry?_of_no_sign hmem, entry?_of_no_sign hnone]

/-- Trimming an entry before reading it changes nothing, since trimming takes off blanks only. -/
theorem entry?_trim (e : List Char) : entry? (Text.trim e) = entry? e := by
  obtain ⟨b₁, b₂, h₁, h₂, he⟩ := Text.exists_trim e
  calc
    entry? (Text.trim e) = entry? (b₁ ++ Text.trim e ++ b₂) := (entry?_append h₁ h₂ _).symm
    _ = entry? e := by rw [← he]

/-! ## Lines -/

/-- A line is read entry by entry. The trimming that comes before can be left out. -/
theorem pairsOf_eq (s : List Char) : pairsOf s = (s.splitOn ',').filterMap entry? := by
  unfold pairsOf
  simp only [entry?_trim]

theorem pairsOf_of_no_comma {e : List Char} (h : ',' ∉ e) : pairsOf e = [e].filterMap entry? := by
  rw [pairsOf_eq, List.splitOn_eq_singleton h]

/-- A comma parts a line into two lines that are read on their own. -/
theorem pairsOf_comma (s t : List Char) : pairsOf (s ++ ',' :: t) = pairsOf s ++ pairsOf t := by
  rw [pairsOf, List.splitOn_append_cons_self, List.filterMap_append]
  rfl

/-- A line that was joined from entries is read as the entries. A line of no entries is an empty
one, which gives nothing either. -/
theorem pairsOf_intercalate {es : List (List Char)} (h : ∀ e ∈ es, ',' ∉ e) :
    pairsOf (List.intercalate [','] es) = es.filterMap entry? := by
  by_cases hes : es = []
  · subst hes
    rfl
  · rw [pairsOf_eq, List.splitOn_intercalate ',' h hes]

/-- Blanks in front of a line belong to its first entry, where they do not matter. A line
without a comma is one entry, blanks and all. -/
theorem pairsOf_append_front {b : List Char} (h : IsBlanks b) (s : List Char) :
    pairsOf (b ++ s) = pairsOf s := by
  -- for a single entry first
  have hone : ∀ e, ',' ∉ e → pairsOf (b ++ e) = pairsOf e := by
    intro e he
    have hboth : ',' ∉ b ++ e := fun hmem => (List.mem_append.mp hmem).elim (ne_of_isBlanks h rfl) he
    have hentry : entry? (b ++ e) = entry? e := by
      rw [← entry?_append h isBlanks_nil e, List.append_nil]
    rw [pairsOf_of_no_comma hboth, pairsOf_of_no_comma he, List.filterMap_cons, List.filterMap_cons,
      hentry]
  by_cases hmem : ',' ∈ s
  · obtain ⟨e, t, rfl, he⟩ := List.eq_append_cons_of_mem hmem
    rw [← List.append_assoc, pairsOf_comma, hone e he, pairsOf_comma]
  · exact hone s hmem

/-- Blanks behind a line do not matter either. The recursion goes from entry to entry, to the last
one. -/
theorem pairsOf_append_end {b : List Char} (h : IsBlanks b) (s : List Char) :
    pairsOf (s ++ b) = pairsOf s := by
  -- the blanks belong to the last entry, so the entries before it are taken off one by one
  by_cases hmem : ',' ∈ s
  · obtain ⟨e, t, hs, -⟩ := List.eq_append_cons_of_mem hmem
    have hshorter : t.length < s.length := by
      rw [hs, List.length_append, List.length_cons]
      omega
    rw [hs, List.append_assoc, List.cons_append, pairsOf_comma, pairsOf_append_end h t,
      pairsOf_comma]
  · have hboth : ',' ∉ s ++ b :=
      fun hmem' => (List.mem_append.mp hmem').elim hmem (ne_of_isBlanks h rfl)
    have hentry : entry? (s ++ b) = entry? s := entry?_append isBlanks_nil h s
    rw [pairsOf_of_no_comma hboth, pairsOf_of_no_comma hmem, List.filterMap_cons,
      List.filterMap_cons, hentry]
termination_by s.length

/-- A line may be trimmed as a whole without changing what it is read as. -/
theorem pairsOf_trim (s : List Char) : pairsOf (Text.trim s) = pairsOf s := by
  obtain ⟨b₁, b₂, h₁, h₂, hs⟩ := Text.exists_trim s
  calc
    pairsOf (Text.trim s) = pairsOf (b₁ ++ (Text.trim s ++ b₂)) := by
      rw [pairsOf_append_front h₁, pairsOf_append_end h₂]
    _ = pairsOf s := by rw [← List.append_assoc, ← hs]

/-! ## The ways to write them -/

/-- What a value has to escape. -/
def escapesInValue (c : Char) : Bool :=
  c == '%' || c == ',' || Text.isBlank c

/-- What a key has to escape. -/
def escapesInKey (c : Char) : Bool :=
  c == '=' || escapesInValue c

/-- `e` gives a key a value. -/
inductive Gives : String × String → List Char → Prop
  | pair {key value : String} {k v b₁ b₂ b₃ b₄ : List Char} (hkey : key ≠ "") (hvalue : value ≠ "")
      (hk : Text.Percent.Spells escapesInKey key.toList k)
      (hv : Text.Percent.Spells escapesInValue value.toList v)
      (h₁ : IsBlanks b₁) (h₂ : IsBlanks b₂) (h₃ : IsBlanks b₃) (h₄ : IsBlanks b₄) :
      Gives (key, value) (b₁ ++ k ++ b₂ ++ '=' :: (b₃ ++ v ++ b₄))

/-- `e` gives nothing: it has no sign, no key or no value. -/
inductive Idle : List Char → Prop
  | noSign {e : List Char} (hcomma : ',' ∉ e) (hsign : '=' ∉ e) : Idle e
  | noKey {b v : List Char} (hb : IsBlanks b) (hcomma : ',' ∉ v) : Idle (b ++ '=' :: v)
  | noValue {k b : List Char} (hcomma : ',' ∉ k) (hsign : '=' ∉ k) (hb : IsBlanks b) :
      Idle (k ++ '=' :: b)

/-- The entries give the pairs in order, and nothing else. -/
inductive Lists : List (String × String) → List (List Char) → Prop
  | nil : Lists [] []
  | idle {pairs : List (String × String)} {e : List Char} {es : List (List Char)} (he : Idle e)
      (hrest : Lists pairs es) : Lists pairs (e :: es)
  | gives {p : String × String} {pairs : List (String × String)} {e : List Char}
      {es : List (List Char)} (he : Gives p e) (hrest : Lists pairs es) : Lists (p :: pairs) (e :: es)

section Reading

variable {must : Char → Bool} {s t : List Char}

/-- A spelling in which blanks are escaped is read as its text, with any blanks around it: trimming
takes those off and finds none of its own. -/
theorem unescaped_of_spells (hmark : must '%' = true)
    (hblank : ∀ c, Text.isBlank c = true → must c = true) (h : Text.Percent.Spells must s t)
    {b₁ b₂ : List Char} (h₁ : IsBlanks b₁) (h₂ : IsBlanks b₂) :
    unescaped (Text.trim (b₁ ++ t ++ b₂)) = s := by
  have hnone : ∀ c ∈ t, Text.isBlank c = false := by
    intro c hc
    cases hc' : Text.isBlank c with
    | false => rfl
    | true =>
      -- a blank that stands there unescaped would be neither mark nor digit
      have hne : c ≠ '%' := by
        rintro rfl
        cases hc'
      exact absurd hc (Text.Percent.not_mem_of_spells h (hblank c hc') hne
        (Text.digitValue?_of_isBlank hc'))
  rw [Text.trim_append h₁ h₂, Text.trim_eq_self hnone, unescaped,
    Text.Percent.decode?_of_spells hmark h]
  rfl

/-- Blanks alone are read as the empty text, which is no key and no value. -/
theorem unescaped_blanks {b : List Char} (h : IsBlanks b) : unescaped (Text.trim b) = [] := by
  have hnil : Text.Percent.decode? [] = some [] := Text.Utf8.decode?_encode []
  rw [Text.trim_blanks h, unescaped, hnil]
  rfl

end Reading

theorem toList_ne_nil {s : String} (h : s ≠ "") : s.toList ≠ [] :=
  fun hnil => h (String.toList_inj.mp hnil)

/-- **A way to write a pair is read as the pair**, and holds no comma. Signs in the key and commas
on both sides are escaped; so the entry is parted where it should be, and the line is not parted
inside it. -/
theorem entry?_of_gives {p : String × String} {e : List Char} (h : Gives p e) :
    entry? e = some p ∧ ',' ∉ e := by
  cases h with
  | @pair key value k v b₁ b₂ b₃ b₄ hkey hvalue hk hv h₁ h₂ h₃ h₄ =>
    -- blanks within a key or a value are written as escapes, so trimming stops at them
    have hblankKey : ∀ c, Text.isBlank c = true → escapesInKey c = true := by
      intro c hc
      simp [escapesInKey, escapesInValue, hc]
    have hblankValue : ∀ c, Text.isBlank c = true → escapesInValue c = true := by
      intro c hc
      simp [escapesInValue, hc]
    have hsign : '=' ∉ b₁ ++ k ++ b₂ := by
      have hk' : '=' ∉ k := Text.Percent.not_mem_of_spells hk rfl (by decide) rfl
      rw [List.mem_append, List.mem_append]
      rintro ((h | h) | h)
      · exact ne_of_isBlanks h₁ rfl h
      · exact hk' h
      · exact ne_of_isBlanks h₂ rfl h
    have hcomma : ∀ {b b' t : List Char}, IsBlanks b → IsBlanks b' → ',' ∉ t → ',' ∉ b ++ t ++ b' := by
      intro b b' t hb hb' ht
      rw [List.mem_append, List.mem_append]
      rintro ((h | h) | h)
      · exact ne_of_isBlanks hb rfl h
      · exact ht h
      · exact ne_of_isBlanks hb' rfl h
    constructor
    · -- a key escapes its signs, so the first sign is the one behind it
      rw [entry?_of_sign hsign, unescaped_of_spells rfl hblankKey hk h₁ h₂,
        unescaped_of_spells rfl hblankValue hv h₃ h₄, if_neg, String.ofList_toList,
        String.ofList_toList]
      exact fun h => h.elim (toList_ne_nil hkey) (toList_ne_nil hvalue)
    · -- neither part writes a comma out, and the sign between them is none
      have hk' := hcomma h₁ h₂ (Text.Percent.not_mem_of_spells hk rfl (by decide) rfl)
      have hv' := hcomma h₃ h₄ (Text.Percent.not_mem_of_spells hv rfl (by decide) rfl)
      intro hmem
      rcases List.mem_append.mp hmem with hmem | hmem
      · exact hk' hmem
      · exact (List.mem_cons.mp hmem).elim (by decide) hv'

/-- What gives nothing is read as nothing, and holds no comma either, so it stays one entry
when the line is cut at commas. -/
theorem entry?_of_idle {e : List Char} (h : Idle e) : entry? e = none ∧ ',' ∉ e := by
  cases h with
  | noSign hcomma hsign => exact ⟨entry?_of_no_sign hsign, hcomma⟩
  -- blanks are trimmed to nothing, and nothing is an empty key or value
  | @noKey b v hb hcomma =>
    refine ⟨?_, ?_⟩
    · rw [entry?_of_sign (ne_of_isBlanks hb rfl), unescaped_blanks hb, if_pos (.inl rfl)]
    · intro hmem
      rcases List.mem_append.mp hmem with hmem | hmem
      · exact ne_of_isBlanks hb rfl hmem
      · exact (List.mem_cons.mp hmem).elim (by decide) hcomma
  | @noValue k b hcomma hsign hb =>
    refine ⟨?_, ?_⟩
    · rw [entry?_of_sign hsign, unescaped_blanks hb, if_pos (.inr rfl)]
    · intro hmem
      rcases List.mem_append.mp hmem with hmem | hmem
      · exact hcomma hmem
      · exact (List.mem_cons.mp hmem).elim (by decide) (ne_of_isBlanks hb rfl)

/-- The entries of a line, read one by one, give the pairs. Induction on the list of
entries. That none holds a comma is what makes them the entries of the joined line. -/
theorem Lists.entries {pairs : List (String × String)} {es : List (List Char)}
    (h : Lists pairs es) : (∀ e ∈ es, ',' ∉ e) ∧ es.filterMap entry? = pairs := by
  induction h with
  | nil => exact ⟨nofun, rfl⟩
  | idle he _ ih =>
    obtain ⟨hentry, hcomma⟩ := entry?_of_idle he
    exact ⟨List.forall_mem_cons.mpr ⟨hcomma, ih.1⟩, by rw [List.filterMap_cons_none hentry, ih.2]⟩
  | gives he _ ih =>
    obtain ⟨hentry, hcomma⟩ := entry?_of_gives he
    exact ⟨List.forall_mem_cons.mpr ⟨hcomma, ih.1⟩, by rw [List.filterMap_cons_some hentry, ih.2]⟩

/-- Every list of pairs with keys and values can be written, whatever is escaped beside what has to
be. So the premise of the theorem below can be met for any headers. -/
theorem lists_encodeWhere {p q : Char → Bool} (hp : ∀ c, escapesInKey c = true → p c = true)
    (hq : ∀ c, escapesInValue c = true → q c = true) {pairs : List (String × String)}
    (h : ∀ x ∈ pairs, x.1 ≠ "" ∧ x.2 ≠ "") :
    Lists pairs (pairs.map fun x =>
      Text.Percent.encodeWhere p x.1.toList ++ '=' :: Text.Percent.encodeWhere q x.2.toList) := by
  induction pairs with
  | nil => exact .nil
  | cons x rest ih =>
    obtain ⟨hkey, hvalue⟩ := h x List.mem_cons_self
    have hgives := Gives.pair hkey hvalue (Text.Percent.spells_encodeWhere hp x.1.toList)
      (Text.Percent.spells_encodeWhere hq x.2.toList) isBlanks_nil isBlanks_nil isBlanks_nil
      isBlanks_nil
    rw [List.append_nil, List.append_nil] at hgives
    exact .gives hgives (ih fun y hy => h y (List.mem_cons_of_mem x hy))

/-! ## The headers of a configuration -/

/-- Without headers of the caller those of the environment are in force, in the order in which their
table is gone through. -/
theorem resolve_headers {t : Transport} {env : Environment} {ss : List Setting}
    (h : ∀ s ∈ ss, s.isNamed = true ∧ s.headers? = none) :
    (Config.resolve t env ss).headers.Perm
      (((env.value? .logs .headers <|> env.value? .shared .headers).map parse).getD []) := by
  obtain ⟨path, credentials, options, hresolve⟩ := Config.exists_resolve_eq t env ss
  -- the caller sets no headers and a fresh configuration has none: the environment decides
  have hcaller : lastOf Setting.headers? ss = none := lastOf_eq_none fun s hs => (h s hs).2
  have hinitial : (Config.initial t).headers = [] := by cases t <;> rfl
  have hlayered : (Config.layered t env ss).headers =
      (lastOf Setting.headers? ss <|> env.headers? .logs <|> env.headers? .shared).getD
        (Config.initial t).headers := by
    rw [← Config.headersKnob_rows t]
    exact (Config.headersKnob t).get_layered env fun s hs => (h s hs).1
  rw [hresolve, hlayered, hcaller, hinitial]
  unfold Environment.headers?
  -- the variable of the signal comes before the shared one, and either is stored in an
  -- order of its own
  cases env.value? .logs .headers with
  | some v => exact env.headerOrder.perm _
  | none =>
    cases env.value? .shared .headers with
    | some v => exact env.headerOrder.perm _
    | none => exact .nil

/-- A line of nothing but blanks is no line, and gives nothing either. Whether the variable counts
as set makes no difference to its pairs. -/
theorem parse_nonBlank? (line : List Char) :
    ((Text.nonBlank? (String.ofList line)).map parse).getD [] = ofPairs (pairsOf line) := by
  have hline : Text.trimmed (String.ofList line) = String.ofList (Text.trim line) := by
    rw [Text.trimmed, String.toList_ofList]
  simp only [Text.nonBlank?, hline]
  split
  · rename_i hempty
    have hnil : Text.trim line = [] := by simpa using hempty
    rw [← pairsOf_trim, hnil]
    rfl
  · rw [Option.map_some, Option.getD_some, parse, String.toList_ofList, pairsOf_trim]

/-- **Headers survive being written on one line.** A line of entries that give some pairs, in any
spelling and with any entries between them that give nothing, is read as these pairs in order.
Where it is the variable in force and the caller gives no headers, each key has the value of its
last pair, once. -/
theorem headers_of_line {pairs : List (String × String)} {es : List (List Char)}
    (h : Lists pairs es) :
    pairsOf (List.intercalate [','] es) = pairs ∧
      ∀ (t : Transport) (env : Environment) (ss : List Setting),
        (∀ s ∈ ss, s.isNamed = true ∧ s.headers? = none) →
        (env.value? .logs .headers <|> env.value? .shared .headers) =
          Text.nonBlank? (String.ofList (List.intercalate [','] es)) →
        ((Config.resolve t env ss).headers.map (·.1)).Nodup ∧
          ∀ key, (Config.resolve t env ss).headers.lookup key =
            ((pairs.filter (·.1 = key)).map (·.2)).getLast? := by
  obtain ⟨hcommas, hentries⟩ := h.entries
  have hpairs : pairsOf (List.intercalate [','] es) = pairs :=
    (pairsOf_intercalate hcommas).trans hentries
  refine ⟨hpairs, fun t env ss hss henv => ?_⟩
  have hheaders : (Config.resolve t env ss).headers.Perm (ofPairs pairs) := by
    rw [← hpairs, ← parse_nonBlank?, ← henv]
    exact resolve_headers hss
  -- without repeated keys the order in store does not matter to a lookup
  have hnodup : ((Config.resolve t env ss).headers.map (·.1)).Nodup :=
    (hheaders.map (·.1)).nodup_iff.mpr (keys_nodup_ofPairs pairs)
  refine ⟨hnodup, fun key => ?_⟩
  rw [lookup_eq_of_perm hheaders hnodup, lookup_ofPairs, lastOf_value?]

/-- Entries for two keys, one of them twice, between entries that give nothing. -/
def sampleEntries : List (List Char) :=
  [" api%2Dkey = a%20b ", "", "idle", " = x", "%c3%A9=1%2C2", "api-key==", "k= "].map String.toList

def sampleLine : String :=
  " api%2Dkey = a%20b ,,idle, = x,%c3%A9=1%2C2,api-key==,k= "

/-- The sample entries give their pairs, each in another way of being written: with more
escapes than needed, in small and capital digits, with a sign within the value. Between them
stand entries that give nothing. -/
theorem lists_sample :
    Lists [("api-key", "a b"), ("é", "1,2"), ("api-key", "=")] sampleEntries := by
  -- a writer may escape more than it has to, here the dash
  have hdash : ∀ c, escapesInKey c = true → (escapesInKey c || c == '-') = true := by
    intro c hc
    rw [hc]
    rfl
  have hkey : Text.Percent.Spells escapesInKey "api-key".toList "api%2Dkey".toList :=
    Text.Percent.spells_encodeWhere hdash "api-key".toList
  have hvalue : Text.Percent.Spells escapesInValue "a b".toList "a%20b".toList :=
    Text.Percent.spells_encodeWhere (fun _ hc => hc) "a b".toList
  have hbytes : Text.Percent.IsEscaped (String.utf8EncodeChar 'é') "%c3%A9".toList :=
    .cons rfl rfl (.cons rfl rfl .nil)
  have hletter : Text.Percent.Spells escapesInKey "é".toList "%c3%A9".toList := .escaped hbytes .nil
  have hblank : IsBlanks [' '] := by decide
  have hfirst : Gives ("api-key", "a b") " api%2Dkey = a%20b ".toList :=
    .pair (by decide) (by decide) hkey hvalue hblank hblank hblank hblank
  have hsecond : Gives ("é", "1,2") "%c3%A9=1%2C2".toList :=
    .pair (by decide) (by decide) hletter
      (Text.Percent.spells_encodeWhere (fun _ hc => hc) "1,2".toList) isBlanks_nil isBlanks_nil
      isBlanks_nil isBlanks_nil
  have hthird : Gives ("api-key", "=") "api-key==".toList :=
    .pair (by decide) (by decide) (Text.Percent.spells_encodeWhere (fun _ hc => hc) "api-key".toList)
      (Text.Percent.spells_encodeWhere (fun _ hc => hc) "=".toList) isBlanks_nil isBlanks_nil
      isBlanks_nil isBlanks_nil
  -- entries without a sign, without a key or without a value give nothing
  have hempty : Idle [] := .noSign (by decide) (by decide)
  have hidle : Idle "idle".toList := .noSign (by decide) (by decide)
  have hnoKey : Idle " = x".toList := .noKey hblank (by decide)
  have hnoValue : Idle "k= ".toList := .noValue (k := ['k']) (by decide) (by decide) hblank
  exact .gives hfirst (.idle hempty (.idle hidle (.idle hnoKey (.gives hsecond (.gives hthird
    (.idle hnoValue .nil))))))

theorem line_of_two_keys :
    Lists [("api-key", "a b"), ("é", "1,2"), ("api-key", "=")] sampleEntries ∧
      List.intercalate [','] sampleEntries = sampleLine.toList ∧
      pairsOf sampleLine.toList = [("api-key", "a b"), ("é", "1,2"), ("api-key", "=")] ∧
      (Config.resolve .http (.ofVariables [("OTEL_EXPORTER_OTLP_HEADERS", sampleLine)])
        [.secure]).headers.lookup "api-key" = some "=" := by
  have hline : List.intercalate [','] sampleEntries = sampleLine.toList := by decide
  -- the variable holds the line, blanks and all
  have henv : ((Environment.ofVariables [("OTEL_EXPORTER_OTLP_HEADERS", sampleLine)]).value? .logs
      .headers <|> (Environment.ofVariables [("OTEL_EXPORTER_OTLP_HEADERS", sampleLine)]).value?
      .shared .headers) = Text.nonBlank? (String.ofList (List.intercalate [','] sampleEntries)) := by
    decide +kernel
  have hss : ∀ s ∈ [Setting.secure], s.isNamed = true ∧ s.headers? = none := by
    intro s hs
    rw [List.mem_singleton.mp hs]
    exact ⟨rfl, rfl⟩
  obtain ⟨hpairs, hresolved⟩ := headers_of_line lists_sample
  refine ⟨lists_sample, hline, hline ▸ hpairs, ?_⟩
  obtain ⟨-, hlookup⟩ := hresolved .http _ [.secure] hss henv
  rw [hlookup]
  decide

end LogCourier.Headers
