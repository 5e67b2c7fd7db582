import LogCourier.Header
import LogCourier.Proofs.LastWriter
import Mathlib.Data.List.Nodup

/-!
# The values of a name

What a request says under a name are the values of all fields with that name. Setting a field
leaves one value under its own name and touches no other, so after any number of fields the last one
with a name counts.

* `values_insert`: the law for one field.
* `values_foldl_insert`: the law for a list of fields.
* `Headers.lookup_ofPairs`: the law for configured headers.
* `Headers.length_values_fields_le_one`: configured headers without names that differ in case
  alone give a name one value at most.
-/

namespace LogCourier

namespace Header

/-- The values of the fields with a name, in order. -/
def values (fields : List Field) (name : String) : List String :=
  (fields.filter (·.name == name)).map (·.value)

section Values

variable (fields : List Field) (name : String)

theorem values_cons (f : Field) :
    values (f :: fields) name =
      if f.name = name then f.value :: values fields name else values fields name := by
  unfold values
  split <;> simp [*]

theorem values_append (gs : List Field) :
    values (fields ++ gs) name = values fields name ++ values gs name := by
  unfold values
  rw [List.filter_append, List.map_append]

theorem values_eq_nil {fields : List Field} {name : String} (h : ∀ f ∈ fields, f.name ≠ name) :
    values fields name = [] := by
  unfold values
  rw [List.filter_eq_nil_iff.mpr fun f hf => by simpa using h f hf]
  rfl

/-- A field takes the place of those of its name, and leaves the other names alone. All that is
shown about fields set over one another follows from this law. -/
theorem values_insert (f : Field) :
    values (insert fields f) name = if f.name = name then [f.value] else values fields name := by
  unfold insert
  rw [values_append, values_cons]
  unfold values
  rw [List.filter_filter]
  by_cases h : f.name = name
  · subst h
    -- of the old fields none is left under the name
    have hothers : fields.filter (fun g => g.name == f.name && g.name != f.name) = [] := by
      refine List.filter_eq_nil_iff.mpr fun g _ => ?_
      simp
    rw [if_pos rfl, if_pos rfl, hothers]
    rfl
  · have hothers : (fun g : Field => g.name == name && g.name != f.name) = (·.name == name) := by
      funext g
      by_cases hg : g.name = name
      · simp [hg, Ne.symm h]
      · simp [hg]
    rw [if_neg h, if_neg h, hothers]
    exact List.append_nil _

/-- Fields that are left out by their names take no values from other names. -/
theorem values_filter_name {name : String} {p : String → Bool} (h : p name = true) :
    values (fields.filter fun f => p f.name) name = values fields name := by
  unfold values
  rw [List.filter_filter]
  congr 2
  funext f
  by_cases hf : f.name = name
  · simp [hf, h]
  · simp [hf]

/-- Removing other names does not change what is said under this one. Induction on the names that
go. -/
theorem values_foldl_remove {name : String} {gone : List String} (h : name ∉ gone) :
    values (gone.foldl remove fields) name = values fields name := by
  induction gone generalizing fields with
  | nil => rfl
  | cons g rest ih =>
    obtain ⟨hne, hrest⟩ := not_or.mp (mt List.mem_cons.mpr h)
    rw [List.foldl_cons, ih _ hrest]
    exact values_filter_name fields (p := (· != g)) (bne_iff_ne.mpr hne)

/-- The field that is found under a name has the first of the values. -/
theorem find?_eq_head? : find? fields name = (values fields name).head? := by
  unfold find? values
  rw [List.head?_map, List.head?_filter]

/-- What a field leaves under a name. -/
def leaves? (name : String) (f : Field) : Option (List String) :=
  if f.name = name then some [f.value] else none

/-- The last field with a name leaves its value, as in any list of writers. -/
theorem lastOf_leaves? (gs : List Field) :
    lastOf (leaves? name) gs = (values gs name).getLast?.map ([·]) := by
  induction gs with
  | nil => rfl
  | cons g rest ih =>
    rw [lastOf_cons, ih, values_cons, leaves?]
    split
    · rw [List.getLast?_cons]
      cases (values rest name).getLast? <;> rfl
    · cases (values rest name).getLast? <;> rfl

/-- **Of many fields the last with a name counts**, and without one nothing changes. It is the law
of last writers, with `values_insert` as its premise for one step. -/
theorem values_foldl_insert (gs : List Field) :
    values (gs.foldl insert fields) name =
      ((values gs name).getLast?.map ([·])).getD (values fields name) := by
  let get (fs : List Field) : List String := values fs name
  have hstep : ∀ g ∈ gs, ∀ fs, get (insert fs g) = (leaves? name g).getD (get fs) := by
    intro g _ fs
    show values (insert fs g) name = (leaves? name g).getD (values fs name)
    rw [values_insert, leaves?]
    split <;> rfl
  rw [← lastOf_leaves?]
  exact get_foldl hstep fields

end Values

end Header

namespace Headers

/-! ## The last pair with a key counts -/

/-- What a pair says about a key. -/
def value? (key : String) (p : String × String) : Option String :=
  if p.1 = key then some p.2 else none

/-- The last pair with a key, said with a filter instead of writers. This is how a list of
pairs is spoken of outside, where nobody knows how tables are filled. -/
theorem lastOf_value? (key : String) (pairs : List (String × String)) :
    lastOf (value? key) pairs = ((pairs.filter (·.1 = key)).map (·.2)).getLast? := by
  unfold lastOf
  congr 1
  induction pairs with
  | nil => rfl
  | cons p rest ih =>
    rw [List.filterMap_cons, List.filter_cons, ih, value?]
    by_cases hp : p.1 = key
    · simp only [hp, if_true, decide_true, List.map_cons]
    · simp only [hp, if_false, decide_false, Bool.false_eq_true]

/-- Putting a pair into a table changes what is found under its key and nothing else. Induction on
the table, along the search for the key. -/
theorem lookup_put (key value : String) (h : Headers) (k : String) :
    (h.put key value).lookup k = (value? k (key, value) <|> h.lookup k) := by
  unfold value?
  induction h with
  | nil =>
    -- the key was not there, so the pair comes at the end
    show List.lookup k [(key, value)] = _
    rw [List.lookup_cons, List.lookup_nil]
    by_cases hk : key = k
    · rw [if_pos hk, hk, beq_self_eq_true]
      rfl
    · rw [if_neg hk, beq_eq_false_iff_ne.mpr (Ne.symm hk)]
      rfl
  | cons p rest ih =>
    obtain ⟨k', v'⟩ := p
    show List.lookup k (if k' = key then (key, value) :: rest else (k', v') :: put key value rest) = _
    -- the pair with the key gives way to the new one
    by_cases hk' : k' = key
    · subst hk'
      rw [if_pos rfl, List.lookup_cons, List.lookup_cons]
      by_cases hk : k' = k
      · rw [hk, beq_self_eq_true, if_pos rfl]
        rfl
      · rw [if_neg hk, beq_eq_false_iff_ne.mpr (Ne.symm hk)]
        rfl
    · rw [if_neg hk', List.lookup_cons, List.lookup_cons, ih]
      by_cases hk : k = k'
      · -- the key of this pair is the one asked for, so it is not the one that is put
        rw [if_neg fun heq => hk' (hk.symm.trans heq.symm), hk, beq_self_eq_true]
        rfl
      · rw [beq_eq_false_iff_ne.mpr hk]

/-- **Of the pairs with a key the last one counts.** The table is a fold over the pairs, so this is
the law of last writers once more. -/
theorem lookup_ofPairs (pairs : List (String × String)) (key : String) :
    (ofPairs pairs).lookup key = lastOf (value? key) pairs :=
  get_foldl_optional (fun h : Headers => h.lookup key) (fun p h => lookup_put p.1 p.2 h key) pairs rfl

/-- Putting a pair adds no other key than its own. The key of a pair that is replaced stays
where it was. -/
theorem mem_keys_put {key value k : String} {h : Headers} (hk : k ∈ (h.put key value).map (·.1)) :
    k = key ∨ k ∈ h.map (·.1) := by
  induction h with
  | nil => exact .inl (List.mem_singleton.mp hk)
  | cons p rest ih =>
    obtain ⟨k', v'⟩ := p
    unfold put at hk
    split at hk
    · -- the key was there, and its value alone is replaced
      rename_i heq
      rw [heq]
      exact .inr hk
    · rcases List.mem_cons.mp hk with rfl | hk
      · exact .inr List.mem_cons_self
      · exact (ih hk).imp_right (List.mem_cons_of_mem _)

/-- Putting a pair keeps the keys different: it takes the place of its key, or comes behind all
others. -/
theorem keys_nodup_put {key value : String} {h : Headers} (hnodup : (h.map (·.1)).Nodup) :
    ((h.put key value).map (·.1)).Nodup := by
  induction h with
  | nil => exact List.nodup_singleton key
  | cons p rest ih =>
    obtain ⟨k', v'⟩ := p
    obtain ⟨hnot, hrest⟩ := List.nodup_cons.mp hnodup
    unfold put
    split
    · rename_i heq
      rw [heq] at hnodup
      exact hnodup
    · rename_i hne
      -- a key that appears in the rest was there or is the one put, and the head is neither
      refine List.nodup_cons.mpr ⟨fun hmem => ?_, ih hrest⟩
      exact (mem_keys_put hmem).elim hne hnot

theorem keys_nodup_ofPairs (pairs : List (String × String)) :
    ((ofPairs pairs).map (·.1)).Nodup := by
  let Unique (h : Headers) : Prop := (h.map (·.1)).Nodup
  have hnil : Unique [] := List.nodup_nil
  exact List.foldlRecOn (motive := Unique) pairs _ hnil fun h hnodup p _ => keys_nodup_put hnodup

/-- Where each key stands once, it does not matter in which order a table is gone through. Induction
on the permutation. -/
theorem lookup_eq_of_perm {h h' : Headers} (hperm : h.Perm h') (hkeys : (h.map (·.1)).Nodup)
    (key : String) : h.lookup key = h'.lookup key := by
  induction hperm with
  | nil => rfl
  | cons p _ ih => rw [List.lookup_cons, List.lookup_cons, ih (List.nodup_cons.mp hkeys).2]
  | swap p q rest =>
    -- of two pairs that change places at most one has the key
    have hne : q.1 ≠ p.1 := fun heq =>
      (List.nodup_cons.mp hkeys).1 (List.mem_cons.mpr (.inl heq))
    obtain ⟨k, v⟩ := p
    obtain ⟨k', v'⟩ := q
    simp only [List.lookup_cons]
    by_cases hk : key = k'
    · rw [hk, beq_self_eq_true, beq_eq_false_iff_ne.mpr hne]
    · rw [beq_eq_false_iff_ne.mpr hk]
  | trans hfirst _ ih ih' =>
    exact (ih hkeys).trans (ih' ((hfirst.map _).nodup_iff.mp hkeys))

/-! ## Names that differ -/

/-- No two keys are the same name in different letter case. -/
def Distinct (h : Headers) : Prop :=
  (h.map fun p => Text.asciiLowered p.1).Nodup

instance (h : Headers) : Decidable h.Distinct :=
  inferInstanceAs (Decidable (List.Nodup _))

/-- A field has the key's name in lower case. -/
theorem name_of_field? {key value : String} {f : Header.Field}
    (h : Header.field? key value = some f) : f.name = Text.asciiLowered key := by
  unfold Header.field? at h
  split at h
  · cases h
    rfl
  · cases h

/-- Every name comes from a key, and in the order of the keys. Some keys give no name, if their pair
cannot be sent. -/
theorem names_sublist (h : Headers) :
    (h.fields.map (·.name)).Sublist (h.map fun p => Text.asciiLowered p.1) := by
  unfold fields
  induction h with
  | nil => exact .slnil
  | cons p rest ih =>
    obtain ⟨key, value⟩ := p
    -- a pair that no request can carry has a key and no name
    cases hfield : Header.field? key value with
    | none =>
      simp only [List.filterMap_cons, hfield]
      exact ih.cons _
    | some f =>
      simp only [List.filterMap_cons, hfield, List.map_cons, name_of_field? hfield]
      exact ih.cons_cons _

/-- Keys that are different names give a name one value at most. Names are compared in lower
case, so two keys that differ in case alone would give two. -/
theorem length_values_fields_le_one {h : Headers} (hd : h.Distinct) (name : String) :
    (Header.values h.fields name).length ≤ 1 := by
  have hnames : (h.fields.map (·.name)).Nodup := hd.sublist h.names_sublist
  have hcount : (h.fields.map (·.name)).count name ≤ 1 := List.nodup_iff_count_le_one.mp hnames name
  have hlength : (Header.values h.fields name).length = (h.fields.map (·.name)).count name := by
    unfold Header.values
    rw [List.length_map, ← List.countP_eq_length_filter, List.count, List.countP_map]
    rfl
  omega

theorem values_fields_cases {h : Headers} (hd : h.Distinct) (name : String) :
    Header.values h.fields name = [] ∨ ∃ v, Header.values h.fields name = [v] := by
  have hlength := length_values_fields_le_one hd name
  match hvalues : Header.values h.fields name, hlength with
  | [], _ => exact .inl rfl
  | [v], _ => exact .inr ⟨v, rfl⟩

end Headers

end LogCourier
