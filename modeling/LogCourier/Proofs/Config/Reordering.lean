import LogCourier.Proofs.Config.Fields

/-!
# The order of settings

Settings that change different fields may change places, and those that concern the other transport
may be left out: what counts is the order in which each single field is written.

* `Reorders R xs ys`: `ys` is `xs` in another order, in which any two items that `R` relates come as
  they come in `xs`. Items that are all related to each other keep their order
  (`Reorders.filter_eq`).
* `Setting.Nested`: the named settings, put into settings for one side to any depth. On a transport
  each is the change of one field or of none (`Nested.apply_setting`).
* `get_applyAll_filter`: a field is what the settings that write it make of it.
* `only_order_within_fields_counts` puts them together.
-/

namespace LogCourier

/-! ## Reorderings -/

/-- `ys` has the items of `xs` in an order in which those that `R` relates come as they come in
`xs`. The items of `ys` are given with their places in `xs`. -/
def Reorders {α : Type} (R : α → α → Prop) (xs ys : List α) : Prop :=
  ∃ zs : List (α × Nat), zs.Perm xs.zipIdx ∧ zs.map Prod.fst = ys ∧
    zs.Pairwise fun a b => R a.1 b.1 → a.2 < b.2

section Reorders

variable {α : Type} {R : α → α → Prop} {xs ys : List α}

theorem pairwise_zipIdx (xs : List α) : xs.zipIdx.Pairwise fun a b => a.2 < b.2 := by
  have hplaces : (xs.zipIdx.map Prod.snd).Pairwise (· < ·) := by
    rw [List.zipIdx_map_snd]
    exact List.pairwise_lt_range'
  exact List.pairwise_map.mp hplaces

/-- Items that are all related to each other are in the same order on both sides. Both are
sorted by the places that the items had at first, and a sorted list of the same items is
one. -/
theorem Reorders.filter_eq (h : Reorders R xs ys) {p : α → Bool}
    (hp : ∀ a b, p a = true → p b = true → R a b) : ys.filter p = xs.filter p := by
  obtain ⟨zs, hperm, rfl, horder⟩ := h
  have hplaced : zs.filter (p ∘ Prod.fst) = xs.zipIdx.filter (p ∘ Prod.fst) := by
    -- both are in the order of their places, and there is only one such order
    have hzs : (zs.filter (p ∘ Prod.fst)).Pairwise fun a b => a.2 < b.2 := by
      refine (horder.filter (p ∘ Prod.fst)).imp_of_mem fun ha hb hab => hab ?_
      exact hp _ _ (List.mem_filter.mp ha).2 (List.mem_filter.mp hb).2
    have hxs : (xs.zipIdx.filter (p ∘ Prod.fst)).Pairwise fun a b => a.2 < b.2 :=
      (pairwise_zipIdx xs).filter _
    refine (hperm.filter (p ∘ Prod.fst)).eq_of_pairwise ?_ hzs hxs
    intro a b _ _ hab hba
    exact absurd hba (Nat.lt_asymm hab)
  -- forgetting the places again leaves the items
  rw [List.filter_map, hplaced, ← List.filter_map, List.zipIdx_map_fst]

end Reorders

/-! ## Nested settings -/

namespace Setting

/-- A named setting, or settings put together for the sides: each side of `split`, and the inside of
`httpOnly` and `grpcOnly`, applies to the transport of that side. -/
inductive Nested where
  | named (s : Setting) (h : s.isNamed = true)
  | split (http grpc : Nested)
  | httpOnly (inner : Nested)
  | grpcOnly (inner : Nested)

namespace Nested

/-- The setting that stands for it. -/
def setting : Nested → Setting
  | named s _ => s
  | split http grpc => .split http.setting.applyHttp grpc.setting.applyGrpc
  | httpOnly inner => .httpOnly inner.setting.applyHttp
  | grpcOnly inner => .grpcOnly inner.setting.applyGrpc

/-- The change that it comes down to on a transport. -/
def change? (t : Transport) : Nested → Option Config.Change
  | named s _ => s.change? t
  | split http grpc =>
    match t with
    | .http => http.change? .http
    | .grpc => grpc.change? .grpc
  | httpOnly inner =>
    match t with
    | .http => inner.change? .http
    | .grpc => none
  | grpcOnly inner =>
    match t with
    | .http => none
    | .grpc => inner.change? .grpc

/-- The field that it writes on a transport. -/
def field? (t : Transport) (o : Nested) : Option Config.Field :=
  (o.change? t).map Config.Change.field

/-- It writes a given field. -/
def writes (t : Transport) (f : Config.Field) (o : Nested) : Bool :=
  o.field? t = some f

/-- It does something on a transport: the others are inert there. -/
def isActive (t : Transport) (o : Nested) : Bool :=
  (o.field? t).isSome

/-- Both write a field in common on a transport. -/
def SharesField (t : Transport) (o o' : Nested) : Prop :=
  ∃ f, o.field? t = some f ∧ o'.field? t = some f

/-- **A nested setting is a change of one field too, or of none.** Induction on the nesting:
what stands on the side of the other transport never comes into play. -/
theorem apply_setting (o : Nested) (t : Transport) (c : Config) :
    o.setting.apply t c = c.changed (o.change? t) := by
  induction o with
  | named s h => exact apply_eq_changed h t c
  -- each side is reached by its own transport only
  | split http grpc ihttp igrpc =>
    cases t with
    | http => exact ihttp
    | grpc => exact igrpc
  | httpOnly inner ih =>
    cases t with
    | http => exact ih
    | grpc => rfl
  | grpcOnly inner ih =>
    cases t with
    | http => rfl
    | grpc => exact ih

/-- And it can be seen to change that field, as the setting at its bottom can. For each
field there is a value that the change does not leave as it is. -/
theorem exists_make_ne {o : Nested} {t : Transport} {u : Config.Change}
    (h : o.change? t = some u) : ∃ v, u.make v ≠ v := by
  induction o with
  | named s hs => exact Setting.exists_make_ne h
  | split http grpc ihttp igrpc =>
    cases t with
    | http => exact ihttp h
    | grpc => exact igrpc h
  | httpOnly inner ih =>
    cases t with
    | http => exact ih h
    | grpc => cases h
  | grpcOnly inner ih =>
    cases t with
    | http => cases h
    | grpc => exact ih h

/-- **The field that a setting writes is the one that it can change.** A setting that writes
no field changes no configuration, and one that writes a field can change it and no other.
This ties the table of fields to what settings do, so that results about fields are results
about configurations. -/
theorem field?_eq_some_iff (o : Nested) (t : Transport) (f : Config.Field) :
    o.field? t = some f ↔ ∃ c : Config, (o.setting.apply t c).get f ≠ c.get f := by
  constructor
  · intro h
    obtain ⟨u, hu, rfl⟩ := Option.map_eq_some_iff.mp h
    -- a configuration that holds a value which the change does not leave as it is
    obtain ⟨v, hv⟩ := exists_make_ne hu
    refine ⟨(Config.initial t).modify u.field fun _ => v, ?_⟩
    rw [apply_setting, hu]
    show (Config.modify _ u.field u.make).get u.field ≠ _
    rw [Config.get_modify_self, Config.get_modify_self]
    exact hv
  · rintro ⟨c, hc⟩
    -- conversely, a field that is not its own would have been left alone
    by_contra hne
    rw [apply_setting, Config.get_changed_of_ne c hne] at hc
    exact hc rfl

theorem writes_iff {t : Transport} {f : Config.Field} {o : Nested} :
    o.writes t f = true ↔ o.field? t = some f :=
  decide_eq_true_iff

theorem isActive_of_writes {t : Transport} {f : Config.Field} {o : Nested}
    (h : o.writes t f = true) : o.isActive t = true := by
  rw [isActive, writes_iff.mp h]
  rfl

end Nested

/-! ## What a list of settings makes of a field -/

section Fields

variable (t : Transport) (f : Config.Field)

/-- **A field is what its writers make of it.** Settings that do not write it can be left
out, and the other fields of the configuration to start from can be any. Induction on the
list, for any two configurations that agree on the field. -/
theorem get_applyAll_filter (os : List Nested) {c c' : Config} (h : c.get f = c'.get f) :
    (applyAll t (os.map Nested.setting) c).get f =
      (applyAll t ((os.filter (·.writes t f)).map Nested.setting) c').get f := by
  induction os generalizing c c' with
  | nil => exact h
  | cons o rest ih =>
    -- a writer makes the same of the field on both sides; any other setting keeps it
    by_cases ho : o.writes t f
    · rw [List.filter_cons_of_pos ho]
      have hget : (o.setting.apply t c).get f = (o.setting.apply t c').get f := by
        rw [o.apply_setting, o.apply_setting]
        exact Config.get_changed_congr h _
      exact ih hget
    · rw [List.filter_cons_of_neg ho]
      refine ih (c := o.setting.apply t c) ?_
      rw [o.apply_setting, Config.get_changed_of_ne c (fun hf => ho (Nested.writes_iff.mpr hf)), h]

end Fields

end Setting

namespace Config

open Setting (Nested)

/-- The layers are two lists of settings, applied one after the other to the initial
configuration. -/
theorem layered_eq_applyAll (t : Transport) (env : Environment) (ss : List Setting) :
    layered t env ss = Setting.applyAll t ss (Setting.applyAll t env.settings (initial t)) :=
  List.foldl_append ..

theorem resolve_congr {t : Transport} {env : Environment} {ss ss' : List Setting}
    (h : layered t env ss = layered t env ss') : resolve t env ss = resolve t env ss' := by
  cases t with
  | http => exact congrArg withCleanPath h
  | grpc => exact congrArg withDialOptions h

/-- **Only the order within a field counts.** Two lists of settings resolve to the same
configuration if, without the settings that are inert on the transport, one is the other in an
order that keeps any two settings that write a field in common as they were. -/
theorem only_order_within_fields_counts (t : Transport) (env : Environment) (xs ys : List Nested)
    (h : Reorders (Nested.SharesField t) (xs.filter (·.isActive t)) (ys.filter (·.isActive t))) :
    resolve t env (xs.map Nested.setting) = resolve t env (ys.map Nested.setting) := by
  refine resolve_congr (eq_of_get fun f => ?_)
  rw [layered_eq_applyAll, layered_eq_applyAll, Setting.get_applyAll_filter t f xs rfl,
    Setting.get_applyAll_filter t f ys rfl]
  -- what writes the field is active, and any two of these share it
  have hwriters (os : List Nested) :
      os.filter (·.writes t f) = (os.filter (·.isActive t)).filter (·.writes t f) := by
    rw [List.filter_filter]
    refine List.filter_congr fun o _ => ?_
    cases ho : o.writes t f with
    | true => rw [Nested.isActive_of_writes ho]; rfl
    | false => rfl
  have hsame : (ys.filter (·.isActive t)).filter (·.writes t f) =
      (xs.filter (·.isActive t)).filter (·.writes t f) :=
    h.filter_eq fun a b ha hb => ⟨f, Nested.writes_iff.mp ha, Nested.writes_iff.mp hb⟩
  rw [hwriters xs, hwriters ys, hsame]

/-- Dial options around credentials that are written twice, once from the inside of other
settings. -/
def interleaved : List Nested :=
  [.named (.dialOption (.userAgent "first")) rfl,
    .grpcOnly (.split (.named .insecure rfl) (.named (.tls .systemRoots) rfl)),
    .httpOnly (.named .insecure rfl), .named (.grpcCredentials .insecure) rfl,
    .named (.dialOption (.userAgent "second")) rfl]

/-- The same with the dial options in front, and with another setting that is inert over gRPC. -/
def sortedOut : List Nested :=
  [.named (.dialOption (.userAgent "first")) rfl, .named (.dialOption (.userAgent "second")) rfl,
    .named (.httpClient ⟨7⟩) rfl,
    .grpcOnly (.split (.named .insecure rfl) (.named (.tls .systemRoots) rfl)),
    .named (.grpcCredentials .insecure) rfl]

/-- The two lists come in different orders over gRPC: the credentials are written in the
same order in both, and so are the dial options. -/
theorem interleaved_reorders :
    Reorders (Nested.SharesField .grpc) (interleaved.filter (·.isActive .grpc))
      (sortedOut.filter (·.isActive .grpc)) := by
  refine ⟨[(.named (.dialOption (.userAgent "first")) rfl, 0),
    (.named (.dialOption (.userAgent "second")) rfl, 3),
    (.grpcOnly (.split (.named .insecure rfl) (.named (.tls .systemRoots) rfl)), 1),
    (.named (.grpcCredentials .insecure) rfl, 2)], ?_, rfl, ?_⟩
  · exact (List.perm_append_singleton _ _).symm.cons _
  · -- only the second dial option has overtaken others, and these write credentials
    have hapart {s : Setting} (h : s.isNamed = true) {o : Nested} {places : Prop}
        (ho : o.field? .grpc = some .grpcCredentials)
        (hs : (s.change? .grpc).map Change.field = some .dialOptions) :
        Nested.SharesField .grpc (.named s h) o → places := by
      rintro ⟨f, hf, hf'⟩
      cases hs.symm.trans hf
      cases ho.symm.trans hf'
    simp only [List.pairwise_cons, List.mem_cons, List.not_mem_nil, or_false, forall_eq_or_imp,
      forall_eq, List.Pairwise.nil, and_true, false_imp_iff, implies_true]
    refine ⟨⟨fun _ => by decide, fun _ => by decide, fun _ => by decide⟩, ⟨?_, ?_⟩, fun _ => by decide⟩
    · exact hapart _ rfl rfl
    · exact hapart _ rfl rfl

theorem interleaved_settings_agree :
    Reorders (Nested.SharesField .grpc) (interleaved.filter (·.isActive .grpc))
        (sortedOut.filter (·.isActive .grpc)) ∧
      resolve .grpc mixedEnvironment (interleaved.map Nested.setting) =
        resolve .grpc mixedEnvironment (sortedOut.map Nested.setting) :=
  ⟨interleaved_reorders,
    only_order_within_fields_counts .grpc mixedEnvironment interleaved sortedOut interleaved_reorders⟩

end Config

end LogCourier
