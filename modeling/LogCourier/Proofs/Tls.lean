import LogCourier.Proofs.Checked
import LogCourier.Tls

/-!
# What loaded security holds

Roots and identities exist only where their files have been looked through, and loading is the
way to make them: it gives a value for exactly the files that hold what is asked for, and the
value is these files, unchanged.

* `Pem.certificates_cases`, `Pem.privateKey?_cases`: what reading a file says about what it holds.
* `TlsSettings.toOption_loadRoots`, `ClientIdentity.toOption_load`: loading as a choice between a
  value and none, with `TrustRoots.of?_eq_some` and `ClientIdentity.of?_eq_some` for the value.
-/

namespace LogCourier

/-! ## What a file holds -/

namespace Pem

/-- Reading a file for certificates comes to a fault, to nothing or to a first certificate, and
the file holds one in the last case only. -/
theorem certificates_cases (file : Bytes) :
    (∃ f, certificates file = .error f ∧ holdsCertificate file = false) ∨
      (certificates file = .ok [] ∧ holdsCertificate file = false) ∨
      ∃ c cs, certificates file = .ok (c :: cs) ∧ holdsCertificate file = true := by
  simp only [certificates, holdsCertificate]
  cases (scan file).fault with
  | some f => exact .inl ⟨f, rfl, rfl⟩
  | none =>
    -- the certificates are filtered out, so there is one if any item is one
    cases hfound : (scan file).items.filter (·.kind = .certificate) with
    | nil =>
      have hany : (scan file).items.any (·.kind = .certificate) = false :=
        List.any_eq_false.mpr (List.filter_eq_nil_iff.mp hfound)
      exact .inr (.inl ⟨rfl, hany⟩)
    | cons item rest =>
      have hmem : item ∈ (scan file).items.filter (·.kind = .certificate) :=
        hfound ▸ List.mem_cons_self
      have hany : (scan file).items.any (·.kind = .certificate) = true :=
        List.any_eq_true.mpr ⟨item, List.mem_filter.mp hmem⟩
      exact .inr (.inr ⟨item.content, rest.map (·.content), rfl, hany⟩)

/-- The same for private keys, which a fault behind them does not spoil: the file is searched for
the first key, and only where there is none does its fault count. -/
theorem privateKey?_cases (file : Bytes) :
    (∃ f, privateKey? file = .error f ∧ holdsPrivateKey file = false) ∨
      (privateKey? file = .ok none ∧ holdsPrivateKey file = false) ∨
      ∃ k, privateKey? file = .ok (some k) ∧ holdsPrivateKey file = true := by
  simp only [privateKey?, holdsPrivateKey]
  cases hfound : (scan file).items.find? (·.kind.isPrivateKey) with
  | some k =>
    have hkind : k.kind.isPrivateKey = true := by simpa using List.find?_some hfound
    have hany : (scan file).items.any (·.kind.isPrivateKey) = true :=
      List.any_eq_true.mpr ⟨k, List.mem_of_find?_eq_some hfound, hkind⟩
    exact .inr (.inr ⟨k, rfl, hany⟩)
  | none =>
    -- no key was found, so none is there
    have hany : (scan file).items.any (·.kind.isPrivateKey) = false :=
      List.any_eq_false.mpr (List.find?_eq_none.mp hfound)
    cases (scan file).fault with
    | some f => exact .inl ⟨f, rfl, hany⟩
    | none => exact .inr (.inl ⟨rfl, hany⟩)

/-- A file with one section. -/
def ofSection (label content : String) : Bytes :=
  Text.Utf8.ofString ("-----BEGIN " ++ label ++ "-----\n" ++ content ++ "\n-----END " ++ label
    ++ "-----\n")

/-- The sample certificate is one. Reading the file is left to the kernel: it is a closed
computation. -/
theorem holdsCertificate_ofSection : holdsCertificate (ofSection "CERTIFICATE" "AAAA") = true := by
  decide +kernel

theorem holdsPrivateKey_ofSection : holdsPrivateKey (ofSection "PRIVATE KEY" "AAAA") = true := by
  decide +kernel

end Pem

/-! ## Roots -/

namespace TrustRoots

/-- The roots in a file, if it holds a certificate. -/
def of? (file : Bytes) : Option TrustRoots :=
  if h : Pem.holdsCertificate file = true then some ⟨file, h⟩ else none

/-- Roots are their file, unchanged: there is one value of `TrustRoots` for a file that holds a
certificate, and none for another file. -/
theorem of?_eq_some {file : Bytes} {r : TrustRoots} : of? file = some r ↔ r.file = file := by
  unfold of?
  constructor
  · intro h
    split at h
    · cases h
      rfl
    · cases h
  · rintro rfl
    exact dif_pos r.hasCertificate

/-- Roots to stand for any others. -/
def sample : TrustRoots :=
  ⟨Pem.ofSection "CERTIFICATE" "AAAA", Pem.holdsCertificate_ofSection⟩

end TrustRoots

namespace TlsSettings

/-- **Loading roots is choosing them**: whatever the reason of a failure is, loading succeeds
exactly for the files that hold a certificate. -/
theorem toOption_loadRoots (file : Bytes) : (loadRoots file).toOption = TrustRoots.of? file := by
  unfold loadRoots TrustRoots.of?
  -- a fault, a file without a certificate, and one with a first certificate
  rcases Pem.certificates_cases file with ⟨f, hload, hheld⟩ | ⟨hload, hheld⟩ | ⟨c, cs, hload, hheld⟩ <;>
    simp only [hload, hheld] <;> rfl

/-- Settings are not empty if either part of them was loaded. -/
theorem isEmpty_eq_false {t : TlsSettings} :
    t.isEmpty = false ↔ t.roots.isSome ∨ t.clientIdentity.isSome := by
  obtain ⟨roots, identity⟩ := t
  cases roots <;> cases identity <;> simp [isEmpty]

end TlsSettings

/-! ## Identities -/

namespace ClientIdentity

/-- The identity of two files, if they hold a certificate and a key. -/
def of? (certificate key : Bytes) : Option ClientIdentity :=
  if h : Pem.holdsCertificate certificate = true ∧ Pem.holdsPrivateKey key = true then
    some ⟨certificate, key, h.1, h.2⟩
  else none

/-- An identity is its two files, unchanged. -/
theorem of?_eq_some {certificate key : Bytes} {i : ClientIdentity} :
    of? certificate key = some i ↔ i.certificate = certificate ∧ i.key = key := by
  unfold of?
  constructor
  · intro h
    split at h
    · cases h
      exact ⟨rfl, rfl⟩
    · cases h
  · rintro ⟨rfl, rfl⟩
    exact dif_pos ⟨i.hasCertificate, i.hasKey⟩

/-- **Loading an identity is choosing it**: it succeeds exactly if the one file holds a certificate
and the other a key, whatever else is in them. -/
theorem toOption_load (certificate key : Bytes) :
    (load certificate key).toOption = of? certificate key := by
  unfold load of?
  -- the key is looked at only if the certificate is good
  rcases Pem.certificates_cases certificate with
    ⟨f, hload, hheld⟩ | ⟨hload, hheld⟩ | ⟨c, cs, hload, hheld⟩
  · -- a certificate file that is at fault decides alone
    simp only [hload, hheld]
    rfl
  · simp only [hload, hheld]
    rfl
  · rcases Pem.privateKey?_cases key with
      ⟨f, hkey, hkeyHeld⟩ | ⟨hkey, hkeyHeld⟩ | ⟨k, hkey, hkeyHeld⟩ <;>
      simp only [hload, hheld, hkey, hkeyHeld] <;> rfl

/-- An identity to stand for any other. -/
def sample : ClientIdentity :=
  ⟨Pem.ofSection "CERTIFICATE" "AAAA", Pem.ofSection "PRIVATE KEY" "AAAA",
    Pem.holdsCertificate_ofSection, Pem.holdsPrivateKey_ofSection⟩

end ClientIdentity

end LogCourier
