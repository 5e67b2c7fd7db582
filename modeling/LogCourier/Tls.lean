import LogCourier.Der
import LogCourier.Error
import LogCourier.Pem

/-!
# Security of the connection

Trust roots and client identity, checked when they are loaded, and the credentials of a channel.
Their texts never show key material.
-/

namespace LogCourier

/-- A client certificate chain and its private key, both as PEM files that have been looked through:
an identity that exists holds a certificate and a key. -/
structure ClientIdentity where
  certificate : Bytes
  key : Bytes
  hasCertificate : Pem.holdsCertificate certificate = true
  hasKey : Pem.holdsPrivateKey key = true
  deriving DecidableEq, Repr

namespace ClientIdentity

/-- The identity from a file that holds a certificate and a file that holds a private key. The
key is looked at only if there is a certificate. -/
def load (certificate key : Bytes) : Except Error ClientIdentity :=
  match Pem.certificates certificate with
  | .error f => .error (.invalidCredentials f.message)
  | .ok _ =>
    if hcertificate : Pem.holdsCertificate certificate = true then
      match Pem.privateKey? key with
      | .error f => .error (.invalidCredentials f.message)
      | .ok _ =>
        if hkey : Pem.holdsPrivateKey key = true then .ok ⟨certificate, key, hcertificate, hkey⟩
        else .error (.invalidCredentials "no private key found in client key")
    else .error (.invalidCredentials "no certificate found in client certificate")

def inspect (_ : ClientIdentity) : String :=
  "ClientIdentity(..)"

end ClientIdentity

/-- Certificates to trust, as a PEM file that holds one. -/
structure TrustRoots where
  file : Bytes
  hasCertificate : Pem.holdsCertificate file = true
  deriving DecidableEq, Repr

/-- Trust roots and client identity. Without roots the ones of the system are trusted. -/
structure TlsSettings where
  roots : Option TrustRoots := none
  clientIdentity : Option ClientIdentity := none
  deriving DecidableEq, Repr

namespace TlsSettings

def systemRoots : TlsSettings := ⟨none, none⟩

/-- The file of the trusted roots. -/
def rootCertificates (t : TlsSettings) : Option Bytes :=
  t.roots.map (·.file)

/-- A file of trusted roots has to hold a certificate. -/
def loadRoots (file : Bytes) : Except Error TrustRoots :=
  match Pem.certificates file with
  | .error f => .error (.invalidCredentials f.message)
  | .ok _ =>
    if h : Pem.holdsCertificate file = true then .ok ⟨file, h⟩
    else .error (.invalidCredentials "no certificate found in root CA bundle")

/-- Trusts the certificates of a PEM file instead of the roots of the system. -/
def withRootCertificates (t : TlsSettings) (file : Bytes) : Except Error TlsSettings :=
  (loadRoots file).map fun r => { t with roots := some r }

def withClientIdentity (t : TlsSettings) (identity : ClientIdentity) : TlsSettings :=
  { t with clientIdentity := some identity }

/-- Neither roots nor an identity were loaded. -/
def isEmpty (t : TlsSettings) : Bool :=
  t.roots.isNone && t.clientIdentity.isNone

/-- The text of the settings tells only which parts are present. -/
def inspect (t : TlsSettings) : String :=
  let identity := match t.clientIdentity with
    | some i => "Some(" ++ i.inspect ++ ")"
    | none => "None"
  "TlsConfig \x7b root_certificates: " ++ toString t.roots.isSome
    ++ ", client_identity: " ++ identity ++ " \x7d"

/-- Whether `key` has the form of its kind. -/
def isKeyForm (key : Pem.Item) : Bool :=
  match key.kind with
  | .rsaPrivateKey => Der.isRsaPrivateKey key.content
  | .ecPrivateKey => Der.isEcPrivateKey key.content
  | _ => Der.isPrivateKeyInfo key.content

/-- Whether a certificate and a key can be presented to a server. -/
def canPresent (certificate : Bytes) (key : Pem.Item) : Bool :=
  Der.isCertificate certificate && isKeyForm key

end TlsSettings

inductive Credentials where
  | insecure
  | tls (settings : TlsSettings)
  deriving DecidableEq, Repr

namespace Credentials

def inspect : Credentials → String
  | insecure => "Insecure"
  | tls settings => "Tls(" ++ settings.inspect ++ ")"

end Credentials

end LogCourier
