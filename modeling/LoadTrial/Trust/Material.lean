/-
Trust material: the certificates that a client trusts, and the certificate and key by which it is known itself.
-/
import LoadTrial.Failure
import LoadTrial.Files
import LoadTrial.Settings.Basic
import LoadTrial.Trust.Certificate
import LoadTrial.Trust.Pem

namespace LoadTrial

/-- what a client shows to the coordinator -/
structure Identity where
  certificates : List Bytes
  key : PrivateKey
  deriving DecidableEq

structure TrustMaterial where
  roots : List Bytes
  identity : Identity
  deriving DecidableEq

namespace TrustMaterial

/-- the parts of trust material, in the order in which they are looked at -/
inductive Part where
  | caCert
  | clientCert
  | clientKey
  deriving DecidableEq, Repr

def Part.name : Part → String
  | .caCert => "CA certificate"
  | .clientCert => "client certificate"
  | .clientKey => "client key"

/-- a text that a file with this part holds -/
def Part.marker : Part → String
  | .caCert => "-----BEGIN CERTIFICATE-----"
  | .clientCert => "-----BEGIN CERTIFICATE-----"
  | .clientKey => "PRIVATE KEY-----"

/-- why there is no trust material, or no client with it -/
inductive Fault where
  | unreadable (part : Part) (path : String) (error : ReadError)
  | noMarker (part : Part)
  | badRoots
  | noRoots
  | badIdentity
  | badClient
  deriving DecidableEq, Repr

def Fault.message : Fault → String
  | .unreadable part path error => "Failed to read " ++ part.name ++ " '" ++ path ++ "': " ++ error.message
  | .noMarker part => part.name ++ " is not PEM encoded (missing '" ++ part.marker ++ "')"
  | .badRoots => "Failed to parse CA certificate: builder error"
  | .noRoots => "CA bundle contains no certificates"
  | .badIdentity => "Failed to load client identity: builder error"
  | .badClient => "Failed to build mTLS client: builder error"

def Fault.failure (f : Fault) : Failure :=
  .tls f.message

/-- refuses a file without the marker of its part -/
def requireMarker (part : Part) (pem : Bytes) : Except Fault Unit :=
  if Text.occursIn part.marker.toList (Text.lenient pem) then .ok () else .error (.noMarker part)

/-- the certificates of a bundle, all of which must be readable -/
def readRoots (pem : Bytes) : Except Fault (List Bytes) :=
  match Pem.sections? pem with
  | none => .error .badRoots
  | some found =>
    let certificates := (found.filter (·.label == .certificate)).map (·.content)
    if certificates.all Certificate.isReadable then .ok certificates else .error .badRoots

/-- the private key in a section -/
def keyOf? (s : Pem.Section) : Option PrivateKey :=
  match s.label with
  | .privateKey => some ⟨.pkcs8, s.content⟩
  | .rsaPrivateKey => some ⟨.pkcs1, s.content⟩
  | .ecPrivateKey => some ⟨.sec1, s.content⟩
  | _ => none

/-- an identity from certificates and keys, of which the last key counts; no other section may be there -/
def readIdentity (pem : Bytes) : Except Fault Identity :=
  match Pem.sections? pem with
  | none => .error .badIdentity
  | some found =>
    if found.any fun s => s.label != .certificate && (keyOf? s).isNone then .error .badIdentity
    else
      let certificates := (found.filter (·.label == .certificate)).map (·.content)
      match (found.filterMap keyOf?).getLast? with
      | some key => if certificates.isEmpty then .error .badIdentity else .ok ⟨certificates, key⟩
      | none => .error .badIdentity

/-- certificate and key in one file, on lines of their own -/
def joinIdentity (cert key : Bytes) : Bytes :=
  cert ++ (if cert.getLast? == some 0x0A then [] else [0x0A]) ++ key

/-- trust material from the contents of its files -/
def ofPem (ca cert key : Bytes) : Except Fault TrustMaterial := do
  requireMarker .caCert ca
  requireMarker .clientCert cert
  requireMarker .clientKey key
  let roots ← readRoots ca
  if roots.isEmpty then throw .noRoots
  return ⟨roots, ← readIdentity (joinIdentity cert key)⟩

def readPart (files : Files) (part : Part) (path : String) : Except Fault Bytes :=
  match files.read path with
  | .ok content => .ok content
  | .error e => .error (.unreadable part path e)

/-- trust material from its files -/
def load (files : Files) (paths : TrustPaths) : Except Fault TrustMaterial := do
  let ca ← readPart files .caCert paths.caCert
  let cert ← readPart files .clientCert paths.clientCert
  let key ← readPart files .clientKey paths.clientKey
  ofPem ca cert key

/-- a short description -/
def describe (m : TrustMaterial) : String :=
  "TrustMaterial \x7b roots: " ++ Number.decimal m.roots.length ++ ", .. \x7d"

/-- the certificate of an identity belongs to its key -/
def Identity.matches (i : Identity) : Bool :=
  match i.certificates.head? >>= Certificate.publicKey?, i.key.publicKey? with
  | some (inCert, []), some (some inKey) => inCert == inKey
  | _, some none => true
  | _, _ => false

/-- a client can be built with trust material -/
def isUsable (m : TrustMaterial) : Bool :=
  m.roots.all (fun der => (Certificate.publicKey? der).any (·.2.isEmpty)) && Identity.matches m.identity

/-- refuses trust material with which no client can be built -/
def checkClient (files : Files) (paths : TrustPaths) : Except Fault TrustMaterial := do
  let m ← load files paths
  if m.isUsable then return m else throw .badClient

end TrustMaterial

end LoadTrial
