/-
Certificates and private keys, as far as a client needs to look into them: a certificate is well formed and names
a public key, and a private key is of a known kind and belongs to a public key.
-/
import LoadTrial.Trust.Der

namespace LoadTrial

namespace Certificate

def time? (bytes : Bytes) : Option Bytes :=
  match Der.value? bytes with
  | some (v, rest) => if v.tag == Der.utcTime || v.tag == Der.generalTime then some rest else none
  | none => none

/-- reads what is signed: version, number, algorithm, issuer, validity, subject and public key, of which the
    last is given in full -/
def signedPart? (body : Bytes) : Option Bytes := do
  let rest := Der.skipOptional (Der.contextual 0) body
  let rest ← Der.skip? Der.integer rest
  let rest ← Der.skip? Der.sequence rest
  let rest ← Der.skip? Der.sequence rest
  let (validity, rest) ← Der.expect? Der.sequence rest
  let later ← time? (← time? validity)
  if !later.isEmpty then failure
  let rest ← Der.skip? Der.sequence rest
  let (key, _) ← Der.expect? Der.sequence rest
  let bits ← Der.skip? Der.sequence key
  let (_, behind) ← Der.expect? Der.bitString bits
  if !behind.isEmpty then failure
  return Der.encode Der.sequence key

/-- the public key in a certificate, and what follows the certificate -/
def publicKey? (der : Bytes) : Option (Bytes × Bytes) := do
  let (body, rest) ← Der.expect? Der.sequence der
  let (signed, behind) ← Der.expect? Der.sequence body
  let behind ← Der.skip? Der.sequence behind
  let behind ← Der.skip? Der.bitString behind
  if !behind.isEmpty then failure
  return (← signedPart? signed, rest)

/-- the bytes begin with a certificate -/
def isReadable (der : Bytes) : Bool :=
  (publicKey? der).isSome

end Certificate

/-- the forms in which a private key is written -/
inductive PrivateKey.Form where
  | pkcs1
  | pkcs8
  | sec1
  deriving DecidableEq, Repr

structure PrivateKey where
  form : PrivateKey.Form
  der : Bytes
  deriving DecidableEq, Repr

namespace PrivateKey

def rsaIdentifier : Bytes := [0x2A, 0x86, 0x48, 0x86, 0xF7, 0x0D, 0x01, 0x01, 0x01]
def curveIdentifier : Bytes := [0x2A, 0x86, 0x48, 0xCE, 0x3D, 0x02, 0x01]
def edwardsIdentifier : Bytes := [0x2B, 0x65, 0x70]

/-- the curves in use, with the size of their numbers in bytes -/
def curves : List (Bytes × Nat) :=
  [([0x2A, 0x86, 0x48, 0xCE, 0x3D, 0x03, 0x01, 0x07], 32), ([0x2B, 0x81, 0x04, 0x00, 0x22], 48)]

/-- a public key with its algorithm -/
def publicKey (algorithm point : Bytes) : Bytes :=
  Der.encode Der.sequence (Der.encode Der.sequence algorithm ++ Der.encode Der.bitString (0 :: point))

/-- the public key of a key on a curve; the key holds it -/
def ofCurve? (curve : Bytes) (size : Nat) (der : Bytes) : Option Bytes := do
  let (body, rest) ← Der.expect? Der.sequence der
  if !rest.isEmpty then failure
  let (version, rest) ← Der.expect? Der.integer body
  let (secret, rest) ← Der.expect? Der.octetString rest
  if version != [1] || secret.length != size then failure
  let rest := Der.skipOptional (Der.contextual 0) rest
  let (wrapped, rest) ← Der.expect? (Der.contextual 1) rest
  let (bits, behind) ← Der.expect? Der.bitString wrapped
  if !rest.isEmpty || !behind.isEmpty then failure
  match bits with
  | 0 :: 4 :: point =>
    if point.length != 2 * size then failure
    return publicKey (Der.encode Der.identifier curveIdentifier ++ Der.encode Der.identifier curve) (4 :: point)
  | _ => failure

/-- numbers one after the other, to the end -/
def integers? (fuel : Nat) (bytes : Bytes) : Option (List Bytes) :=
  match fuel, bytes with
  | _, [] => some []
  | 0, _ => none
  | fuel + 1, bytes => do
    let (n, rest) ← Der.expect? Der.integer bytes
    return n :: (← integers? fuel rest)

/-- the public key of an RSA key: its modulus, of 2048 bits or more, and its public exponent -/
def ofRsa? (der : Bytes) : Option Bytes := do
  let (body, rest) ← Der.expect? Der.sequence der
  if !rest.isEmpty then failure
  match ← integers? 9 body with
  | [version, modulus, exponent, _, _, _, _, _, _] =>
    if version != [0] || Der.natural modulus < Nat.pow 2 2047 then failure
    let key := Der.encode Der.sequence (Der.encode Der.integer modulus ++ Der.encode Der.integer exponent)
    return publicKey (Der.encode Der.identifier rsaIdentifier ++ [0x05, 0x00]) key
  | _ => failure

/-- the public key that belongs to a key with its algorithm around it; none if it does not tell -/
def ofPkcs8? (der : Bytes) : Option (Option Bytes) := do
  let (body, rest) ← Der.expect? Der.sequence der
  if !rest.isEmpty then failure
  let (version, rest) ← Der.expect? Der.integer body
  if version != [0] && version != [1] then failure
  let (algorithm, rest) ← Der.expect? Der.sequence rest
  let (key, _) ← Der.expect? Der.octetString rest
  let (name, parameters) ← Der.expect? Der.identifier algorithm
  if name == rsaIdentifier then return some (← ofRsa? key)
  else if name == edwardsIdentifier then
    let (seed, behind) ← Der.expect? Der.octetString key
    if seed.length == 32 && behind.isEmpty then return none else failure
  else if name == curveIdentifier && version == [0] then
    let (curve, _) ← Der.expect? Der.identifier parameters
    let size ← curves.lookup curve
    return some (← ofCurve? curve size key)
  else failure

/-- the public key that belongs to a private key of a known kind; none inside if it does not tell -/
def publicKey? (k : PrivateKey) : Option (Option Bytes) :=
  match k.form with
  | .pkcs8 => ofPkcs8? k.der
  | .pkcs1 => (ofRsa? k.der).map some
  | .sec1 => curves.findSome? fun (curve, size) => (ofCurve? curve size k.der).map some

end PrivateKey

end LoadTrial
