import StakeLottery.Key.Pem.Section
import StakeLottery.Key.PrivateKeyInfo

/-!
Private keys in PEM files, whose labels tell the form of a key. The content of encrypted keys is not
read.
-/

namespace StakeLottery

inductive KeyForm where
  | pkcs8
  | encryptedPkcs8
  | sec1
  | rsa
  | dsa
  deriving DecidableEq, Repr

namespace KeyForm

def ofLabel? (label : List Char) : Option KeyForm :=
  [("PRIVATE KEY".toList, pkcs8), ("ENCRYPTED PRIVATE KEY".toList, encryptedPkcs8),
    ("EC PRIVATE KEY".toList, sec1), ("RSA PRIVATE KEY".toList, rsa),
    ("DSA PRIVATE KEY".toList, dsa)].lookup label

def key (form : KeyForm) (content : Bytes) (password : Option String) :
    Except LoadError LoadedKey := do
  let key ←
    match form with
    | pkcs8 => LoadedKey.ofPkcs8 content
    | encryptedPkcs8 => .error (LoadedKey.encryptedError content password)
    | sec1 => LoadedKey.ofSec1 none content
    | rsa => LoadedKey.ofRsa content
    | dsa => LoadedKey.ofDsa content
  if password.isSome then .error .malformed else return key

end KeyForm

namespace Pem

def encryptionHeader : List Char := "Proc-Type".toList

/-- The form and the bytes of the first private key of a text. A header may not tell of an
encryption. -/
def keyForm? (text : String) : Option (KeyForm × Bytes) := do
  let (form, found) ← (← sections? text).findSome? fun found =>
    (KeyForm.ofLabel? found.label).map fun form => (form, found)
  guard (found.headers.all fun header => header.1 ≠ encryptionHeader)
  return (form, found.content)

end Pem

def LoadedKey.ofPem (text : String) (password : Option String) : Except LoadError LoadedKey :=
  match Pem.keyForm? text with
  | none => .error .malformed
  | some (form, content) => form.key content password

def SecretKey.ofPem (text : String) (password : Option String) : Except KeyError SecretKey :=
  match LoadedKey.ofPem text password with
  | .ok key => key.secretKey
  | .error error => .error (.notLoaded error)

end StakeLottery
