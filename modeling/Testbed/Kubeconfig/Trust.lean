import Testbed.Kubeconfig.Content
import Testbed.Text.Pem
import Testbed.Text.Utf8

namespace Testbed
namespace Kubeconfig

/-!
Certificates that a cluster is trusted by. They are given as base 64 text of blocks; files with certificates
are out of reach here, and count as missing. A certificate is only looked at for its outermost form.
-/

/-! ## The form of certificates -/

/-- The tags of the three parts of a certificate: what is certified, how it is signed, and the signature. -/
def certificateParts : List UInt8 := [0x30, 0x30, 0x03]

/-- The length that bytes begin with, and the bytes behind it. -/
def readLength : List UInt8 → Option (Nat × List UInt8)
  | [] => none
  | first :: rest =>
    if first < 0x80 then some (first.toNat, rest)
    else
      let width := first.toNat - 0x80
      if width = 0 ∨ 4 < width ∨ rest.length < width then none
      else some ((rest.take width).foldl (fun value byte => value * 256 + byte.toNat) 0, rest.drop width)

/-- What stands under a tag at the beginning of bytes, and what follows it. -/
def readPart (tag : UInt8) : List UInt8 → Option (List UInt8 × List UInt8)
  | [] => none
  | first :: rest => do
    let (length, bytes) ← readLength rest
    if first = tag ∧ length ≤ bytes.length then some (bytes.take length, bytes.drop length) else none

/-- Whether bytes have the form of a certificate. -/
def isCertificate (bytes : List UInt8) : Bool :=
  match readPart 0x30 bytes with
  | some (content, []) =>
    certificateParts.foldlM (fun rest tag => (readPart tag rest).map Prod.snd) content == some []
  | _ => false

/-! ## What a cluster gives -/

/-- The certificates that a cluster gives, with whatever else is among them. -/
def Cluster.trusted? (cluster : Cluster) : Option (List Text.PemBlock) :=
  match cluster.authorityData with
  | some text => do Text.pemBlocks? (Text.Utf8.decodeLossy (← Text.Base64.decode text.toList))
  | none => if cluster.authority.isSome then none else some []

/-- Whether all certificates have the form of one. -/
def areCertificates (blocks : List Text.PemBlock) : Bool :=
  blocks.all fun block => block.label != "CERTIFICATE" || isCertificate block.bytes

end Kubeconfig
end Testbed
