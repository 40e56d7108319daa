import Testbed.Sha256
import Testbed.Text.Basic
import Testbed.Text.Utf8

namespace Testbed
namespace ContentHash

/-!
Hashes of sequences of byte chunks. Every chunk is preceded by its length, so the bytes that are
digested determine the chunks.
-/

/-- The bytes that are digested: each chunk after its length in eight bytes. -/
def frame (chunks : List (List UInt8)) : List UInt8 :=
  chunks.flatMap fun chunk => Sha256.bigEndian 8 chunk.length ++ chunk

/-- The hash of a sequence of chunks, as lower-case hexadecimal text. -/
def ofChunks (chunks : List (List UInt8)) : String :=
  Text.hex (Sha256.digest (frame chunks))

/-- The hash of a sequence of texts. -/
def ofTexts (texts : List String) : String :=
  ofChunks (texts.map Text.Utf8.encode)

end ContentHash
end Testbed
