import Testbed.Image
import Testbed.Proofs.Text.Numeral

namespace Testbed

/-!
# Hashes of framed chunks

Chunks are hashed one behind the other, each after its length in eight bytes.  The lengths say where the chunks end,
so the stream of bytes can be taken apart again, and different sequences of chunks have different streams, however
many chunks there are and whether some of them are empty.  A hash is the digest of such a stream, written in full.
Two hashes are the same for different chunks only if the digest is the same for two different messages, which are
known: the streams.  The name of an image keeps eight bytes of the digest, and tells sources apart only so far.
-/

namespace Sha256

/-! ## Numbers as bytes -/

variable {bytes : List UInt8} {byte : UInt8} {width value : Nat}

/-- The number that bytes make up, the most significant first. -/
def number (bytes : List UInt8) : Nat :=
  bytes.foldl (fun number byte => number * 256 + byte.toNat) 0

theorem number_concat : number (bytes ++ [byte]) = number bytes * 256 + byte.toNat :=
  List.foldl_concat ..

theorem length_bigEndian : (bigEndian width value).length = width := by
  rw [bigEndian, List.length_map, List.length_range]

/-- The last byte of a number is its remainder, and the bytes before it are those of the quotient. -/
theorem bigEndian_succ : bigEndian (width + 1) value = bigEndian width (value / 256) ++ [UInt8.ofNat value] := by
  have shifted : ∀ index ∈ List.range width,
      UInt8.ofNat (value >>> (8 * (width + 1 - 1 - index))) =
        UInt8.ofNat ((value / 256) >>> (8 * (width - 1 - index))) := by
    intro index listed
    have inside := List.mem_range.mp listed
    have split : 8 * (width + 1 - 1 - index) = 8 + 8 * (width - 1 - index) := by omega
    rw [split, Nat.shiftRight_add, Nat.shiftRight_eq_div_pow value 8]
  rw [bigEndian, List.range_succ, List.map_append, List.map_congr_left shifted, bigEndian, List.map_singleton,
    Nat.add_sub_cancel, Nat.sub_self, Nat.mul_zero, Nat.shiftRight_zero]

theorem number_bigEndian (fits : value < Nat.pow 256 width) : number (bigEndian width value) = value := by
  induction width generalizing value with
  | zero => exact (Nat.lt_one_iff.mp fits).symm
  | succ width inductionHypothesis =>
      have next : Nat.pow 256 (width + 1) = Nat.pow 256 width * 256 := rfl
      rw [bigEndian_succ, number_concat, inductionHypothesis (by omega), UInt8.toNat_ofNat']
      omega

theorem number_lt : number bytes < Nat.pow 256 bytes.length := by
  induction bytes using List.reverseRecOn with
  | nil => exact Nat.one_pos
  | append_singleton front last inductionHypothesis =>
      have next : Nat.pow 256 (front.length + 1) = Nat.pow 256 front.length * 256 := rfl
      have digit := last.toNat_lt
      rw [number_concat, List.length_append, List.length_singleton, next]
      omega

/-- As many bytes as a number has been made of give these bytes again. -/
theorem bigEndian_number (bytes : List UInt8) : bigEndian bytes.length (number bytes) = bytes := by
  induction bytes using List.reverseRecOn with
  | nil => rfl
  | append_singleton front last inductionHypothesis =>
      have digit := last.toNat_lt
      have quotient : (number front * 256 + last.toNat) / 256 = number front := by omega
      have remainder : UInt8.ofNat (number front * 256 + last.toNat) = last := by
        rw [UInt8.ofNat_eq_iff_mod_eq_toNat]
        omega
      rw [number_concat, List.length_append, List.length_singleton, bigEndian_succ, quotient, remainder,
        inductionHypothesis]

/-! ## Collisions -/

variable {shorten : List UInt8 → List UInt8} {first second : List UInt8}

/-- Whether two messages are different but are shortened to the same bytes. -/
def Collide (shorten : List UInt8 → List UInt8) (first second : List UInt8) : Prop :=
  first ≠ second ∧ shorten first = shorten second

theorem shorten_eq_iff : shorten first = shorten second ↔ first = second ∨ Collide shorten first second := by
  by_cases equal : first = second
  · exact iff_of_true (congrArg shorten equal) (Or.inl equal)
  · exact ⟨fun same => Or.inr ⟨equal, same⟩, fun either => (either.resolve_left equal).2⟩

/-- The first eight bytes of the digest of a message. -/
def opening (message : List UInt8) : List UInt8 :=
  (digest message).take 8

end Sha256

namespace Text

/-! ## Texts and bytes -/

variable {first second : List UInt8}

theorem hexDigit_inj {value other : Nat} (small : value < 16) (also : other < 16)
    (same : hexDigit value = hexDigit other) : value = other := by
  have known := hexValue?_hexDigit small
  rw [same, hexValue?_hexDigit also] at known
  exact (Option.some.inj known).symm

/-- A byte is determined by its two digits. -/
theorem byte_inj {byte other : UInt8} (high : hexDigit (byte.toNat / 16) = hexDigit (other.toNat / 16))
    (low : hexDigit (byte.toNat % 16) = hexDigit (other.toNat % 16)) : byte = other := by
  have small := byte.toNat_lt
  have also := other.toNat_lt
  have upper := hexDigit_inj (by omega) (by omega) high
  have lower := hexDigit_inj (by omega) (by omega) low
  rw [← UInt8.toNat_inj]
  omega

theorem hex_inj : hex first = hex second ↔ first = second := by
  refine ⟨fun same => ?_, congrArg hex⟩
  rw [hex, hex, String.ofList_inj] at same
  induction first generalizing second with
  | nil => cases second with
    | nil => rfl
    | cons byte rest => cases same
  | cons byte rest inductionHypothesis => cases second with
    | nil => cases same
    | cons other others =>
        rw [List.flatMap_cons, List.flatMap_cons] at same
        injection same with high same
        injection same with low same
        rw [byte_inj high low, inductionHypothesis same]

/-- The digits at the beginning are those of the first bytes. -/
theorem take_toList_hex (count : Nat) (bytes : List UInt8) :
    (hex bytes).toList.take (2 * count) = (hex (bytes.take count)).toList := by
  simp only [hex, String.toList_ofList]
  induction bytes generalizing count with
  | nil => simp
  | cons byte rest inductionHypothesis => cases count with
    | zero => rfl
    | succ count =>
        rw [Nat.mul_succ, List.take_succ_cons, List.flatMap_cons, List.flatMap_cons, ← inductionHypothesis]
        rfl

namespace Utf8

theorem length_encode (text : String) : (encode text).length = text.utf8ByteSize :=
  rfl

theorem encode_injective : Function.Injective encode := by
  intro text other same
  rw [← String.toByteArray_inj]
  exact ByteArray.ext (Array.toList_inj.mp same)

end Utf8

end Text

namespace ContentHash

variable {chunk bytes : List UInt8} {first second chunks : List (List UInt8)}

/-! ## Streams -/

/-- Whether the lengths of all chunks fit into eight bytes. -/
def AreShort (chunks : List (List UInt8)) : Prop :=
  ∀ chunk ∈ chunks, chunk.length < Nat.pow 2 64

instance (chunks : List (List UInt8)) : Decidable (AreShort chunks) :=
  inferInstanceAs (Decidable (∀ chunk ∈ chunks, chunk.length < Nat.pow 2 64))

theorem frame_cons : frame (chunk :: chunks) = Sha256.bigEndian 8 chunk.length ++ (chunk ++ frame chunks) := by
  rw [frame, List.flatMap_cons, List.append_assoc, frame]

/-- The chunks of a stream.  A stream that ends within a length or within a chunk has none. -/
def unframe? (stream : List UInt8) : Option (List (List UInt8)) :=
  if stream = [] then some []
  else
    let length := Sha256.number (stream.take 8)
    let content := stream.drop 8
    if stream.length < 8 + length then none
    else (unframe? (content.drop length)).map (content.take length :: ·)
termination_by stream.length
decreasing_by
  rw [List.length_drop, List.length_drop]
  exact Nat.lt_of_le_of_lt (Nat.sub_le _ _) (Nat.sub_lt (List.length_pos_iff.mpr ‹¬stream = []›) (by decide))

/-- A chunk behind its length is taken off, whatever follows it. -/
theorem unframe?_append (short : chunk.length < Nat.pow 2 64) (rest : List UInt8) :
    unframe? (Sha256.bigEndian 8 chunk.length ++ (chunk ++ rest)) = (unframe? rest).map (chunk :: ·) := by
  have eight : (Sha256.bigEndian 8 chunk.length).length = 8 := Sha256.length_bigEndian
  have nonempty : Sha256.bigEndian 8 chunk.length ++ (chunk ++ rest) ≠ [] := by
    intro empty
    rw [(List.append_eq_nil_iff.mp empty).1] at eight
    cases eight
  have enough : ¬(Sha256.bigEndian 8 chunk.length ++ (chunk ++ rest)).length < 8 + chunk.length := by
    rw [List.length_append, List.length_append, eight]
    omega
  rw [unframe?, if_neg nonempty]
  dsimp only
  rw [List.take_left' eight, List.drop_left' eight, Sha256.number_bigEndian short, if_neg enough, List.take_left,
    List.drop_left]

theorem unframe?_frame (short : AreShort chunks) : unframe? (frame chunks) = some chunks := by
  induction chunks with
  | nil =>
      rw [unframe?]
      exact if_pos rfl
  | cons chunk rest inductionHypothesis =>
      rcases List.forall_mem_cons.mp short with ⟨firstShort, restShort⟩
      rw [frame_cons, unframe?_append firstShort, inductionHypothesis restShort]
      rfl

/-- If a stream is as long as its first chunk is announced to be, it consists of the length, of the chunk and of
what follows. -/
theorem parts_of_announced {length : Nat} (announced : Sha256.number (bytes.take 8) = length)
    (enough : 8 + length ≤ bytes.length) :
    ((bytes.drop 8).take length).length = length ∧ length < Nat.pow 2 64 ∧
      Sha256.bigEndian 8 length ++ bytes.drop 8 = bytes := by
  have eight : (bytes.take 8).length = 8 := List.length_take_of_le (by omega)
  have rest : length ≤ (bytes.drop 8).length := by
    rw [List.length_drop]
    omega
  have small : Sha256.number (bytes.take 8) < Nat.pow 256 (bytes.take 8).length := Sha256.number_lt
  -- The first eight bytes say the length, and no other eight bytes say it.
  have prefixed := Sha256.bigEndian_number (bytes.take 8)
  rw [eight, announced] at small prefixed
  refine ⟨List.length_take_of_le rest, small, ?_⟩
  rw [prefixed, List.take_append_drop]

/-- The chunks of a stream, framed, make up the stream. -/
theorem frame_of_unframe? (read : unframe? bytes = some chunks) : AreShort chunks ∧ frame chunks = bytes := by
  fun_induction unframe? bytes generalizing chunks with
  | case1 =>
      obtain rfl := Option.some.inj read
      exact ⟨List.forall_mem_nil _, rfl⟩
  | case2 => cases read
  | case3 stream nonempty length content enough =>
      rename_i inductionHypothesis
      rcases Option.map_eq_some_iff.mp read with ⟨rest, others, rfl⟩
      rcases inductionHypothesis others with ⟨restShort, framed⟩
      rcases parts_of_announced rfl (Nat.not_lt.mp enough) with ⟨whole, small, parts⟩
      refine ⟨List.forall_mem_cons.mpr ⟨lt_of_eq_of_lt whole small, restShort⟩, ?_⟩
      rw [frame_cons, whole, framed, List.take_append_drop, parts]

/-- The chunks of a stream are those of which it has been made. -/
theorem unframe?_eq_some_iff : unframe? bytes = some chunks ↔ AreShort chunks ∧ frame chunks = bytes := by
  refine ⟨frame_of_unframe?, ?_⟩
  rintro ⟨short, rfl⟩
  exact unframe?_frame short

theorem frame_inj (short : AreShort first) (also : AreShort second) :
    frame first = frame second ↔ first = second := by
  refine ⟨fun same => ?_, congrArg frame⟩
  have read := unframe?_frame short
  rw [same, unframe?_frame also] at read
  exact (Option.some.inj read).symm

/-! ## Hashes -/

theorem ofChunks_eq_iff (short : AreShort first) (also : AreShort second) :
    ofChunks first = ofChunks second ↔
      first = second ∨ Sha256.Collide Sha256.digest (frame first) (frame second) := by
  rw [ofChunks, ofChunks, Text.hex_inj, Sha256.shorten_eq_iff, frame_inj short also]

variable {texts others : List String}

/-- The stream of bytes for a sequence of texts. -/
def frameTexts (texts : List String) : List UInt8 :=
  frame (texts.map Text.Utf8.encode)

/-- Whether the lengths of all texts, in bytes, fit into eight bytes. -/
def AreShortTexts (texts : List String) : Prop :=
  ∀ text ∈ texts, text.utf8ByteSize < Nat.pow 2 64

instance (texts : List String) : Decidable (AreShortTexts texts) :=
  inferInstanceAs (Decidable (∀ text ∈ texts, text.utf8ByteSize < Nat.pow 2 64))

theorem AreShortTexts.areShort (short : AreShortTexts texts) : AreShort (texts.map Text.Utf8.encode) := by
  rw [AreShort, List.forall_mem_map]
  intro text listed
  rw [Text.Utf8.length_encode]
  exact short text listed

theorem frameTexts_inj (short : AreShortTexts texts) (also : AreShortTexts others) :
    frameTexts texts = frameTexts others ↔ texts = others := by
  rw [frameTexts, frameTexts, frame_inj short.areShort also.areShort,
    (List.map_injective_iff.mpr Text.Utf8.encode_injective).eq_iff]

theorem ofTexts_eq_iff (short : AreShortTexts texts) (also : AreShortTexts others) :
    ofTexts texts = ofTexts others ↔
      texts = others ∨ Sha256.Collide Sha256.digest (frameTexts texts) (frameTexts others) := by
  rw [← frameTexts_inj short also, ← Sha256.shorten_eq_iff, ← Text.hex_inj]
  rfl

end ContentHash

namespace GitSource

open ContentHash

variable {first second : GitSource} {registry : String}

/-- What is built of a repository. -/
def revision (source : GitSource) : String :=
  source.commit.getD source.branch

/-- The texts by which a source is hashed. -/
def texts (source : GitSource) : List String :=
  [source.repository, source.revision]

theorem texts_inj :
    first.texts = second.texts ↔ first.repository = second.repository ∧ first.revision = second.revision := by
  simp only [texts, List.cons.injEq, and_true]

/-- Eight bytes of the digest are in the name of an image. -/
theorem imageName_eq (source : GitSource) (registry : String) :
    source.imageName registry =
      registry ++ "/" ++ Text.hex (Sha256.opening (frameTexts source.texts)) ++ ":latest" := by
  have digits : ((ofTexts source.texts).toList.take 16) =
      (Text.hex (Sha256.opening (frameTexts source.texts))).toList :=
    Text.take_toList_hex 8 (Sha256.digest (frameTexts source.texts))
  rw [← String.ofList_toList (s := Text.hex _), ← digits]
  rfl

theorem imageName_eq_iff (short : AreShortTexts first.texts) (also : AreShortTexts second.texts) :
    first.imageName registry = second.imageName registry ↔
      first.texts = second.texts ∨
        Sha256.Collide Sha256.opening (frameTexts first.texts) (frameTexts second.texts) := by
  rw [imageName_eq, imageName_eq, String.append_left_inj, String.append_right_inj, Text.hex_inj,
    Sha256.shorten_eq_iff, frameTexts_inj short also]

end GitSource

namespace ContentHash

/-- A stream has the chunks of which it is made, and no others; so different sequences of chunks make different
streams.  Two sequences of chunks, two sources or two prebuilt images have the same hash exactly if they are the
same, as far as they are hashed, or SHA-256 has one digest for their different streams.  Two sources have the same
image name exactly if they agree in repository and revision, or the digests of their different streams begin with
the same eight bytes. -/
theorem hashes_identify_sources :
    (∀ stream chunks, unframe? stream = some chunks ↔ AreShort chunks ∧ frame chunks = stream) ∧
    (∀ first second, AreShort first → AreShort second → first ≠ second → frame first ≠ frame second) ∧
    (∀ first second, AreShort first → AreShort second →
      (ofChunks first = ofChunks second ↔
        first = second ∨ Sha256.Collide Sha256.digest (frame first) (frame second))) ∧
    (∀ first second : GitSource, AreShortTexts first.texts → AreShortTexts second.texts →
      (ofTexts first.texts = ofTexts second.texts ↔
        (first.repository = second.repository ∧ first.revision = second.revision) ∨
          Sha256.Collide Sha256.digest (frameTexts first.texts) (frameTexts second.texts)) ∧
      ∀ registry, first.imageName registry = second.imageName registry ↔
        (first.repository = second.repository ∧ first.revision = second.revision) ∨
          Sha256.Collide Sha256.opening (frameTexts first.texts) (frameTexts second.texts)) ∧
    ∀ first second : String, AreShortTexts [first] → AreShortTexts [second] →
      (Prebuilt.contentHash first = Prebuilt.contentHash second ↔
        first = second ∨ Sha256.Collide Sha256.digest (frameTexts [first]) (frameTexts [second])) := by
  refine ⟨fun _ _ => unframe?_eq_some_iff, fun _ _ short also apart same => ?_,
    fun _ _ => ofChunks_eq_iff, fun first second short also => ⟨?_, fun registry => ?_⟩,
    fun first second short also => ?_⟩
  · exact apart ((frame_inj short also).mp same)
  · rw [ofTexts_eq_iff short also, GitSource.texts_inj]
  · rw [GitSource.imageName_eq_iff short also, GitSource.texts_inj]
  · rw [Prebuilt.contentHash, Prebuilt.contentHash, ofTexts_eq_iff short also, List.singleton_inj]

/-- A source of which the head of a branch is built, or a commit. -/
def sampleSource (commit : Option String) : GitSource :=
  { repository := "https://github.com/example/app", branch := "main", commit }

/-- Chunks are told apart by where they are cut and by how many of them are empty, a commit from the branch that it
replaces, and images by their tags. -/
theorem hashes_identify_sources_at_cuts :
    unframe? (frame [[97, 98], [], [99]]) = some [[97, 98], [], [99]] ∧
      frame [[], []] ≠ frame [[]] ∧
      (ofChunks [[97, 98], [99]] = ofChunks [[97], [98, 99]] →
        Sha256.Collide Sha256.digest (frame [[97, 98], [99]]) (frame [[97], [98, 99]])) ∧
      (sampleSource none).imageName "ttl.sh" = (sampleSource (some "main")).imageName "ttl.sh" ∧
      ((sampleSource none).imageName "ttl.sh" = (sampleSource (some "abc123")).imageName "ttl.sh" →
        Sha256.Collide Sha256.opening (frameTexts (sampleSource none).texts)
          (frameTexts (sampleSource (some "abc123")).texts)) ∧
      (Prebuilt.contentHash "nginx:1.27" = Prebuilt.contentHash "nginx:1.28" →
        Sha256.Collide Sha256.digest (frameTexts ["nginx:1.27"]) (frameTexts ["nginx:1.28"])) := by
  have sources (commit other : Option String) :=
    hashes_identify_sources.2.2.2.1 (sampleSource commit) (sampleSource other)
  refine ⟨(hashes_identify_sources.1 _ _).mpr ⟨by decide, rfl⟩,
    hashes_identify_sources.2.1 _ _ (by decide) (by decide) (by decide), fun same => ?_,
    ((sources none (some "main") (by decide) (by decide)).2 _).mpr (Or.inl ⟨rfl, rfl⟩), fun same => ?_,
    fun same => ?_⟩
  · exact ((hashes_identify_sources.2.2.1 _ _ (by decide) (by decide)).mp same).resolve_left (by decide)
  · exact (((sources none (some "abc123") (by decide) (by decide)).2 _).mp same).resolve_left (by decide)
  · exact ((hashes_identify_sources.2.2.2.2 _ _ (by decide) (by decide)).mp same).resolve_left (by decide)

end ContentHash
end Testbed
