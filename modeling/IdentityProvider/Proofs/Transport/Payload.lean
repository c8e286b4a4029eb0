import IdentityProvider.Proofs.Bytes.Encoding
import IdentityProvider.Proofs.Transport.Inflate
import IdentityProvider.Transport.Payload

namespace IdentityProvider

inductive Text.Spaced : List Char → List Char → Prop
  | nil : Spaced [] []
  | keep (c : Char) {cs ds : List Char} (h : Spaced cs ds) : Spaced (c :: cs) (c :: ds)
  | blank {c : Char} {cs ds : List Char} (hc : isBlank c = true) (h : Spaced cs ds) : Spaced cs (c :: ds)

lemma Text.removeBlanks_spaced {s t : String} (h : Spaced s.toList t.toList) :
    removeBlanks t = removeBlanks s := by
  rw [removeBlanks, removeBlanks]
  generalize s.toList = cs, t.toList = ds at h
  induction h with
  | nil => rfl
  | keep c h ih => rw [List.filter_cons, List.filter_cons, ih]
  | blank hc h ih => rw [List.filter_cons, hc, Bool.not_true, if_neg Bool.false_ne_true, ih]

lemma decodeBytes_spaced {s t : String} (h : Text.Spaced s.toList t.toList) (limit : Nat) (compressed : Bool) :
    decodeBytes limit t compressed = decodeBytes limit s compressed := by
  rw [decodeBytes, decodeBytes, Text.removeBlanks_spaced h]

lemma decodePayload_spaced {s t : String} (h : Text.Spaced s.toList t.toList) (compressed : Bool) :
    decodePayload t compressed = decodePayload s compressed := by
  rw [decodePayload, decodePayload, decodeBytes_spaced h]

lemma decodeBytes_encode (limit : Nat) (bs : Bytes) :
    decodeBytes limit (Base64.encode bs) true = (Deflate.inflate limit bs).mapError .inflate := by
  simp only [decodeBytes, Base64.decode_removeBlanks_encode, if_true]
  cases Deflate.inflate limit bs <;> rfl

lemma decodeBytes_deflated {deflate : Bytes → Bytes} (hd : Deflate.IsCompressor deflate) (limit : Nat)
    (bs : Bytes) :
    decodeBytes limit (encodePayload bs true deflate) true =
      if bs.length ≤ limit then .ok bs else .error (.inflate (.tooLarge limit)) := by
  rw [encodePayload, if_pos rfl, decodeBytes_encode, Deflate.inflate_stream (hd bs)]
  split <;> rfl

lemma decodeBytes_encodePayload {deflate : Bytes → Bytes} (hd : Deflate.IsCompressor deflate) {limit : Nat}
    {bs : Bytes} {compressed : Bool} (h : compressed = true → bs.length ≤ limit) :
    decodeBytes limit (encodePayload bs compressed deflate) compressed = .ok bs := by
  cases compressed with
  | false =>
    simp only [encodePayload, decodeBytes, Base64.decode_removeBlanks_encode, Bool.false_eq_true, if_false]
  | true => rw [decodeBytes_deflated hd, if_pos (h rfl)]

theorem decodePayload_encodePayload {deflate : Bytes → Bytes} (hd : Deflate.IsCompressor deflate) {bs : Bytes}
    {compressed : Bool} (h : compressed = true → bs.length ≤ responseLimit) :
    decodePayload (encodePayload bs compressed deflate) compressed = .ok bs := by
  rw [decodePayload, decodeBytes_encodePayload hd h]

lemma decodePayload_plain_iff {payload : String} {bs : Bytes} :
    decodePayload payload false = .ok bs ↔ Text.removeBlanks payload = Base64.digits bs := by
  rw [← Base64.decode_eq_some_iff, decodePayload, decodeBytes]
  cases Base64.decode (Text.removeBlanks payload) with
  | none => simp
  | some read => simp

/-- Encoding and decoding are inverse up to blanks, with the limit exact, whichever complete stream the
compressor chooses. -/
theorem payload_inverse {deflate : Bytes → Bytes} (hd : Deflate.IsCompressor deflate) :
    (∀ bs, decodePayload (encodePayload bs false deflate) false = .ok bs) ∧
    (∀ bs, decodePayload (encodePayload bs true deflate) true =
      if bs.length ≤ responseLimit then .ok bs
      else .error (.decode (PayloadError.inflate (.tooLarge responseLimit)).message)) ∧
    (∀ payload spaced : String, Text.Spaced payload.toList spaced.toList →
      ∀ compressed, decodePayload spaced compressed = decodePayload payload compressed) ∧
    (∀ payload bs, decodePayload payload false = .ok bs →
      encodePayload bs false deflate = String.ofList (Text.removeBlanks payload)) ∧
    ∀ payload other bs, decodePayload payload false = .ok bs → decodePayload other false = .ok bs →
      Text.removeBlanks payload = Text.removeBlanks other := by
  have hplain : ∀ bs, encodePayload bs false deflate = String.ofList (Base64.digits bs) := by
    intro bs
    rw [← Base64.toList_encode, String.ofList_toList]
    rfl
  refine ⟨?_, ?_, ?_, ?_, ?_⟩
  · intro bs
    rw [decodePayload_plain_iff]
    exact Base64.removeBlanks_encode bs
  · intro bs
    rw [decodePayload, decodeBytes_deflated hd]
    by_cases hb : bs.length ≤ responseLimit
    · rw [if_pos hb, if_pos hb]
    · rw [if_neg hb, if_neg hb]
  · intro payload spaced h compressed
    exact decodePayload_spaced h compressed
  · intro payload bs h
    rw [decodePayload_plain_iff.mp h, hplain]
  · intro payload other bs h ho
    rw [decodePayload_plain_iff.mp h, decodePayload_plain_iff.mp ho]

namespace Sample

def shortDocument : String := "<a/>"

/-- The short document in one block with the fixed codes, and anything else in stored blocks. -/
def deflate (data : Bytes) : Bytes :=
  if data = Bytes.ofText shortDocument then [0xb3, 0x49, 0xd4, 0xb7, 0x03, 0x00] else Deflate.compress data

lemma deflate_isCompressor : Deflate.IsCompressor deflate := by
  intro data
  rw [deflate]
  split
  case isTrue h =>
    subst h
    have hitems : Deflate.Items Deflate.fixedLiteralLengths Deflate.fixedDistanceLengths [] _
      (Bytes.ofText shortDocument) :=
      .literal (.literal 60 (by decide)) <| .literal (.literal 97 (by decide)) <|
        .literal (.literal 47 (by decide)) <|
        .literal (.literal 62 (by decide)) <| .stop (.stop (by decide))
    refine ⟨_, List.replicate 6 false, .last (.fixed hitems), by decide, ?_⟩
    decide +kernel
  case isFalse h => exact Deflate.compress_isCompressor data

theorem payload_inverse_short :
    Deflate.IsCompressor deflate ∧
      encodePayload (Bytes.ofText shortDocument) true deflate = "s0nUtwMA" ∧
      decodePayload "s0nUtwMA" true = .ok (Bytes.ofText shortDocument) := by
  have he : encodePayload (Bytes.ofText shortDocument) true deflate = "s0nUtwMA" := by decide +kernel
  have hp := (payload_inverse deflate_isCompressor).2.1 (Bytes.ofText shortDocument)
  rw [he, if_pos (by decide)] at hp
  exact ⟨deflate_isCompressor, he, hp⟩

end Sample
end IdentityProvider
