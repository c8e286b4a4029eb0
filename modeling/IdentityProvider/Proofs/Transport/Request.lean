import IdentityProvider.Proofs.Transport.Disguise
import IdentityProvider.Proofs.Transport.Truncation

namespace IdentityProvider

lemma Bytes.ofText_length (s : String) : (ofText s).length = s.utf8ByteSize := rfl

lemma Base64.encode_ne_percent (bs : Bytes) : ∀ c ∈ (encode bs).toList, c ≠ '%' := by
  have hdigit : ∀ m : Fin 64, digit m ≠ '%' := by decide
  rw [toList_encode]
  exact digits_forall (fun n hn => hdigit ⟨n, hn⟩) (by decide) bs

lemma decode_disguised {bs : Bytes} {s : String} (h : Percent.Disguises (Base64.encode bs).toList s.toList) :
    ∃ plain, Percent.decode? s = some plain ∧
      ∀ limit, decodeBytes limit plain true = (Deflate.inflate limit bs).mapError .inflate := by
  obtain ⟨plain, hspaced, hplain⟩ := Percent.decode_disguise h (Base64.encode_ne_percent bs)
  refine ⟨plain, hplain, ?_⟩
  intro limit
  rw [decodeBytes_spaced hspaced, decodeBytes_encode]

lemma decodeRequestDocument_inflated {bs : Bytes} {s document : String}
    (h : Percent.Disguises (Base64.encode bs).toList s.toList) (hs : ¬ encodedRequestLimit < s.utf8ByteSize)
    (hi : Deflate.inflate requestLimit bs = .ok (Bytes.ofText document)) :
    decodeRequestDocument s = .ok document := by
  obtain ⟨plain, hplain, hread⟩ := decode_disguised h
  rw [decodeRequestDocument, if_neg hs, hplain]
  simp only [hread, hi, Except.mapError, Bytes.toText_ofText]

lemma decodeRequestDocument_not_inflated {bs : Bytes} {s : String} {e : Deflate.InflateError}
    (h : Percent.Disguises (Base64.encode bs).toList s.toList) (hs : ¬ encodedRequestLimit < s.utf8ByteSize)
    (hi : Deflate.inflate requestLimit bs = .error e) :
    decodeRequestDocument s = .error (.decode (PayloadError.inflate e).message) := by
  obtain ⟨plain, hplain, hread⟩ := decode_disguised h
  rw [decodeRequestDocument, if_neg hs, hplain]
  simp only [hread, hi, Except.mapError]

/-- However a request is disguised, both limits are exact and within them it comes through whole. -/
theorem request_disguised {deflate : Bytes → Bytes} (hd : Deflate.IsCompressor deflate) {document s : String}
    (h : Percent.Disguises (encodeRequest document deflate).toList s.toList) :
    decodeRequestDocument s =
      if encodedRequestLimit < s.utf8ByteSize then .error (.decode (PayloadError.tooLong s.utf8ByteSize).message)
      else if document.utf8ByteSize ≤ requestLimit then .ok document
      else .error (.decode (PayloadError.inflate (.tooLarge requestLimit)).message) := by
  by_cases hs : encodedRequestLimit < s.utf8ByteSize
  · rw [decodeRequestDocument, if_pos hs, if_pos hs]
  have hinflate := Deflate.inflate_stream (hd (Bytes.ofText document)) requestLimit
  rw [Bytes.ofText_length] at hinflate
  rw [if_neg hs]
  by_cases hl : document.utf8ByteSize ≤ requestLimit
  · rw [if_pos hl] at hinflate ⊢
    exact decodeRequestDocument_inflated h hs hinflate
  · rw [if_neg hl] at hinflate ⊢
    exact decodeRequestDocument_not_inflated h hs hinflate

namespace Sample

def disguised : List Char :=
  ['%', '7', '3', '0', '\u3000', 'n', 'U', 't', '%', '7', '7', '%', '4', 'd', '%', '2', '0', 'A']

lemma disguises_short : Percent.Disguises (encodeRequest shortDocument deflate).toList disguised := by
  have he : (encodeRequest shortDocument deflate).toList = ['s', '0', 'n', 'U', 't', 'w', 'M', 'A'] := by
    decide +kernel
  rw [he]
  have hs : Percent.Written 's' ['%', '7', '3'] := .triplets (.cons 0x73 false false .nil)
  have hw : Percent.Written 'w' ['%', '7', '7'] := .triplets (.cons 0x77 false false .nil)
  have hm : Percent.Written 'M' ['%', '4', 'd'] := .triplets (.cons 0x4d false false .nil)
  have hspace : Percent.Written ' ' ['%', '2', '0'] := .triplets (.cons 0x20 false false .nil)
  have hblank : Text.isBlank '\u3000' = true := by decide
  exact .keep hs <| .keep .plain <| .blank hblank .plain <| .keep .plain <| .keep .plain <|
    .keep .plain <| .keep hw <|
    .keep hm <| .blank (by decide) hspace <| .keep .plain .nil

theorem request_disguised_short :
    Percent.Disguises (encodeRequest shortDocument deflate).toList disguised ∧
      decodeRequestDocument (String.ofList disguised) = .ok shortDocument := by
  have h : Percent.Disguises (encodeRequest shortDocument deflate).toList (String.ofList disguised).toList := by
    rw [String.toList_ofList]
    exact disguises_short
  have hr := request_disguised deflate_isCompressor h
  rw [if_neg (by decide), if_pos (by decide)] at hr
  exact ⟨disguises_short, hr⟩

end Sample

/-- What is cut off before its end is refused, and as corrupt unless a limit has been passed. -/
theorem cut_refused {deflate : Bytes → Bytes} (hd : Deflate.IsCompressor deflate) {data cut : Bytes}
    (hcut : cut <+: deflate data) (hne : cut ≠ deflate data) :
    (∃ reason : PayloadError, decodePayload (Base64.encode cut) true = .error (.decode reason.message) ∧
      (reason = .inflate .corruptStream ∨
        (responseLimit < data.length ∧ reason = .inflate (.tooLarge responseLimit)))) ∧
    ∃ reason : PayloadError, decodeRequestDocument (Base64.encode cut) = .error (.decode reason.message) ∧
      (reason = .inflate .corruptStream ∨
        (requestLimit < data.length ∧ reason = .inflate (.tooLarge requestLimit)) ∨
        (encodedRequestLimit < (Base64.encode cut).utf8ByteSize ∧
          reason = .tooLong (Base64.encode cut).utf8ByteSize)) := by
  have hinflate := Deflate.inflate_cut (hd data) hcut hne
  constructor
  · have hread : ∀ e, Deflate.inflate responseLimit cut = .error e →
        decodePayload (Base64.encode cut) true = .error (.decode (PayloadError.inflate e).message) := by
      intro e he
      rw [decodePayload, decodeBytes_encode, he, Except.mapError]
    rcases hinflate responseLimit with he | ⟨hl, he⟩
    · exact ⟨_, hread _ he, .inl rfl⟩
    · exact ⟨_, hread _ he, .inr ⟨hl, rfl⟩⟩
  · by_cases hs : encodedRequestLimit < (Base64.encode cut).utf8ByteSize
    · exact ⟨.tooLong _, by rw [decodeRequestDocument, if_pos hs], .inr (.inr ⟨hs, rfl⟩)⟩
    have hself := Percent.Disguises.refl (Base64.encode cut).toList
    rcases hinflate requestLimit with he | ⟨hl, he⟩
    · exact ⟨_, decodeRequestDocument_not_inflated hself hs he, .inl rfl⟩
    · exact ⟨_, decodeRequestDocument_not_inflated hself hs he, .inr (.inl ⟨hl, rfl⟩)⟩

namespace Sample

def cut : Bytes :=
  [0xb3, 0x49, 0xd4]

theorem cut_refused_short :
    (cut <+: deflate (Bytes.ofText shortDocument) ∧ cut ≠ deflate (Bytes.ofText shortDocument)) ∧
      decodePayload (Base64.encode cut) true = .error (.decode (PayloadError.inflate .corruptStream).message) ∧
      decodeRequestDocument (Base64.encode cut) =
        .error (.decode (PayloadError.inflate .corruptStream).message) := by
  have hcut : cut <+: deflate (Bytes.ofText shortDocument) := by decide +kernel
  have hne : cut ≠ deflate (Bytes.ofText shortDocument) := by decide +kernel
  obtain ⟨⟨reason, hp, hpr⟩, reason', hq, hqr⟩ := cut_refused deflate_isCompressor hcut hne
  have hlimits : ¬ responseLimit < (Bytes.ofText shortDocument).length ∧
      ¬ requestLimit < (Bytes.ofText shortDocument).length ∧
      ¬ encodedRequestLimit < (Base64.encode cut).utf8ByteSize := by decide +kernel
  simp only [hlimits, false_and, or_false] at hpr hqr
  subst hpr hqr
  exact ⟨⟨hcut, hne⟩, hp, hq⟩

end Sample

end IdentityProvider
