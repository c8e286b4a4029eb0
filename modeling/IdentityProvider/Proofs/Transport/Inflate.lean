import IdentityProvider.Proofs.Transport.DeflateStream
/-! Complete streams inflate to their data, up to the limit. -/

namespace IdentityProvider.Deflate

open PrefixCode (ofLengths takes_read)

variable {literals distances : List Nat} {ceiling : Nat}

lemma codeword_length (lengths : List Nat) (symbol : Nat) :
    (codeword lengths symbol).length = lengths.getD symbol 0 := by
  rw [codeword, List.length_reverse, lowBits_length]

lemma ItemBits.length_pos {item : Item} {w : List Bool} (h : ItemBits literals distances item w) :
    0 < w.length := by
  cases h with
  | literal b h => rwa [codeword_length]
  | copy hl hle hd hde hi hj =>
    rw [List.length_append, codeword_length]
    exact Nat.add_pos_left hi _
  | stop h => rwa [codeword_length]

lemma takes_readBased {bases : Array (Nat × Nat)} {symbol base width extra : Nat}
    (h : bases[symbol]? = some (base, width)) (he : extra < 2 ^ width) :
    Takes (readBased bases symbol) (lowBits width extra) (base + extra) := by
  rw [readBased, h]
  exact (takes_lowBits _ he).bind_pure

lemma takes_readItem (hl : IsCode literals) (hd : IsCode distances) {item : Item} {w : List Bool}
    (h : ItemBits literals distances item w) :
    Takes (readItem (ofLengths literals) (ofLengths distances)) w item := by
  cases h with
  | literal b h =>
    rw [readItem, ← List.append_nil (codeword literals b.toNat)]
    apply (takes_read hl h).bind
    rw [if_pos b.toNat_lt, UInt8.ofNat_toNat]
    exact Takes.pure _
  | @copy i j length lengthWidth lengthExtra distance distanceWidth distanceExtra hlb hle hdb hde hi hj =>
    rw [readItem]
    apply (takes_read hl hi).bind
    rw [if_neg (by omega), if_neg (by omega), Nat.add_sub_cancel_left]
    apply (takes_readBased hlb hle).bind
    apply (takes_read hd hj).bind
    exact (takes_readBased hdb hde).bind_pure
  | stop h =>
    rw [readItem, ← List.append_nil (codeword literals 256)]
    apply (takes_read hl h).bind
    rw [if_neg (by omega), if_pos rfl]
    exact Takes.pure _

lemma byteBack_eq {bytes : ByteArray} {out : Bytes} (hb : bytes.data.toList = out) {distance : Nat} {b : UInt8}
    (hd : 0 < distance ∧ distance ≤ out.length) (h : out[out.length - distance]? = some b) :
    byteBack bytes distance = b := by
  subst hb
  have hs : 0 < distance ∧ distance ≤ bytes.size := hd
  rw [byteBack, dif_pos hs]
  obtain ⟨_, h⟩ := List.getElem?_eq_some_iff.mp h
  exact h

lemma copyBack_toList {bytes : ByteArray} {length distance : Nat} {out' : Bytes}
    (h : Copies bytes.data.toList length distance out') : (copyBack distance length bytes).data.toList = out' := by
  induction length generalizing bytes with
  | zero => exact h.kept.eq_of_length h.grown.symm
  | succ n ih =>
    obtain ⟨tail, rfl⟩ := h.kept
    cases tail with
    | nil =>
      have hg := h.grown
      rw [List.append_nil] at hg
      omega
    | cons b tail =>
      have hsame := h.same bytes.data.toList.length (Nat.le_refl _) (by rw [h.grown]; omega)
      have hpos := h.near.1
      rw [List.getElem?_append_right (Nat.le_refl _), Nat.sub_self, List.getElem?_cons_zero,
        List.getElem?_append_left (by have := h.near.2; omega)] at hsame
      have hpush : (bytes.push b).data.toList = bytes.data.toList ++ [b] := by simp [ByteArray.data_push]
      rw [copyBack, byteBack_eq rfl h.near hsame.symm]
      apply ih
      rw [hpush]
      have hg := h.grown
      simp only [List.length_append, List.length_cons] at hg
      constructor
      · have hn := h.near
        rw [List.length_append]
        exact ⟨hn.1, hn.2.trans (Nat.le_add_right _ _)⟩
      · exact ⟨tail, by simp⟩
      · simp only [List.length_append, List.length_cons, List.length_nil]
        omega
      · intro i hi hlt
        rw [List.length_append] at hi
        exact h.same i (by omega) hlt

lemma Items.length_le {out out' : Bytes} {w : List Bool} (h : Items literals distances out w out') :
    out.length ≤ out'.length := by
  induction h with
  | stop => exact Nat.le_refl _
  | literal h rest ih =>
    rw [List.length_append] at ih
    omega
  | copy h hc rest ih =>
    have hg := hc.grown
    omega

def Outcome.Ends (o : Outcome) (ceiling : Nat) (data : Bytes) (rest : List Bool) : Prop :=
  (∃ out s, o = .done out s ∧ out.data.toList = data ∧ s.Holds rest) ∨ (o = .full ∧ ceiling ≤ data.length)

lemma inflateItems_ends (hl : IsCode literals) (hd : IsCode distances) {bytes : ByteArray} {w : List Bool}
    {out' : Bytes} (h : Items literals distances bytes.data.toList w out') {fuel : Nat} (hf : w.length ≤ fuel)
    {s : BitSource} {rest : List Bool} (hs : s.Holds (w ++ rest)) :
    (inflateItems (ofLengths literals) (ofLengths distances) ceiling fuel bytes s).Ends ceiling out' rest := by
  generalize hout : bytes.data.toList = out at h
  have hsize : bytes.size = bytes.data.toList.length := rfl
  induction h generalizing bytes fuel s with
  | @stop out w h =>
    obtain ⟨fuel, rfl⟩ : ∃ n, fuel = n + 1 := ⟨fuel - 1, by have := h.length_pos; omega⟩
    obtain ⟨s', hread, hs'⟩ := takes_readItem hl hd h s rest hs
    rw [inflateItems]
    split_ifs with hc
    · exact Or.inr ⟨rfl, by rw [← hout, ← hsize]; exact hc⟩
    · rw [hread]
      exact Or.inl ⟨bytes, s', rfl, hout, hs'⟩
  | @literal out out' b v w h hrest ih =>
    have hpos := h.length_pos
    rw [List.length_append] at hf
    rw [List.append_assoc] at hs
    obtain ⟨fuel, rfl⟩ : ∃ n, fuel = n + 1 := ⟨fuel - 1, by omega⟩
    obtain ⟨s', hread, hs'⟩ := takes_readItem hl hd h s _ hs
    have hle := hrest.length_le
    rw [List.length_append] at hle
    rw [inflateItems]
    split_ifs with hc
    · exact Or.inr ⟨rfl, by rw [hsize, hout] at hc; omega⟩
    · rw [hread]
      exact ih (by omega) hs' (by rw [← hout]; simp [ByteArray.data_push]) rfl
  | @copy out out₁ out' length distance v w h hcopy hrest ih =>
    have hpos := h.length_pos
    rw [List.length_append] at hf
    rw [List.append_assoc] at hs
    obtain ⟨fuel, rfl⟩ : ∃ n, fuel = n + 1 := ⟨fuel - 1, by omega⟩
    obtain ⟨s', hread, hs'⟩ := takes_readItem hl hd h s _ hs
    have hle := hrest.length_le
    have hgrown := hcopy.grown
    rw [inflateItems]
    split_ifs with hc
    · exact Or.inr ⟨rfl, by rw [hsize, hout] at hc; omega⟩
    · rw [hread]
      subst hout
      exact ih (by omega) hs' (copyBack_toList hcopy) rfl

lemma pushed_toList (out : ByteArray) (bs : Bytes) :
    (bs.foldl ByteArray.push out).data.toList = out.data.toList ++ bs := by
  induction bs generalizing out with
  | nil => simp
  | cons b bs ih =>
    rw [List.foldl_cons, ih]
    simp [ByteArray.data_push]

lemma inflateStored_cases (ceiling : Nat) (out : ByteArray) (bs rest : Bytes) :
    inflateStored ceiling bs.length out (bs ++ rest) = .done (bs.foldl ByteArray.push out) ⟨[], rest⟩ ∨
      (inflateStored ceiling bs.length out (bs ++ rest) = .full ∧ ceiling ≤ out.size + bs.length) := by
  induction bs generalizing out with
  | nil => exact Or.inl rfl
  | cons b bs ih =>
    rw [List.length_cons, List.cons_append, inflateStored, List.foldl_cons]
    split_ifs with hc
    · exact Or.inr ⟨rfl, by omega⟩
    · have hpush := ih (out.push b)
      rw [ByteArray.size_push, Nat.add_right_comm] at hpush
      exact hpush

lemma takes_readStoredLength {padding : List Bool} (hp : padding.length < 8) {n : Nat} (hn : n ≤ storedLimit)
    {s : BitSource} {rest : List Bool} (hr : rest.length % 8 = 0)
    (hs : s.Holds (padding ++ (lowBits 16 n ++ (lowBits 16 (storedLimit - n) ++ rest)))) :
    ∃ s', readStoredLength s = .ok (n, s') ∧ s'.Holds rest := by
  have hl : storedLimit < 2 ^ 16 := by decide
  obtain ⟨halign, hbits⟩ := takes_alignToByte padding hp
    (by simp only [List.length_append, lowBits_length]; omega) hs
  have hs₁ := BitSource.holds_bytes s.bytes
  rw [hbits] at hs₁
  obtain ⟨s₂, h₂, hs₂⟩ := takes_lowBits 16 (by omega : n < 2 ^ 16) _ _ hs₁
  obtain ⟨s₃, h₃, hs₃⟩ := takes_lowBits 16 (by omega : storedLimit - n < 2 ^ 16) _ _ hs₂
  refine ⟨s₃, ?_, hs₃⟩
  rw [readStoredLength, reader_bind halign, reader_bind h₂, reader_bind h₃, if_pos (by omega), reader_pure]

lemma takes_readShortLengths (short : List Nat) (h : ∀ n ∈ short, n < 8) :
    Takes (readShortLengths short.length) (short.flatMap (lowBits 3)) short := by
  induction short with
  | nil => exact Takes.pure []
  | cons n short ih =>
    rw [List.forall_mem_cons] at h
    rw [List.length_cons, readShortLengths, List.flatMap_cons]
    exact (takes_lowBits 3 h.1).bind (ih h.2).bind_pure

lemma LengthBits.length_le {code known all : List Nat} {w : List Bool} (h : LengthBits code known w all) :
    known.length ≤ all.length := by
  induction h with
  | done => exact Nat.le_refl _
  | one _ _ _ ih => simp only [List.length_append, List.length_cons] at ih; omega
  | again _ _ _ _ ih => simp only [List.length_append, List.length_replicate] at ih; omega
  | zeros _ _ _ ih => simp only [List.length_append, List.length_replicate] at ih; omega
  | manyZeros _ _ _ ih => simp only [List.length_append, List.length_replicate] at ih; omega

lemma readLengths_more {code : PrefixCode} {wanted fuel : Nat} {read : List Nat} (h : read.length < wanted) :
    readLengths code wanted (fuel + 1) read = (do
      let symbol ← code.read
      if symbol < 16 then readLengths code wanted fuel (symbol :: read)
      else if symbol = 16 then
        match read with
        | [] => throw .corrupt
        | last :: _ => do
          let times ← readBits 2
          readLengths code wanted fuel (List.replicate (3 + times) last ++ read)
      else if symbol = 17 then do
        let times ← readBits 3
        readLengths code wanted fuel (List.replicate (3 + times) 0 ++ read)
      else do
        let times ← readBits 7
        readLengths code wanted fuel (List.replicate (11 + times) 0 ++ read)) := by
  rw [readLengths.eq_def]
  simp only
  exact (if_neg (Nat.ne_of_gt h)).trans (if_neg (Nat.lt_asymm h))

lemma takes_readLengths {code known all : List Nat} {w : List Bool} (hc : IsCode code)
    (h : LengthBits code known w all) {fuel : Nat} (hf : all.length < known.length + fuel) :
    Takes (readLengths (ofLengths code) all.length fuel known.reverse) w all := by
  obtain ⟨fuel, rfl⟩ : ∃ n, fuel = n + 1 := ⟨fuel - 1, by have := h.length_le; omega⟩
  induction h generalizing fuel with
  | done known =>
    rw [readLengths.eq_def]
    simp only [List.length_reverse, List.reverse_reverse, if_true]
    exact Takes.pure _
  | @one known all n w hn h hrest ih =>
    have hle := hrest.length_le
    simp only [List.length_append, List.length_cons, List.length_nil] at hle ih
    obtain ⟨fuel, rfl⟩ : ∃ n, fuel = n + 1 := ⟨fuel - 1, by omega⟩
    rw [readLengths_more (by rw [List.length_reverse]; omega)]
    apply (takes_read hc h).bind
    rw [if_pos hn]
    have ht := ih fuel (by omega)
    rwa [List.reverse_append] at ht
  | @again known all last times w hl ht h hrest ih =>
    have hle := hrest.length_le
    simp only [List.length_append, List.length_replicate] at hle ih
    obtain ⟨fuel, rfl⟩ : ∃ n, fuel = n + 1 := ⟨fuel - 1, by omega⟩
    obtain ⟨before, rfl⟩ := List.getLast?_eq_some_iff.mp hl
    rw [readLengths_more (by rw [List.length_reverse]; omega)]
    apply (takes_read hc h).bind
    rw [if_neg (by omega), if_pos rfl, List.reverse_append, List.reverse_singleton, List.singleton_append]
    apply (takes_lowBits 2 ht).bind
    have ht := ih fuel (by omega)
    rwa [List.reverse_append, List.reverse_replicate, List.reverse_append, List.reverse_singleton,
      List.singleton_append] at ht
  | @zeros known all times w ht h hrest ih =>
    have hle := hrest.length_le
    simp only [List.length_append, List.length_replicate] at hle ih
    obtain ⟨fuel, rfl⟩ : ∃ n, fuel = n + 1 := ⟨fuel - 1, by omega⟩
    rw [readLengths_more (by rw [List.length_reverse]; omega)]
    apply (takes_read hc h).bind
    rw [if_neg (by omega), if_neg (by omega), if_pos rfl]
    apply (takes_lowBits 3 ht).bind
    have ht := ih fuel (by omega)
    rwa [List.reverse_append, List.reverse_replicate] at ht
  | @manyZeros known all times w ht h hrest ih =>
    have hle := hrest.length_le
    simp only [List.length_append, List.length_replicate] at hle ih
    obtain ⟨fuel, rfl⟩ : ∃ n, fuel = n + 1 := ⟨fuel - 1, by omega⟩
    rw [readLengths_more (by rw [List.length_reverse]; omega)]
    apply (takes_read hc h).bind
    rw [if_neg (by omega), if_neg (by omega), if_neg (by omega)]
    apply (takes_lowBits 7 ht).bind
    have ht := ih fuel (by omega)
    rwa [List.reverse_append, List.reverse_replicate] at ht

lemma shortLengths_isCode {short : List Nat} (hn : ∀ n ∈ short, n < 8)
    (hc : coverage (shortLengths short) 15 = 2 ^ 15) :
    IsCode (shortLengths short) where
  bounded := by
    intro n hmem
    obtain ⟨symbol, _, rfl⟩ := List.mem_map.mp hmem
    rw [List.getD_eq_getElem?_getD]
    cases hg : short[lengthOrder.idxOf symbol]? with
    | none => exact Nat.zero_le _
    | some n =>
      have hlt := hn n (List.mem_of_getElem? hg)
      rw [Option.getD_some]
      omega
  full := Or.inl hc

lemma takes_readCodes {w : List Bool} (h : CodeBits literals distances w) :
    Takes readCodes w (ofLengths literals, ofLengths distances) := by
  cases h with
  | @mk short w hl hd hs hn hc hlc hdc h =>
    have hshort := takes_readShortLengths short hn
    have hfuel : (literals ++ distances).length < ([] : List Nat).length +
      ((literals ++ distances).length + 1) := by simp
    have hlengths := takes_readLengths (shortLengths_isCode hn hc) h hfuel
    have hcomplete := (PrefixCode.isComplete_ofLengths _).mpr hc
    have hliterals : literals.length - 257 + 257 = literals.length := Nat.sub_add_cancel hl.1
    have hdistances : distances.length - 1 + 1 = distances.length := Nat.sub_add_cancel hd.1
    have hcount : short.length - 4 + 4 = short.length := Nat.sub_add_cancel hs.1
    rw [List.reverse_nil, List.length_append] at hlengths
    rw [readCodes]
    apply (takes_lowBits 5 (by omega)).bind
    apply (takes_lowBits 5 (by omega)).bind
    apply (takes_lowBits 4 (by omega)).bind
    rw [hliterals, hdistances, hcount]
    apply hshort.bind
    rw [if_neg (by omega), ← shortLengths, if_pos hcomplete, ← List.append_nil w]
    apply hlengths.bind
    simp only [List.take_left, List.drop_left, PrefixCode.isUsable_ofLengths hlc,
      PrefixCode.isUsable_ofLengths hdc, Bool.and_self, if_true]
    exact Takes.pure _

lemma fixedLiteralLengths_isCode : IsCode fixedLiteralLengths where
  bounded := by decide +kernel
  full := Or.inl (by decide +kernel)

lemma fixedDistanceLengths_isCode : IsCode fixedDistanceLengths where
  bounded := by decide +kernel
  full := Or.inl (by decide +kernel)

lemma CodeBits.isCode {w : List Bool} (h : CodeBits literals distances w) :
    IsCode literals ∧ IsCode distances := by
  cases h with
  | mk _ _ _ _ _ hlc hdc _ => exact ⟨hlc, hdc⟩

lemma BlockBits.kind_lt {before kind : Nat} {out out' : Bytes} {w : List Bool}
    (h : BlockBits before out kind w out') :
    kind < 4 := by
  cases h <;> decide

lemma BlockBits.length_le {before kind : Nat} {out out' : Bytes} {w : List Bool}
    (h : BlockBits before out kind w out') :
    out.length ≤ out'.length := by
  cases h with
  | stored => simp
  | fixed h => exact h.length_le
  | dynamic _ h => exact h.length_le

lemma Blocks.length_le {before : Nat} {out out' : Bytes} {w : List Bool} (h : Blocks before out w out') :
    out.length ≤ out'.length := by
  induction h with
  | last h => exact h.length_le
  | more h _ ih => exact h.length_le.trans ih

lemma inflateBlock_ends (ceiling : Nat) {before kind : Nat} {bytes : ByteArray} {w : List Bool} {out' : Bytes}
    (h : BlockBits before bytes.data.toList kind w out') {s : BitSource} {rest : List Bool}
    (hs : s.Holds (w ++ rest)) (ha : (before + w.length + rest.length) % 8 = 0) :
    (inflateBlock ceiling kind bytes s).Ends ceiling out' rest := by
  cases h with
  | @stored bs padding hp hb hl =>
    have hr : (bitsOf bs ++ rest).length % 8 = 0 := by
      rw [storedBits_length] at ha
      rw [List.length_append, bitsOf_length]
      omega
    simp only [storedBits, List.append_assoc] at hs
    obtain ⟨s', hread, hs'⟩ := takes_readStoredLength hp hl hr hs
    have hbits := (takes_alignToByte [] (Nat.zero_lt_succ 7) hr hs').2
    obtain ⟨ys, hys, rfl⟩ := bitsOf_eq_append hbits
    rw [inflateBlock, hread]
    simp only [hys]
    have hsize : bytes.size = bytes.data.toList.length := rfl
    rcases inflateStored_cases ceiling bytes bs ys with he | ⟨he, hc⟩
    · exact Or.inl ⟨_, _, he, pushed_toList bytes bs, BitSource.holds_bytes ys⟩
    · exact Or.inr ⟨he, by rw [List.length_append, ← hsize]; exact hc⟩
  | fixed h =>
    have hf : w.length ≤ s.size + 1 := by
      rw [hs.size, List.length_append]
      omega
    exact inflateItems_ends fixedLiteralLengths_isCode fixedDistanceLengths_isCode h hf hs
  | @dynamic literals distances v w _ hc h =>
    obtain ⟨hlc, hdc⟩ := hc.isCode
    rw [List.append_assoc] at hs
    obtain ⟨s', hread, hs'⟩ := takes_readCodes hc s _ hs
    have hf : w.length ≤ s'.size + 1 := by
      rw [hs'.size, List.length_append]
      omega
    rw [inflateBlock, hread]
    exact inflateItems_ends hlc hdc h hf hs'

lemma takes_blockHeader (last : Bool) {kind : Nat} (h : kind < 4) :
    Takes (do return (← readBit, ← readBits 2) : BitReader (Bool × Nat)) ([last] ++ lowBits 2 kind) (last, kind) :=
  (takes_readBit last).bind (takes_lowBits 2 h).bind_pure

lemma inflateBlocks_ends {before : Nat} {bytes : ByteArray} {w : List Bool} {out' : Bytes}
    (h : Blocks before bytes.data.toList w out') {fuel : Nat} (hf : w.length ≤ fuel) {s : BitSource}
    {rest : List Bool} (hs : s.Holds (w ++ rest)) (ha : (before + w.length + rest.length) % 8 = 0) :
    (inflateBlocks ceiling fuel bytes s).Ends ceiling out' rest := by
  generalize hout : bytes.data.toList = out at h
  induction h generalizing bytes fuel s with
  | @last before kind out out' w h =>
    subst hout
    simp only [List.length_append, List.length_cons, List.length_nil, lowBits_length] at hf ha
    obtain ⟨fuel, rfl⟩ : ∃ n, fuel = n + 1 := ⟨fuel - 1, by omega⟩
    rw [← List.append_assoc, List.append_assoc] at hs
    obtain ⟨s', hread, hs'⟩ := takes_blockHeader true h.kind_lt s _ hs
    rw [inflateBlocks, hread]
    rcases inflateBlock_ends ceiling h hs' (by omega) with ⟨o, s₁, he, ho, hs₁⟩ | ⟨he, hc⟩
    · simp only [he, if_true]
      exact Or.inl ⟨o, s₁, rfl, ho, hs₁⟩
    · simp only [he]
      exact Or.inr ⟨rfl, hc⟩
  | @more before kind out out₁ out' v w h hrest ih =>
    subst hout
    simp only [List.length_append, List.length_cons, List.length_nil, lowBits_length] at hf ha
    obtain ⟨fuel, rfl⟩ : ∃ n, fuel = n + 1 := ⟨fuel - 1, by omega⟩
    rw [← List.append_assoc, List.append_assoc, List.append_assoc] at hs
    obtain ⟨s', hread, hs'⟩ := takes_blockHeader false h.kind_lt s _ hs
    rw [List.append_assoc] at hs'
    rw [inflateBlocks, hread]
    have hr : (before + 3 + v.length + (w ++ rest).length) % 8 = 0 := by
      rw [List.length_append]
      omega
    rcases inflateBlock_ends ceiling h hs' hr with ⟨o, s₁, he, ho, hs₁⟩ | ⟨he, hc⟩
    · simp only [he, Bool.false_eq_true, if_false]
      exact ih (by omega) hs₁ (by omega) ho
    · simp only [he]
      exact Or.inr ⟨rfl, hc.trans hrest.length_le⟩

/-- What reading a stream comes to when it is given up at the end of the window in which the limit is passed. -/
def outcomeOf (limit : Nat) (stream : Bytes) : Outcome :=
  inflateBlocks ((limit / windowSize + 1) * windowSize) (BitSource.size ⟨[], stream⟩ + 1) ByteArray.empty
    ⟨[], stream⟩

def Outcome.verdict (limit : Nat) : Outcome → Except InflateError Bytes
  | .done out _ => if limit < out.size then .error (.tooLarge limit) else .ok out.data.toList
  | .full => .error (.tooLarge limit)
  | .failed .truncated out => .error (if limit < out.size then .tooLarge limit else .corruptStream)
  | .failed .corrupt _ => .error .corruptStream

lemma inflate_eq (limit : Nat) (stream : Bytes) : inflate limit stream = (outcomeOf limit stream).verdict limit :=
  rfl

lemma limit_lt_ceiling (limit : Nat) : limit < (limit / windowSize + 1) * windowSize := by
  rw [windowSize]
  omega

lemma outcomeOf_stream {stream data : Bytes} (h : IsStream stream data) (limit : Nat) :
    ∃ rest, rest.length < 8 ∧ (outcomeOf limit stream).Ends ((limit / windowSize + 1) * windowSize) data rest := by
  obtain ⟨w, rest, hblocks, hrest, hbits⟩ := h
  have hs := BitSource.holds_bytes stream
  rw [hbits] at hs
  have hl := congrArg List.length hbits
  rw [bitsOf_length, List.length_append] at hl
  refine ⟨rest, hrest, inflateBlocks_ends hblocks ?_ hs (by omega)⟩
  rw [hs.size, List.length_append]
  omega

/-- Whatever stream a compressor chooses, it inflates to its data if these are within the limit, and is refused
else. -/
theorem inflate_stream {stream data : Bytes} (h : IsStream stream data) (limit : Nat) :
    inflate limit stream = if data.length ≤ limit then .ok data else .error (.tooLarge limit) := by
  have hlimit := limit_lt_ceiling limit
  obtain ⟨rest, _, hends⟩ := outcomeOf_stream h limit
  rw [inflate_eq]
  rcases hends with ⟨out, s, he, rfl, _⟩ | ⟨he, hc⟩
  · have hsize : out.size = out.data.toList.length := rfl
    rw [he, Outcome.verdict, hsize]
    split_ifs with h₁ h₂ h₂
    · omega
    · rfl
    · rfl
    · omega
  · rw [he, Outcome.verdict, if_neg (by omega)]

end IdentityProvider.Deflate
