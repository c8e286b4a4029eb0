import IdentityProvider.Proofs.Transport.Inflate
/-! Streams that are cut off: what more bytes behind a stream change, and that a part of a complete stream is
refused. -/

namespace IdentityProvider.Deflate

def BitSource.followedBy (s : BitSource) (more : Bytes) : BitSource :=
  ⟨s.held, s.bytes ++ more⟩

/-- A reader that does not run out of bits does the same with more bytes behind them. -/
def Steady {α : Type} (x : BitReader α) : Prop :=
  ∀ s more, x s = .error .truncated ∨ x (s.followedBy more) = (x s).map fun r => (r.1, r.2.followedBy more)

namespace Steady

variable {α β : Type} {x : BitReader α} {f : α → BitReader β}

lemma pure (a : α) : Steady (pure a) :=
  fun _ _ => Or.inr rfl

lemma throw (fault : Fault) : Steady (throw fault : BitReader α) :=
  fun _ _ => Or.inr rfl

lemma bind (hx : Steady x) (hf : ∀ a, Steady (f a)) : Steady (x >>= f) := by
  intro s more
  have hb : ∀ s, (x >>= f) s = Except.bind (x s) fun r => f r.1 r.2 := fun _ => rfl
  rw [hb, hb]
  rcases hx s more with ht | hsame
  · rw [ht]
    exact Or.inl rfl
  · rw [hsame]
    cases x s with
    | error fault => exact Or.inr rfl
    | ok r => exact hf r.1 r.2 more

lemma ite {p : Prop} [Decidable p] {x y : BitReader α} (hx : Steady x) (hy : Steady y) :
    Steady (if p then x else y) := by
  split_ifs
  · exact hx
  · exact hy

lemma refuseIf {p : Prop} [Decidable p] {fault : Fault} {k : Unit → BitReader α} (hk : Steady (k ())) :
    Steady (if p then MonadExcept.throw fault >>= k else k ()) :=
  .ite ((Steady.throw fault).bind fun _ => hk) hk

lemma refuseUnless {p : Prop} [Decidable p] {fault : Fault} {k : Unit → BitReader α} (hk : Steady (k ())) :
    Steady (if p then k () else MonadExcept.throw fault >>= k) :=
  .ite hk ((Steady.throw fault).bind fun _ => hk)

lemma cases (hx : Steady x) (s : BitSource) (more : Bytes) :
    x s = .error .truncated ∨ (x s = .error .corrupt ∧ x (s.followedBy more) = .error .corrupt) ∨
      ∃ a rest, x s = .ok (a, rest) ∧ x (s.followedBy more) = .ok (a, rest.followedBy more) := by
  rcases hx s more with ht | hsame
  · exact Or.inl ht
  · rw [hsame]
    cases x s with
    | error fault =>
      cases fault with
      | truncated => exact Or.inl rfl
      | corrupt => exact Or.inr (Or.inl ⟨rfl, rfl⟩)
    | ok r => exact Or.inr (Or.inr ⟨r.1, r.2, rfl, rfl⟩)

end Steady

lemma steady_readBit : Steady readBit := by
  rintro ⟨held, bytes⟩ more
  cases held with
  | cons bit held => exact Or.inr rfl
  | nil =>
    cases bytes with
    | nil => exact Or.inl rfl
    | cons b bytes => exact Or.inr rfl

lemma steady_readBits (n : Nat) : Steady (readBits n) := by
  induction n with
  | zero => exact .pure 0
  | succ n ih => exact steady_readBit.bind fun _ => ih.bind fun _ => .pure _

lemma steady_alignToByte : Steady alignToByte :=
  fun _ _ => Or.inr rfl

lemma steady_readFrom (symbols : Array Nat) (counts : List Nat) (prior first index : Nat) :
    Steady (PrefixCode.readFrom symbols prior first index counts) := by
  induction counts generalizing prior first index with
  | nil => exact .throw _
  | cons n counts ih => exact steady_readBit.bind fun _ => .ite (.pure _) (ih _ _ _)

lemma steady_read (code : PrefixCode) : Steady code.read :=
  steady_readFrom _ _ _ _ _

lemma steady_readBased (bases : Array (Nat × Nat)) (symbol : Nat) : Steady (readBased bases symbol) := by
  rw [readBased]
  cases bases[symbol]? with
  | none => exact .throw _
  | some base => exact (steady_readBits _).bind fun _ => .pure _

lemma steady_readItem (literals distances : PrefixCode) : Steady (readItem literals distances) := by
  refine (steady_read literals).bind fun symbol => .ite (.pure _) (.ite (.pure _) ?_)
  refine (steady_readBased _ _).bind fun _ => (steady_read distances).bind fun _ => ?_
  exact (steady_readBased _ _).bind fun _ => .pure _

lemma steady_readStoredLength : Steady readStoredLength := by
  refine steady_alignToByte.bind fun _ => (steady_readBits 16).bind fun _ => (steady_readBits 16).bind fun _ => ?_
  exact .ite (.pure _) (.throw _)

lemma steady_readShortLengths (n : Nat) : Steady (readShortLengths n) := by
  induction n with
  | zero => exact .pure []
  | succ n ih => exact (steady_readBits 3).bind fun _ => ih.bind fun _ => .pure _

lemma steady_readLengths (code : PrefixCode) (wanted fuel : Nat) (read : List Nat) :
    Steady (readLengths code wanted fuel read) := by
  induction fuel generalizing read with
  | zero => exact .throw _
  | succ fuel ih =>
    rw [readLengths.eq_def]
    refine .ite (.pure _) (.ite (.throw _) ((steady_read code).bind fun symbol => .ite (ih _)
      (.ite ?_ (.ite ?_ ?_))))
    · cases read with
      | nil => exact .throw _
      | cons last read => exact (steady_readBits 2).bind fun _ => ih _
    · exact (steady_readBits 3).bind fun _ => ih _
    · exact (steady_readBits 7).bind fun _ => ih _

lemma steady_readCodes : Steady readCodes := by
  refine (steady_readBits 5).bind fun _ => (steady_readBits 5).bind fun _ => (steady_readBits 4).bind fun _ => ?_
  refine (steady_readShortLengths _).bind fun _ => .refuseIf (.refuseUnless ?_)
  exact (steady_readLengths _ _ _ _).bind fun _ => .refuseUnless (.pure _)

lemma steady_blockHeader : Steady (do return (← readBit, ← readBits 2) : BitReader (Bool × Nat)) :=
  steady_readBit.bind fun _ => (steady_readBits 2).bind fun _ => .pure _

def Outcome.Reaches (n : Nat) : Outcome → Prop
  | .done out _ => n ≤ out.size
  | .full => True
  | .failed _ out => n ≤ out.size

/-- What becomes of an outcome with more bytes behind the stream. Only what was cut off goes on. -/
inductive Outcome.Resumes (more : Bytes) : Outcome → Outcome → Prop
  | done (out : ByteArray) (s : BitSource) : Resumes more (.done out s) (.done out (s.followedBy more))
  | full : Resumes more .full .full
  | corrupt (out : ByteArray) : Resumes more (.failed .corrupt out) (.failed .corrupt out)
  | truncated {out : ByteArray} {o : Outcome} (h : o.Reaches out.size) : Resumes more (.failed .truncated out) o

lemma Outcome.Reaches.trans {o : Outcome} {m n : Nat} (h : o.Reaches n) (hm : m ≤ n) : o.Reaches m := by
  cases o with
  | done out s => exact hm.trans h
  | full => trivial
  | failed fault out => exact hm.trans h

lemma copyBack_size (distance n : Nat) (out : ByteArray) : (copyBack distance n out).size = out.size + n := by
  induction n generalizing out with
  | zero => rfl
  | succ n ih =>
    rw [copyBack, ih, ByteArray.size_push]
    omega

lemma inflateItems_reaches (literals distances : PrefixCode) (ceiling fuel : Nat) (out : ByteArray)
    (s : BitSource) :
    (inflateItems literals distances ceiling fuel out s).Reaches out.size := by
  induction fuel generalizing out s with
  | zero => exact Nat.le_refl _
  | succ fuel ih =>
    rw [inflateItems]
    split_ifs
    · trivial
    · cases readItem literals distances s with
      | error fault => exact Nat.le_refl _
      | ok r =>
        obtain ⟨item, rest⟩ := r
        cases item with
        | literal b => exact (ih (out.push b) rest).trans (by rw [ByteArray.size_push]; omega)
        | copy length distance =>
          exact (ih (copyBack distance length out) rest).trans (by rw [copyBack_size]; omega)
        | stop => exact Nat.le_refl _

lemma inflateStored_reaches (ceiling n : Nat) (out : ByteArray) (bytes : Bytes) :
    (inflateStored ceiling n out bytes).Reaches out.size := by
  induction n generalizing out bytes with
  | zero => exact Nat.le_refl _
  | succ n ih =>
    cases bytes with
    | nil => exact Nat.le_refl _
    | cons b bytes =>
      rw [inflateStored]
      split_ifs
      · trivial
      · exact (ih (out.push b) bytes).trans (by rw [ByteArray.size_push]; omega)

lemma inflateBlock_reaches (ceiling kind : Nat) (out : ByteArray) (s : BitSource) :
    (inflateBlock ceiling kind out s).Reaches out.size := by
  rw [inflateBlock.eq_def]
  split
  · cases readStoredLength s with
    | error fault => exact Nat.le_refl _
    | ok r => exact inflateStored_reaches _ _ _ _
  · exact inflateItems_reaches _ _ _ _ _ _
  · cases readCodes s with
    | error fault => exact Nat.le_refl _
    | ok r => exact inflateItems_reaches _ _ _ _ _ _
  · exact Nat.le_refl _

lemma Outcome.reaches_next {n : Nat} {last : Bool} {k : ByteArray → BitSource → Outcome}
    (hk : ∀ out s, (k out s).Reaches out.size) (o : Outcome) :
    o.Reaches n → Outcome.Reaches n (match o with
      | .done out rest => if last then .done out rest else k out rest
      | .full => .full
      | .failed fault out => .failed fault out) := by
  intro h
  cases o with
  | done out s =>
    cases last with
    | true => exact h
    | false => exact (hk out s).trans h
  | full => trivial
  | failed fault out => exact h

lemma inflateBlocks_reaches (ceiling fuel : Nat) (out : ByteArray) (s : BitSource) :
    (inflateBlocks ceiling fuel out s).Reaches out.size := by
  induction fuel generalizing out s with
  | zero => exact Nat.le_refl _
  | succ fuel ih =>
    rw [inflateBlocks]
    cases (do return (← readBit, ← readBits 2) : BitReader (Bool × Nat)) s with
    | error fault => exact Nat.le_refl _
    | ok r =>
      obtain ⟨⟨last, kind⟩, rest⟩ := r
      exact Outcome.reaches_next ih _ (inflateBlock_reaches ceiling kind out rest)

lemma BitSource.size_le_followedBy (s : BitSource) (more : Bytes) : s.size ≤ (s.followedBy more).size := by
  simp only [BitSource.size, BitSource.followedBy, List.length_append]
  omega

section Resuming

variable (ceiling : Nat) (out : ByteArray) (s : BitSource) (more : Bytes)

lemma inflateItems_resumes (literals distances : PrefixCode) {fuel fuel' : Nat} (hf : fuel ≤ fuel') :
    Outcome.Resumes more (inflateItems literals distances ceiling fuel out s)
      (inflateItems literals distances ceiling fuel' out (s.followedBy more)) := by
  induction fuel generalizing fuel' out s with
  | zero => exact .truncated (inflateItems_reaches _ _ _ _ _ _)
  | succ fuel ih =>
    obtain ⟨fuel', rfl⟩ : ∃ n, fuel' = n + 1 := ⟨fuel' - 1, by omega⟩
    have hreach := inflateItems_reaches literals distances ceiling (fuel' + 1) out (s.followedBy more)
    rw [inflateItems] at hreach
    rw [inflateItems, inflateItems]
    split_ifs at hreach ⊢
    · exact .full
    · rcases (steady_readItem literals distances).cases s more with ht | ⟨hs, hf⟩ | ⟨item, rest, hs, hf⟩
      · rw [ht]
        exact .truncated hreach
      · rw [hs, hf]
        exact .corrupt out
      · rw [hs, hf]
        cases item with
        | literal b => exact ih _ _ (by omega)
        | copy length distance => exact ih _ _ (by omega)
        | stop => exact .done out rest

lemma inflateStored_resumes (n : Nat) (bytes : Bytes) :
    Outcome.Resumes more (inflateStored ceiling n out bytes) (inflateStored ceiling n out (bytes ++ more)) := by
  induction n generalizing out bytes with
  | zero => exact .done out ⟨[], bytes⟩
  | succ n ih =>
    cases bytes with
    | nil => exact .truncated (inflateStored_reaches _ _ _ _)
    | cons b bytes =>
      rw [List.cons_append, inflateStored, inflateStored]
      split_ifs
      · exact .full
      · exact ih _ bytes

lemma inflateBlock_resumes (kind : Nat) :
    Outcome.Resumes more (inflateBlock ceiling kind out s)
      (inflateBlock ceiling kind out (s.followedBy more)) := by
  have hreach := inflateBlock_reaches ceiling kind out (s.followedBy more)
  rw [inflateBlock.eq_def] at hreach
  rw [inflateBlock.eq_def, inflateBlock.eq_def]
  split
  · rcases steady_readStoredLength.cases s more with ht | ⟨hs, hf⟩ | ⟨length, rest, hs, hf⟩
    · rw [ht]
      exact .truncated hreach
    · rw [hs, hf]
      exact .corrupt out
    · rw [hs, hf]
      exact inflateStored_resumes ceiling out more length rest.bytes
  · exact inflateItems_resumes ceiling out s more _ _ (Nat.succ_le_succ (s.size_le_followedBy more))
  · rcases steady_readCodes.cases s more with ht | ⟨hs, hf⟩ | ⟨codes, rest, hs, hf⟩
    · rw [ht]
      exact .truncated hreach
    · rw [hs, hf]
      exact .corrupt out
    · rw [hs, hf]
      exact inflateItems_resumes ceiling out rest more _ _ (Nat.succ_le_succ (rest.size_le_followedBy more))
  · exact .corrupt out

lemma inflateBlocks_resumes {fuel fuel' : Nat} (hf : fuel ≤ fuel') :
    Outcome.Resumes more (inflateBlocks ceiling fuel out s)
      (inflateBlocks ceiling fuel' out (s.followedBy more)) := by
  induction fuel generalizing fuel' out s with
  | zero => exact .truncated (inflateBlocks_reaches _ _ _ _)
  | succ fuel ih =>
    obtain ⟨fuel', rfl⟩ : ∃ n, fuel' = n + 1 := ⟨fuel' - 1, by omega⟩
    have hreach := inflateBlocks_reaches ceiling (fuel' + 1) out (s.followedBy more)
    rw [inflateBlocks] at hreach
    rw [inflateBlocks, inflateBlocks]
    rcases steady_blockHeader.cases s more with ht | ⟨hs, hf⟩ | ⟨⟨last, kind⟩, rest, hs, hf⟩
    · rw [ht]
      exact .truncated hreach
    · rw [hs, hf]
      exact .corrupt out
    · rw [hs, hf]
      have hblock := inflateBlock_resumes ceiling out rest more kind
      simp only
      generalize inflateBlock ceiling kind out rest = o, inflateBlock ceiling kind out (rest.followedBy more) =
        o' at hblock
      cases hblock with
      | done out' rest' =>
        cases last with
        | true => exact .done out' rest'
        | false => exact ih out' rest' (by omega)
      | full => exact .full
      | corrupt out' => exact .corrupt out'
      | truncated h => exact .truncated (Outcome.reaches_next (inflateBlocks_reaches ceiling fuel') o' h)

end Resuming

theorem inflate_cut {stream data cut : Bytes} (h : IsStream stream data) (hcut : cut <+: stream)
    (hne : cut ≠ stream) (limit : Nat) :
    inflate limit cut = .error .corruptStream ∨
      (limit < data.length ∧ inflate limit cut = .error (.tooLarge limit)) := by
  obtain ⟨more, rfl⟩ := hcut
  have hmore : more ≠ [] := by
    rintro rfl
    exact hne (List.append_nil cut).symm
  have hlimit := limit_lt_ceiling limit
  obtain ⟨rest, hrest, hends⟩ := outcomeOf_stream h limit
  have hresumes : Outcome.Resumes more (outcomeOf limit cut) (outcomeOf limit (cut ++ more)) :=
    inflateBlocks_resumes _ ByteArray.empty ⟨[], cut⟩ more
      (Nat.succ_le_succ (BitSource.size_le_followedBy ⟨[], cut⟩ more))
  rw [inflate_eq]
  generalize outcomeOf limit cut = o, outcomeOf limit (cut ++ more) = o' at hresumes hends ⊢
  cases hresumes with
  | done out s =>
    rcases hends with ⟨_, s', he, _, hs'⟩ | ⟨he, _⟩
    · -- The bytes that were cut off would be left over.
      cases he
      have hl := congrArg List.length hs'.left
      have hpos := List.length_pos_iff.mpr hmore
      simp only [BitSource.followedBy, List.length_append, bitsOf_length] at hl
      omega
    · cases he
  | full =>
    rcases hends with ⟨_, _, he, _⟩ | ⟨_, hc⟩
    · cases he
    · exact Or.inr ⟨by omega, rfl⟩
  | corrupt out => exact Or.inl rfl
  | @truncated out _ hreach =>
    rw [Outcome.verdict]
    split_ifs with hlarge
    · refine Or.inr ⟨?_, rfl⟩
      rcases hends with ⟨out', s', he, rfl, _⟩ | ⟨_, hc⟩
      · rw [he] at hreach
        exact hlarge.trans_le hreach
      · omega
    · exact Or.inl rfl

end IdentityProvider.Deflate
