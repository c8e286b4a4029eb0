import IdentityProvider.Proofs.Transport.BitStream
/-! Prefix codes in canonical form: the words that the lengths of a code assign to its symbols are read as these
symbols. -/

namespace IdentityProvider.Deflate

def share (width length : Nat) : Nat :=
  if 0 < length ∧ length ≤ width then 2 ^ (width - length) else 0

def coverage (lengths : List Nat) (width : Nat) : Nat :=
  (lengths.map (share width)).sum

/-- Code lengths in which every word of 15 bits begins with exactly one codeword. Zero means that a symbol is
not used. The code of a single symbol may leave words out. -/
structure IsCode (lengths : List Nat) : Prop where
  bounded : ∀ n ∈ lengths, n ≤ 15
  full : coverage lengths 15 = 2 ^ 15 ∨ lengths.countP (0 < ·) ≤ 1

def firstCode (lengths : List Nat) : Nat → Nat
  | 0 => 0
  | n + 1 => 2 * (firstCode lengths n + if n = 0 then 0 else lengths.count n)

/-- Shorter codewords come before longer ones, and among those of one length the symbols decide. Their highest
bit is written first. -/
def codeword (lengths : List Nat) (symbol : Nat) : List Bool :=
  let n := lengths.getD symbol 0
  (lowBits n (firstCode lengths n + (lengths.take symbol).count n)).reverse

def used (lengths : List Nat) (n : Nat) : Nat :=
  ((List.range n).map fun i => lengths.count (i + 1)).sum

lemma used_succ (lengths : List Nat) (n : Nat) :
    used lengths (n + 1) = used lengths n + lengths.count (n + 1) := by
  simp [used, List.range_succ]

lemma used_eq_countP (lengths : List Nat) (n : Nat) :
    used lengths n = lengths.countP fun l => decide (0 < l ∧ l ≤ n) := by
  induction n with
  | zero =>
    have hz : (fun l => decide (0 < l ∧ l ≤ 0)) = fun _ : Nat => false := by
      funext l
      simp only [decide_eq_false_iff_not]
      omega
    rw [hz, List.countP_false]
    rfl
  | succ n ih =>
    rw [used_succ, ih]
    clear ih
    induction lengths with
    | nil => rfl
    | cons l lengths ihl =>
      simp only [List.countP_cons, List.count_cons, decide_eq_true_eq, beq_iff_eq] at ihl ⊢
      split_ifs <;> omega

lemma share_succ (width length : Nat) :
    share (width + 1) length = 2 * share width length + if length = width + 1 then 1 else 0 := by
  rcases Nat.lt_trichotomy length (width + 1) with h | rfl | h
  · by_cases hz : 0 < length
    · have hs : width + 1 - length = width - length + 1 := by omega
      rw [share, if_pos ⟨hz, by omega⟩, share, if_pos ⟨hz, by omega⟩, if_neg (by omega), hs, Nat.pow_succ]
      omega
    · rw [share, if_neg (by omega), share, if_neg (by omega), if_neg (by omega)]
  · rw [share, if_pos ⟨by omega, by omega⟩, share, if_neg (by omega), if_pos rfl, Nat.sub_self]
    rfl
  · rw [share, if_neg (by omega), share, if_neg (by omega), if_neg (by omega)]

lemma coverage_succ (lengths : List Nat) (width : Nat) :
    coverage lengths (width + 1) = 2 * coverage lengths width + lengths.count (width + 1) := by
  induction lengths with
  | nil => rfl
  | cons l lengths ih =>
    simp only [coverage, List.map_cons, List.sum_cons, share_succ, List.count_cons, beq_iff_eq] at ih ⊢
    omega

lemma coverage_zero (lengths : List Nat) : coverage lengths 0 = 0 := by
  induction lengths with
  | nil => rfl
  | cons l lengths ih =>
    rw [coverage] at ih
    rw [coverage, List.map_cons, List.sum_cons, ih, share, if_neg (by omega)]

lemma firstCode_step (lengths : List Nat) (n : Nat) :
    firstCode lengths (n + 1 + 1) = 2 * (firstCode lengths (n + 1) + lengths.count (n + 1)) := rfl

lemma firstCode_succ (lengths : List Nat) (n : Nat) : firstCode lengths (n + 1) = 2 * coverage lengths n := by
  induction n with
  | zero =>
    rw [coverage_zero]
    rfl
  | succ n ih => rw [firstCode_step, ih, coverage_succ]

lemma coverage_le (lengths : List Nat) (width extra : Nat) :
    2 ^ extra * coverage lengths width ≤ coverage lengths (width + extra) := by
  induction extra with
  | zero => simp
  | succ extra ih =>
    have hs : coverage lengths (width + (extra + 1)) = 2 * coverage lengths (width + extra) +
        lengths.count (width + extra + 1) := coverage_succ lengths (width + extra)
    rw [hs, Nat.pow_succ, Nat.mul_comm (2 ^ extra) 2, Nat.mul_assoc]
    omega

lemma share_le (width length : Nat) : share width length ≤ if 0 < length then 2 ^ width else 0 := by
  rw [share]
  split_ifs with h hl
  · exact Nat.pow_le_pow_right (by omega) (Nat.sub_le width length)
  · omega
  · exact Nat.zero_le _
  · exact Nat.zero_le _

lemma coverage_le_countP (lengths : List Nat) (width : Nat) :
    coverage lengths width ≤ 2 ^ width * lengths.countP (0 < ·) := by
  induction lengths with
  | nil => exact Nat.zero_le _
  | cons l lengths ih =>
    have hs := share_le width l
    simp only [coverage, List.map_cons, List.sum_cons, List.countP_cons, decide_eq_true_eq] at ih ⊢
    split_ifs at hs ⊢ with hl
    · rw [Nat.mul_add]
      omega
    · rw [Nat.add_zero]
      omega

lemma IsCode.coverage_le {lengths : List Nat} (h : IsCode lengths) {n : Nat} (hn : n ≤ 15) :
    coverage lengths n ≤ 2 ^ n := by
  have hfull : coverage lengths 15 ≤ 2 ^ 15 := by
    rcases h.full with he | hc
    · exact Nat.le_of_eq he
    · exact (coverage_le_countP lengths 15).trans (Nat.mul_le_mul_left (2 ^ 15) hc)
  have hs := Deflate.coverage_le lengths n (15 - n)
  rw [Nat.add_sub_of_le hn] at hs
  have hp : 2 ^ (15 - n) * 2 ^ n = 2 ^ 15 := by rw [← Nat.pow_add, Nat.sub_add_cancel hn]
  exact Nat.le_of_mul_le_mul_left (by rw [hp]; exact hs.trans hfull) (Nat.two_pow_pos (15 - n))

namespace PrefixCode

lemma counts_ofLengths (lengths : List Nat) :
    (ofLengths lengths).counts = (List.range' 1 15).map lengths.count := by
  rw [ofLengths, List.range'_eq_map_range, List.map_map, List.map_map]
  apply List.map_congr_left
  intro n _
  rw [Function.comp_apply, Function.comp_apply, Nat.add_comm]

lemma foldl_counts (lengths : List Nat) (n : Nat) :
    ((List.range' 1 n).map lengths.count).foldl (fun total k => 2 * (total + k)) 0 =
      firstCode lengths (n + 1) := by
  induction n with
  | zero => rfl
  | succ n ih =>
    rw [List.range'_1_concat, List.map_append, List.foldl_append, ih, firstCode_step, Nat.add_comm 1 n]
    rfl

lemma isComplete_ofLengths (lengths : List Nat) : (ofLengths lengths).isComplete = true ↔
    coverage lengths 15 = 2 ^ 15 := by
  rw [isComplete, counts_ofLengths, foldl_counts, firstCode_succ, beq_iff_eq]
  omega

def bucket (lengths : List Nat) (n : Nat) : List Nat :=
  (lengths.zipIdx.filter (fun p => p.1 == n)).map Prod.snd

lemma bucket_length (lengths : List Nat) (n start : Nat) :
    ((lengths.zipIdx start).filter (fun p => p.1 == n)).length = lengths.count n := by
  induction lengths generalizing start with
  | nil => rfl
  | cons l lengths ih =>
    rw [List.zipIdx_cons, List.filter_cons, List.count_cons]
    split_ifs
    · rw [List.length_cons, ih]
    · rw [ih, Nat.add_zero]

lemma symbols_ofLengths (lengths : List Nat) :
    (ofLengths lengths).symbols.toList = (List.range 15).flatMap fun i => bucket lengths (i + 1) := by
  rw [ofLengths, List.toList_toArray, List.flatMap_map]
  rfl

lemma flatMap_bucket_length (lengths : List Nat) (n : Nat) :
    ((List.range n).flatMap fun i => bucket lengths (i + 1)).length = used lengths n := by
  induction n with
  | zero => rfl
  | succ n ih =>
    rw [List.range_succ, List.flatMap_append, List.length_append, ih, used_succ, List.flatMap_singleton, bucket,
      List.length_map, bucket_length]

lemma isUsable_ofLengths {lengths : List Nat} (h : IsCode lengths) : (ofLengths lengths).isUsable = true := by
  rw [isUsable, Bool.or_eq_true, isComplete_ofLengths]
  refine h.full.imp_right ?_
  intro hc
  have hle : lengths.countP (fun l => decide (0 < l ∧ l ≤ 15)) ≤ lengths.countP (0 < ·) := by
    apply List.countP_mono_left
    intro l _ hl
    simp only [decide_eq_true_eq] at hl ⊢
    exact hl.1
  rw [decide_eq_true_eq, ← Array.length_toList, symbols_ofLengths, flatMap_bucket_length, used_eq_countP]
  exact hle.trans hc

lemma bucket_rank {lengths : List Nat} {symbol n : Nat} (h : lengths[symbol]? = some n) (start : Nat) :
    (((lengths.zipIdx start).filter (fun p => p.1 == n)).map Prod.snd)[(lengths.take symbol).count n]? =
      some (start + symbol) := by
  induction lengths generalizing symbol start with
  | nil => cases h
  | cons l lengths ih =>
    cases symbol with
    | zero =>
      rw [List.getElem?_cons_zero, Option.some.injEq] at h
      simp [List.zipIdx_cons, h]
    | succ symbol =>
      rw [List.getElem?_cons_succ] at h
      have hrank := ih h (start + 1)
      rw [List.zipIdx_cons, List.filter_cons, List.take_succ_cons, List.count_cons]
      simp only [beq_iff_eq]
      split_ifs with hl
      · rw [List.map_cons, List.getElem?_cons_succ, hrank]
        congr 1
        omega
      · simp only [Nat.add_zero]
        rw [hrank]
        congr 1
        omega

lemma symbols_rank {lengths : List Nat} {symbol n : Nat} (h : lengths[symbol]? = some (n + 1)) (hn : n + 1 ≤ 15) :
    (ofLengths lengths).symbols.getD (used lengths n + (lengths.take symbol).count (n + 1)) 0 = symbol := by
  have hsplit : List.range 15 = List.range n ++ (n :: (List.range (14 - n)).map (n + 1 + ·)) := by
    have h15 : (15 : Nat) = n + (1 + (14 - n)) := by omega
    rw [h15, List.range_add, List.range_add, List.map_append, List.map_map]
    have h14 : n + (1 + (14 - n)) - 1 - n = 14 - n := by omega
    simp [Function.comp_def, Nat.add_assoc]
  have hrank := bucket_rank h 0
  rw [Nat.zero_add] at hrank
  have hlt : (lengths.take symbol).count (n + 1) < (bucket lengths (n + 1)).length :=
    (List.getElem?_eq_some_iff.mp hrank).1
  rw [Array.getD_eq_getD_getElem?, ← Array.getElem?_toList, symbols_ofLengths, hsplit, List.flatMap_append,
    List.getElem?_append_right (by rw [flatMap_bucket_length]; omega), flatMap_bucket_length,
    Nat.add_sub_cancel_left, List.flatMap_cons, List.getElem?_append_left hlt]
  exact congrArg (·.getD 0) hrank

lemma rank_lt {lengths : List Nat} {symbol n : Nat} (h : lengths[symbol]? = some n) :
    (lengths.take symbol).count n < lengths.count n := by
  have hlt := (List.getElem?_eq_some_iff.mp (bucket_rank h 0)).1
  rwa [List.length_map, bucket_length] at hlt

lemma reverse_lowBits_succ (width n : Nat) :
    (lowBits (width + 1) n).reverse = [n.testBit width] ++ (lowBits width n).reverse := by
  rw [lowBits, List.range_succ, List.map_append, List.reverse_append]
  rfl

lemma two_mul_div_add_testBit (n k : Nat) : 2 * (n / 2 ^ (k + 1)) + (n.testBit k).toNat = n / 2 ^ k := by
  have hb : (n.testBit k).toNat = n / 2 ^ k % 2 := by
    rw [Nat.testBit_eq_decide_div_mod_eq]
    rcases Nat.mod_two_eq_zero_or_one (n / 2 ^ k) with h | h <;> simp [h]
  rw [hb, Nat.pow_succ, ← Nat.div_div_eq_div_mul]
  omega

variable {lengths : List Nat} {symbols : Array Nat} {n code symbol : Nat}

/-- On the way to a codeword, each shorter word comes after all codewords of its length. -/
lemma takes_readFrom (hfirst : firstCode lengths (n + 1) ≤ code)
    (hlast : code < firstCode lengths (n + 1) + lengths.count (n + 1))
    (hsymbol : symbols.getD (used lengths n + (code - firstCode lengths (n + 1))) 0 = symbol) (tail : List Nat)
    (m k : Nat) (hk : k + m = n) :
    Takes (readFrom symbols (code / 2 ^ (m + 1)) (firstCode lengths (k + 1)) (used lengths k)
      ((List.range' (k + 1) (m + 1)).map lengths.count ++ tail)) (lowBits (m + 1) code).reverse symbol := by
  induction m generalizing k with
  | zero =>
    subst hk
    have hbit := two_mul_div_add_testBit code 0
    rw [Nat.pow_zero, Nat.div_one] at hbit
    rw [List.range'_succ, List.map_cons, List.cons_append, readFrom, reverse_lowBits_succ]
    apply (takes_readBit _).bind
    simp only [Nat.zero_add] at hbit ⊢
    rw [hbit, if_pos hlast, Nat.add_zero] at *
    rw [← hsymbol]
    exact Takes.pure _
  | succ m ih =>
    have hbit := two_mul_div_add_testBit code (m + 1)
    have hcover : ¬ code / 2 ^ (m + 1) < firstCode lengths (k + 1) + lengths.count (k + 1) := by
      have hs := Deflate.coverage_le lengths (k + 1) m
      have hf : firstCode lengths (n + 1) = 2 * coverage lengths (k + 1 + m) := by
        rw [firstCode_succ]
        congr 2
        omega
      rw [Nat.not_lt, Nat.le_div_iff_mul_le (Nat.two_pow_pos _), firstCode_succ, ← coverage_succ, Nat.pow_succ,
        Nat.mul_comm]
      rw [Nat.mul_comm (2 ^ m) 2, Nat.mul_assoc]
      omega
    rw [List.range'_succ, List.map_cons, List.cons_append, readFrom, reverse_lowBits_succ]
    apply (takes_readBit _).bind
    simp only [hbit]
    rw [if_neg hcover]
    rw [← firstCode_step, ← used_succ]
    exact ih (k + 1) (by omega)

theorem takes_read (h : IsCode lengths) (hs : 0 < lengths.getD symbol 0) :
    Takes (ofLengths lengths).read (codeword lengths symbol) symbol := by
  obtain ⟨l, hl⟩ : ∃ l, lengths[symbol]? = some l := by
    cases hl : lengths[symbol]? with
    | none =>
      rw [List.getD_eq_getElem?_getD, hl] at hs
      cases hs
    | some l => exact ⟨l, rfl⟩
  have hget : lengths.getD symbol 0 = l := by rw [List.getD_eq_getElem?_getD, hl, Option.getD_some]
  rw [hget] at hs
  obtain ⟨n, rfl⟩ : ∃ n, l = n + 1 := ⟨l - 1, by omega⟩
  have hn : n + 1 ≤ 15 := h.bounded _ (List.mem_of_getElem? hl)
  have hrank := rank_lt hl
  let code := firstCode lengths (n + 1) + (lengths.take symbol).count (n + 1)
  have hlast : code < firstCode lengths (n + 1) + lengths.count (n + 1) := Nat.add_lt_add_left hrank _
  have hsymbol : (ofLengths lengths).symbols.getD (used lengths n + (code - firstCode lengths (n + 1))) 0 =
    symbol := by
    rw [Nat.add_sub_cancel_left, symbols_rank hl hn]
  have hcode : code / 2 ^ (n + 1) = 0 := by
    have hc := h.coverage_le hn
    rw [coverage_succ, ← firstCode_succ] at hc
    exact Nat.div_eq_of_lt (hlast.trans_le hc)
  have hcounts : List.range' 1 15 = List.range' (0 + 1) (n + 1) ++ List.range' (n + 2) (14 - n) := by
    have h15 : n + 1 + (14 - n) = 15 := by omega
    have ha := List.range'_append_1 (s := 1) (m := n + 1) (n := 14 - n)
    rw [h15] at ha
    rw [← ha, Nat.add_comm 1 (n + 1)]
  have ht := takes_readFrom (Nat.le_add_right _ _) hlast hsymbol
    ((List.range' (n + 2) (14 - n)).map lengths.count) n 0
    (Nat.zero_add n)
  rw [hcode, ← List.map_append, ← hcounts, ← counts_ofLengths] at ht
  rw [codeword, hget]
  exact ht

end PrefixCode

end IdentityProvider.Deflate
