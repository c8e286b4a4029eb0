import IdentityProvider.Proofs.Transport.PrefixCode
/-! Complete streams: blocks up to one that says it is the last, as bits, and the bytes that they stand for. -/

namespace IdentityProvider.Deflate

structure Copies (out : Bytes) (length distance : Nat) (out' : Bytes) : Prop where
  near : 0 < distance ∧ distance ≤ out.length
  kept : out <+: out'
  grown : out'.length = out.length + length
  same : ∀ i, out.length ≤ i → i < out'.length → out'[i]? = out'[i - distance]?

/-- An item in the codes of a block. A length and a distance are a symbol each, with the bits that the symbol
leaves open. -/
inductive ItemBits (literals distances : List Nat) : Item → List Bool → Prop
  | literal (b : UInt8) (h : 0 < literals.getD b.toNat 0) :
    ItemBits literals distances (.literal b) (codeword literals b.toNat)
  | copy {i j length lengthWidth lengthExtra distance distanceWidth distanceExtra : Nat}
    (hl : lengthBases[i]? = some (length, lengthWidth)) (hle : lengthExtra < 2 ^ lengthWidth)
    (hd : distanceBases[j]? = some (distance, distanceWidth)) (hde : distanceExtra < 2 ^ distanceWidth)
    (hi : 0 < literals.getD (257 + i) 0) (hj : 0 < distances.getD j 0) :
    ItemBits literals distances (.copy (length + lengthExtra) (distance + distanceExtra))
      (codeword literals (257 + i) ++ (lowBits lengthWidth lengthExtra ++
        (codeword distances j ++ lowBits distanceWidth distanceExtra)))
  | stop (h : 0 < literals.getD 256 0) : ItemBits literals distances .stop (codeword literals 256)

inductive Items (literals distances : List Nat) : Bytes → List Bool → Bytes → Prop
  | stop {out : Bytes} {w : List Bool} (h : ItemBits literals distances .stop w) :
    Items literals distances out w out
  | literal {out out' : Bytes} {b : UInt8} {v w : List Bool} (h : ItemBits literals distances (.literal b) v)
    (rest : Items literals distances (out ++ [b]) w out') : Items literals distances out (v ++ w) out'
  | copy {out out₁ out' : Bytes} {length distance : Nat} {v w : List Bool}
    (h : ItemBits literals distances (.copy length distance) v) (hc : Copies out length distance out₁)
    (rest : Items literals distances out₁ w out') : Items literals distances out (v ++ w) out'

/-- Code lengths written in a code of their own, after those already known: one by one, or as a run of the last
one or of zeros. -/
inductive LengthBits (code : List Nat) : List Nat → List Bool → List Nat → Prop
  | done (known : List Nat) : LengthBits code known [] known
  | one {known all : List Nat} {n : Nat} {w : List Bool} (hn : n < 16) (h : 0 < code.getD n 0)
    (rest : LengthBits code (known ++ [n]) w all) : LengthBits code known (codeword code n ++ w) all
  | again {known all : List Nat} {last times : Nat} {w : List Bool} (hl : known.getLast? = some last)
    (ht : times < 4) (h : 0 < code.getD 16 0)
    (rest : LengthBits code (known ++ List.replicate (3 + times) last) w all) :
    LengthBits code known (codeword code 16 ++ (lowBits 2 times ++ w)) all
  | zeros {known all : List Nat} {times : Nat} {w : List Bool} (ht : times < 8) (h : 0 < code.getD 17 0)
    (rest : LengthBits code (known ++ List.replicate (3 + times) 0) w all) :
    LengthBits code known (codeword code 17 ++ (lowBits 3 times ++ w)) all
  | manyZeros {known all : List Nat} {times : Nat} {w : List Bool} (ht : times < 128) (h : 0 < code.getD 18 0)
    (rest : LengthBits code (known ++ List.replicate (11 + times) 0) w all) :
    LengthBits code known (codeword code 18 ++ (lowBits 7 times ++ w)) all

def shortLengths (short : List Nat) : List Nat :=
  (List.range 19).map fun symbol => short.getD (lengthOrder.idxOf symbol) 0

inductive CodeBits (literals distances : List Nat) : List Bool → Prop
  | mk {short : List Nat} {w : List Bool} (hl : 257 ≤ literals.length ∧ literals.length ≤ 286)
    (hd : 1 ≤ distances.length ∧ distances.length ≤ 30) (hs : 4 ≤ short.length ∧ short.length ≤ 19)
    (hn : ∀ n ∈ short, n < 8) (hc : coverage (shortLengths short) 15 = 2 ^ 15) (hlc : IsCode literals)
    (hdc : IsCode distances) (h : LengthBits (shortLengths short) [] w (literals ++ distances)) :
    CodeBits literals distances (lowBits 5 (literals.length - 257) ++ (lowBits 5 (distances.length - 1) ++
      (lowBits 4 (short.length - 4) ++ (short.flatMap (lowBits 3) ++ w))))

def fixedLiteralLengths : List Nat :=
  List.replicate 144 8 ++ List.replicate 112 9 ++ List.replicate 24 7 ++ List.replicate 8 8

def fixedDistanceLengths : List Nat :=
  List.replicate 32 5

def storedBits (padding : List Bool) (bs : Bytes) : List Bool :=
  padding ++ (lowBits 16 bs.length ++ (lowBits 16 (storedLimit - bs.length) ++ bitsOf bs))

/-- The body of a block of some kind, after a number of bits. What is stored begins where a byte does. -/
inductive BlockBits (before : Nat) (out : Bytes) : Nat → List Bool → Bytes → Prop
  | stored {bs : Bytes} {padding : List Bool} (hp : padding.length < 8) (ha : (before + padding.length) % 8 = 0)
    (hl : bs.length ≤ storedLimit) : BlockBits before out 0 (storedBits padding bs) (out ++ bs)
  | fixed {w : List Bool} {out' : Bytes} (h : Items fixedLiteralLengths fixedDistanceLengths out w out') :
    BlockBits before out 1 w out'
  | dynamic {literals distances : List Nat} {v w : List Bool} {out' : Bytes} (hc : CodeBits literals distances v)
    (h : Items literals distances out w out') : BlockBits before out 2 (v ++ w) out'

inductive Blocks : Nat → Bytes → List Bool → Bytes → Prop
  | last {before kind : Nat} {out out' : Bytes} {w : List Bool} (h : BlockBits (before + 3) out kind w out') :
    Blocks before out ([true] ++ (lowBits 2 kind ++ w)) out'
  | more {before kind : Nat} {out out₁ out' : Bytes} {v w : List Bool} (h : BlockBits (before + 3) out kind v out₁)
    (rest : Blocks (before + 3 + v.length) out₁ w out') :
    Blocks before out ([false] ++ (lowBits 2 kind ++ (v ++ w))) out'

/-- A complete raw stream of some data. Less than a byte is left open after its last block. -/
def IsStream (stream data : Bytes) : Prop :=
  ∃ w padding, Blocks 0 [] w data ∧ padding.length < 8 ∧ bitsOf stream = w ++ padding

def IsCompressor (deflate : Bytes → Bytes) : Prop :=
  ∀ data, IsStream (deflate data) data

lemma bitsOf_littleEndian16 {n : Nat} (h : n ≤ storedLimit) : bitsOf (littleEndian16 n) = lowBits 16 n := by
  rw [storedLimit] at h
  have hl : (UInt8.ofNat (n % 256)).toNat = n % 256 := by simp
  have hh : (UInt8.ofNat (n / 256)).toNat = n / 256 := by
    rw [UInt8.toNat_ofNat']
    omega
  have hlow : lowBits 8 (n % 256) = lowBits 8 n := by
    apply List.map_congr_left
    intro i hi
    have hm := Nat.testBit_mod_two_pow n 8 i
    rw [decide_eq_true (List.mem_range.mp hi), Bool.true_and] at hm
    exact hm
  have hhigh : lowBits 8 (n / 256) = (List.range 8).map fun i => n.testBit (8 + i) := by
    apply List.map_congr_left
    intro i _
    have hd : (n / 2 ^ 8).testBit i = n.testBit (i + 8) := Nat.testBit_div_two_pow n i
    rw [Nat.add_comm 8 i]
    exact hd
  have hs : List.range 16 = List.range 8 ++ (List.range 8).map (8 + ·) := by decide
  rw [littleEndian16, bitsOf_cons, bitsOf_cons, bitsOfByte_eq, bitsOfByte_eq, hl, hh, hlow, hhigh, lowBits,
    lowBits, hs, List.map_append, List.map_map]
  simp [bitsOf, Function.comp_def]

lemma bitsOf_storedBlock (last : Bool) {bs : Bytes} (h : bs.length ≤ storedLimit) :
    bitsOf (storedBlock last bs) = [last] ++ (lowBits 2 0 ++ storedBits (List.replicate 5 false) bs) := by
  have hfirst : bitsOfByte (if last then 1 else 0) = [last] ++ (lowBits 2 0 ++ List.replicate 5 false) := by
    cases last <;> decide
  rw [storedBlock, List.cons_append, List.cons_append, bitsOf_cons, bitsOf_append, bitsOf_append,
    bitsOf_littleEndian16 h, bitsOf_littleEndian16 (Nat.sub_le _ _), hfirst, storedBits]
  simp only [List.append_assoc]

lemma storedBits_length (padding : List Bool) (bs : Bytes) :
    (storedBits padding bs).length = padding.length + 32 + 8 * bs.length := by
  simp only [storedBits, List.length_append, lowBits_length, bitsOf_length]
  omega

lemma blocks_storedBlocks (bs : Bytes) {before : Nat} (ha : before % 8 = 0) (out : Bytes) :
    Blocks before out (bitsOf (storedBlocks bs)) (out ++ bs) := by
  have hstored : ∀ (before : Nat) (out bs : Bytes), before % 8 = 0 → bs.length ≤ storedLimit →
      BlockBits (before + 3) out 0 (storedBits (List.replicate 5 false) bs) (out ++ bs) := by
    intro before out bs ha hl
    exact .stored (by simp) (by rw [List.length_replicate]; omega) hl
  fun_induction storedBlocks bs generalizing before out with
  | case1 bs hl =>
    rw [bitsOf_storedBlock true hl]
    exact .last (hstored before out bs ha hl)
  | case2 bs hl ih =>
    have ht : (bs.take storedLimit).length ≤ storedLimit := List.length_take_le _ _
    have hb : (before + 3 + (storedBits (List.replicate 5 false) (bs.take storedLimit)).length) % 8 = 0 := by
      rw [storedBits_length, List.length_replicate]
      omega
    have hrest := ih hb (out ++ bs.take storedLimit)
    rw [List.append_assoc, List.take_append_drop] at hrest
    rw [bitsOf_append, bitsOf_storedBlock false ht]
    simp only [List.append_assoc]
    exact .more (hstored before out _ ha ht) hrest

theorem compress_isCompressor : IsCompressor compress := by
  intro data
  refine ⟨bitsOf (storedBlocks data), [], ?_, Nat.zero_lt_succ 7, (List.append_nil _).symm⟩
  have hb := blocks_storedBlocks data (Nat.zero_mod 8) []
  rwa [List.nil_append] at hb

end IdentityProvider.Deflate
