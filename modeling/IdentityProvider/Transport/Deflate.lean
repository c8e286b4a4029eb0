import IdentityProvider.Bytes.Basic
/-! Raw DEFLATE streams. The writer stores its input in blocks as it is. The reader takes any stream, gives up
on one that is cut off or corrupt, and refuses one that inflates to more than a limit. -/

namespace IdentityProvider.Deflate

def littleEndian16 (n : Nat) : Bytes :=
  [UInt8.ofNat (n % 256), UInt8.ofNat (n / 256)]

def storedLimit : Nat := 65535

def storedBlock (last : Bool) (bs : Bytes) : Bytes :=
  (if last then 1 else 0) :: littleEndian16 bs.length ++ littleEndian16 (storedLimit - bs.length) ++ bs

def storedBlocks (bs : Bytes) : Bytes :=
  if bs.length ≤ storedLimit then storedBlock true bs
  else storedBlock false (bs.take storedLimit) ++ storedBlocks (bs.drop storedLimit)
termination_by bs.length
decreasing_by
  simp only [List.length_drop, storedLimit] at *
  omega

def compress (bs : Bytes) : Bytes :=
  storedBlocks bs

structure BitSource where
  held : List Bool
  bytes : Bytes

inductive Fault where
  | truncated
  | corrupt
deriving Repr, DecidableEq

abbrev BitReader := StateT BitSource (Except Fault)

def bitsOfByte (b : UInt8) : List Bool :=
  (List.range 8).map (fun i => b.toNat.testBit i)

def readBit : BitReader Bool := fun s =>
  match s.held, s.bytes with
  | bit :: held, bytes => .ok (bit, ⟨held, bytes⟩)
  | [], b :: bytes => .ok (b.toNat.testBit 0, ⟨(bitsOfByte b).tail, bytes⟩)
  | [], [] => .error .truncated

def readBits : Nat → BitReader Nat
  | 0 => return 0
  | n + 1 => do
    let bit ← readBit
    let high ← readBits n
    return bit.toNat + 2 * high

def alignToByte : BitReader Unit := fun s =>
  .ok ((), { s with held := [] })

/-- A prefix code in canonical form: how many symbols have codes of each length from 1 to 15, and the symbols in
the order of their codes. -/
structure PrefixCode where
  counts : List Nat
  symbols : Array Nat

namespace PrefixCode

def ofLengths (lengths : List Nat) : PrefixCode :=
  let sizes := (List.range 15).map (· + 1)
  ⟨sizes.map (fun n => lengths.count n),
    (sizes.flatMap fun n => (lengths.zipIdx.filter (fun p => p.1 == n)).map Prod.snd).toArray⟩

def isComplete (code : PrefixCode) : Bool :=
  code.counts.foldl (fun total n => 2 * (total + n)) 0 == 65536

/-- A code that is not complete is accepted if it has at most one symbol. -/
def isUsable (code : PrefixCode) : Bool :=
  code.isComplete || code.symbols.size ≤ 1

/-- Reads a code bit by bit. Among the codes of the present length the first is `first`, and its symbol has the
given index. -/
def readFrom (symbols : Array Nat) (prior first index : Nat) : List Nat → BitReader Nat
  | [] => throw .corrupt
  | n :: counts => do
    let bit ← readBit
    let code := 2 * prior + bit.toNat
    if code < first + n then return symbols.getD (index + (code - first)) 0
    else readFrom symbols code (2 * (first + n)) (index + n) counts

def read (code : PrefixCode) : BitReader Nat :=
  readFrom code.symbols 0 0 0 code.counts

end PrefixCode

def fixedLiterals : PrefixCode :=
  .ofLengths (List.replicate 144 8 ++ List.replicate 112 9 ++ List.replicate 24 7 ++ List.replicate 8 8)

def fixedDistances : PrefixCode :=
  .ofLengths (List.replicate 32 5)

def lengthBases : Array (Nat × Nat) :=
  #[(3, 0), (4, 0), (5, 0), (6, 0), (7, 0), (8, 0), (9, 0), (10, 0), (11, 1), (13, 1), (15, 1),
    (17, 1), (19, 2), (23, 2), (27, 2), (31, 2), (35, 3), (43, 3), (51, 3), (59, 3), (67, 4),
    (83, 4), (99, 4), (115, 4), (131, 5), (163, 5), (195, 5), (227, 5), (258, 0)]

def distanceBases : Array (Nat × Nat) :=
  #[(1, 0), (2, 0), (3, 0), (4, 0), (5, 1), (7, 1), (9, 2), (13, 2), (17, 3), (25, 3), (33, 4),
    (49, 4), (65, 5), (97, 5), (129, 6), (193, 6), (257, 7), (385, 7), (513, 8), (769, 8),
    (1025, 9), (1537, 9), (2049, 10), (3073, 10), (4097, 11), (6145, 11), (8193, 12),
    (12289, 12), (16385, 13), (24577, 13)]

def readBased (bases : Array (Nat × Nat)) (symbol : Nat) : BitReader Nat :=
  match bases[symbol]? with
  | some (base, extra) => do return base + (← readBits extra)
  | none => throw .corrupt

inductive Item where
  | literal (b : UInt8)
  | copy (length distance : Nat)
  | stop

def readItem (literals distances : PrefixCode) : BitReader Item := do
  let symbol ← literals.read
  if symbol < 256 then return .literal (UInt8.ofNat symbol)
  else if symbol = 256 then return .stop
  else do
    let length ← readBased lengthBases (symbol - 257)
    let distance ← readBased distanceBases (← distances.read)
    return .copy length distance

/-- The byte a distance back. Before the first byte the window holds zeros. -/
def byteBack (out : ByteArray) (distance : Nat) : UInt8 :=
  if _ : 0 < distance ∧ distance ≤ out.size then out[out.size - distance] else 0

def copyBack (distance : Nat) : Nat → ByteArray → ByteArray
  | 0, out => out
  | n + 1, out => copyBack distance n (out.push (byteBack out distance))

inductive Outcome where
  | done (out : ByteArray) (source : BitSource)
  | full
  | failed (fault : Fault) (out : ByteArray)

/-- Reads the items of a compressed block, until the output reaches the ceiling. Each item takes at least one
bit, so the bits left bound the number of items. -/
def inflateItems (literals distances : PrefixCode) (ceiling : Nat) : Nat → ByteArray → BitSource → Outcome
  | 0, out, _ => .failed .truncated out
  | n + 1, out, source =>
    if ceiling ≤ out.size then .full
    else
      match readItem literals distances source with
      | .error fault => .failed fault out
      | .ok (.literal b, rest) => inflateItems literals distances ceiling n (out.push b) rest
      | .ok (.copy length distance, rest) =>
        inflateItems literals distances ceiling n (copyBack distance length out) rest
      | .ok (.stop, rest) => .done out rest

def inflateStored (ceiling : Nat) : Nat → ByteArray → Bytes → Outcome
  | 0, out, bytes => .done out ⟨[], bytes⟩
  | _ + 1, out, [] => .failed .truncated out
  | n + 1, out, b :: bytes =>
    if ceiling ≤ out.size then .full else inflateStored ceiling n (out.push b) bytes

def readStoredLength : BitReader Nat := do
  alignToByte
  let length ← readBits 16
  let complement ← readBits 16
  if length + complement = storedLimit then return length else throw .corrupt

def lengthOrder : List Nat := [16, 17, 18, 0, 8, 7, 9, 6, 10, 5, 11, 4, 12, 3, 13, 2, 14, 1, 15]

def readShortLengths : Nat → BitReader (List Nat)
  | 0 => return []
  | n + 1 => do
    let length ← readBits 3
    let others ← readShortLengths n
    return length :: others

/-- Reads code lengths, held in reverse, until there are as many as wanted. Each step adds at least one, so
their number bounds the steps. -/
def readLengths (code : PrefixCode) (wanted : Nat) : Nat → List Nat → BitReader (List Nat)
  | 0, _ => throw .corrupt
  | n + 1, read =>
    if wanted = read.length then return read.reverse
    else if wanted < read.length then throw .corrupt
    else do
      let symbol ← code.read
      if symbol < 16 then readLengths code wanted n (symbol :: read)
      else if symbol = 16 then
        match read with
        | [] => throw .corrupt
        | last :: _ => do
          let times ← readBits 2
          readLengths code wanted n (List.replicate (3 + times) last ++ read)
      else if symbol = 17 then do
        let times ← readBits 3
        readLengths code wanted n (List.replicate (3 + times) 0 ++ read)
      else do
        let times ← readBits 7
        readLengths code wanted n (List.replicate (11 + times) 0 ++ read)

def readCodes : BitReader (PrefixCode × PrefixCode) := do
  let literalCount := (← readBits 5) + 257
  let distanceCount := (← readBits 5) + 1
  let shortCount := (← readBits 4) + 4
  let short ← readShortLengths shortCount
  if 286 < literalCount ∨ 30 < distanceCount then throw .corrupt
  let code := PrefixCode.ofLengths
    ((List.range 19).map fun symbol => (short.getD (lengthOrder.idxOf symbol) 0))
  unless code.isComplete do throw .corrupt
  let wanted := literalCount + distanceCount
  let lengths ← readLengths code wanted (wanted + 1) []
  let literals := PrefixCode.ofLengths (lengths.take literalCount)
  let distances := PrefixCode.ofLengths (lengths.drop literalCount)
  unless literals.isUsable && distances.isUsable do throw .corrupt
  return (literals, distances)

def BitSource.size (s : BitSource) : Nat :=
  s.held.length + 8 * s.bytes.length

def inflateBlock (ceiling kind : Nat) (out : ByteArray) (source : BitSource) : Outcome :=
  match kind with
  | 0 =>
    match readStoredLength source with
    | .error fault => .failed fault out
    | .ok (length, rest) => inflateStored ceiling length out rest.bytes
  | 1 => inflateItems fixedLiterals fixedDistances ceiling (source.size + 1) out source
  | 2 =>
    match readCodes source with
    | .error fault => .failed fault out
    | .ok ((literals, distances), rest) => inflateItems literals distances ceiling (rest.size + 1) out rest
  | _ => .failed .corrupt out

/-- Reads blocks up to the last one. Each block takes at least three bits, so the bits left bound their number.
-/
def inflateBlocks (ceiling : Nat) : Nat → ByteArray → BitSource → Outcome
  | 0, out, _ => .failed .truncated out
  | n + 1, out, source =>
    match (do return (← readBit, ← readBits 2) : BitReader (Bool × Nat)) source with
    | .error fault => .failed fault out
    | .ok ((last, kind), rest) =>
      match inflateBlock ceiling kind out rest with
      | .done out rest => if last then .done out rest else inflateBlocks ceiling n out rest
      | .full => .full
      | .failed fault out => .failed fault out

inductive InflateError where
  | corruptStream
  | tooLarge (limit : Nat)
deriving Repr, DecidableEq

def InflateError.message : InflateError → String
  | corruptStream => "inflate error: corrupt or incomplete stream"
  | tooLarge limit => "inflated message exceeds " ++ toString limit ++ " bytes"

def windowSize : Nat := 32768

/-- Inflates a stream to at most a number of bytes. Bytes after the last block are ignored. The stream is read
in windows, and one that is corrupt in the window where the limit is passed counts as corrupt. -/
def inflate (limit : Nat) (bs : Bytes) : Except InflateError Bytes :=
  let source : BitSource := ⟨[], bs⟩
  match inflateBlocks ((limit / windowSize + 1) * windowSize) (source.size + 1) ByteArray.empty source with
  | .done out _ => if limit < out.size then .error (.tooLarge limit) else .ok out.data.toList
  | .full => .error (.tooLarge limit)
  | .failed .truncated out => .error (if limit < out.size then .tooLarge limit else .corruptStream)
  | .failed .corrupt _ => .error .corruptStream

end IdentityProvider.Deflate
