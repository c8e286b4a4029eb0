import IdentityProvider.Bytes.Basic
/-! SHA-1, and the padding that it shares with the 32-bit members of SHA-2. -/

namespace IdentityProvider.Sha

def padding (blockLength fieldLength messageLength : Nat) : Bytes :=
  let used := (messageLength + 1 + fieldLength) % blockLength
  let zeros := if used = 0 then 0 else blockLength - used
  0x80 :: (List.replicate zeros 0 ++ Bytes.ofNatPadded fieldLength (8 * messageLength))

def words32 (words : Array UInt32) : Bytes → Array UInt32
  | a :: b :: c :: d :: rest =>
    words32 (words.push (a.toUInt32 <<< 24 ||| b.toUInt32 <<< 16 ||| c.toUInt32 <<< 8 ||| d.toUInt32)) rest
  | _ => words

def bytes32 (w : UInt32) : Bytes :=
  [(w >>> 24).toUInt8, (w >>> 16).toUInt8, (w >>> 8).toUInt8, w.toUInt8]

def rotateLeft32 (w n : UInt32) : UInt32 :=
  w <<< n ||| w >>> (32 - n)

def rotateRight32 (w n : UInt32) : UInt32 :=
  w >>> n ||| w <<< (32 - n)

/-- Feeds a padded message to a compression function, block by block. The first argument bounds the number of
blocks. -/
def absorb {σ : Type} (blockLength : Nat) (compress : σ → Bytes → σ) : Nat → σ → Bytes → σ
  | 0, state, _ => state
  | _, state, [] => state
  | n + 1, state, bs =>
    absorb blockLength compress n (compress state (bs.take blockLength)) (bs.drop blockLength)

end IdentityProvider.Sha

namespace IdentityProvider.Sha1

open IdentityProvider Sha

structure State where
  a : UInt32
  b : UInt32
  c : UInt32
  d : UInt32
  e : UInt32

def initial : State :=
  ⟨0x67452301, 0xEFCDAB89, 0x98BADCFE, 0x10325476, 0xC3D2E1F0⟩

def schedule (block : Bytes) : Array UInt32 :=
  (List.range 64).foldl
    (fun w i =>
      w.push (rotateLeft32 (w.getD (i + 13) 0 ^^^ w.getD (i + 8) 0 ^^^ w.getD (i + 2) 0 ^^^ w.getD i 0) 1))
    (words32 (Array.emptyWithCapacity 80) block)

def round (s : State) (t : Nat) (w : UInt32) : State :=
  let (f, k) :=
    if t < 20 then ((s.b &&& s.c) ||| (~~~s.b &&& s.d), (0x5A827999 : UInt32))
    else if t < 40 then (s.b ^^^ s.c ^^^ s.d, 0x6ED9EBA1)
    else if t < 60 then ((s.b &&& s.c) ||| (s.b &&& s.d) ||| (s.c &&& s.d), 0x8F1BBCDC)
    else (s.b ^^^ s.c ^^^ s.d, 0xCA62C1D6)
  ⟨rotateLeft32 s.a 5 + f + s.e + k + w, s.a, rotateLeft32 s.b 30, s.c, s.d⟩

def compress (s : State) (block : Bytes) : State :=
  let w := schedule block
  let r := (List.range 80).foldl (fun r t => round r t (w.getD t 0)) s
  ⟨s.a + r.a, s.b + r.b, s.c + r.c, s.d + r.d, s.e + r.e⟩

def digest (message : Bytes) : Bytes :=
  let s := absorb 64 compress (message.length / 64 + 2) initial (message ++ padding 64 8 message.length)
  [s.a, s.b, s.c, s.d, s.e].flatMap bytes32

end IdentityProvider.Sha1
