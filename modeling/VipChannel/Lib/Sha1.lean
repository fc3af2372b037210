/-
  VipChannel.Lib.Sha1

  SHA-1: a message is padded to whole blocks of sixty-four bytes, and every block is
  compressed into a state of five words by eighty rounds.

  The schedule of a block is never held whole: `compressFrom` carries the sixteen words that
  come next, and extends them by one with each round.
-/
import Mathlib

namespace VipChannel.Lib.Sha1

abbrev Byte := BitVec 8

abbrev Word := BitVec 32

structure State where
  a : Word
  b : Word
  c : Word
  d : Word
  e : Word

def initial : State := ⟨0x67452301, 0xEFCDAB89, 0x98BADCFE, 0x10325476, 0xC3D2E1F0⟩

/-! ## Padding -/

/-- A length in bits, as eight bytes. -/
def lengthBytes (bits : Nat) : List Byte :=
  (List.range 8).map fun i => BitVec.ofNat 8 (bits >>> (8 * (7 - i)))

/-- One bit, and zeros up to the length. -/
def pad (message : List Byte) : List Byte :=
  message ++ 0x80 :: List.replicate ((119 - message.length % 64) % 64) 0 ++
    lengthBytes (8 * message.length)

/-- Words, the first byte being the highest. -/
def words : List Byte → List Word
  | b₀ :: b₁ :: b₂ :: b₃ :: rest => (b₀ ++ b₁ ++ b₂ ++ b₃ : BitVec 32) :: words rest
  | _ => []

/-! ## Compression -/

/-- The function and the constant of a round. -/
def mix (t : Nat) (s : State) : Word × Word :=
  if t < 20 then ((s.b &&& s.c) ||| (~~~s.b &&& s.d), 0x5A827999)
  else if t < 40 then (s.b ^^^ s.c ^^^ s.d, 0x6ED9EBA1)
  else if t < 60 then ((s.b &&& s.c) ||| (s.b &&& s.d) ||| (s.c &&& s.d), 0x8F1BBCDC)
  else (s.b ^^^ s.c ^^^ s.d, 0xCA62C1D6)

def round (t : Nat) (w : Word) (s : State) : State :=
  let (f, k) := mix t s
  ⟨s.a.rotateLeft 5 + f + s.e + k + w, s.a, s.b.rotateLeft 30, s.c, s.d⟩

/-- `n` rounds from the `t`th on, with the next sixteen words of the schedule. -/
def compressFrom : (n t : Nat) → List Word → State → State
  | n + 1, t, w :: next, s =>
    let far := next.getD 12 0 ^^^ next.getD 7 0 ^^^ next.getD 1 0 ^^^ w
    compressFrom n (t + 1) (next ++ [far.rotateLeft 1]) (round t w s)
  | _, _, _, s => s

def compress (s : State) (block : List Word) : State :=
  let r := compressFrom 80 0 block s
  ⟨s.a + r.a, s.b + r.b, s.c + r.c, s.d + r.d, s.e + r.e⟩

/-- The blocks of sixteen words, one after the other. -/
def absorb : Nat → List Word → State → State
  | 0, _, s => s
  | n + 1, ws, s => absorb n (ws.drop 16) (compress s (ws.take 16))

def digest (message : List Byte) : State :=
  let ws := words (pad message)
  absorb (ws.length / 16) ws initial

/-- Eight hexadecimal digits. -/
def hexOf (w : Word) : List Char :=
  (List.range 8).map fun i => Nat.digitChar ((w.toNat >>> (4 * (7 - i))) % 16)

/-- `hashlib.sha1(message).hexdigest()`. -/
def hexdigest (message : List Byte) : String :=
  let s := digest message
  String.ofList (hexOf s.a ++ hexOf s.b ++ hexOf s.c ++ hexOf s.d ++ hexOf s.e)

/-- `text.encode()`. -/
def encode (text : String) : List Byte :=
  text.toList.flatMap fun c => (String.utf8EncodeChar c).map (·.toBitVec)

end VipChannel.Lib.Sha1
