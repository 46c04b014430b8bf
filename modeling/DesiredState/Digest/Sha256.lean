/-!
# SHA-256

The digest of a byte string, as FIPS 180-4 defines it, and its hexadecimal form.

Contents:

* `State`: the eight working words.
* `pad`, `schedule`, `round`, `compress`: the parts of the standard.
* `digest`: the 32 bytes of the digest.
* `hexString`, `digestHex`: the digest as 64 hexadecimal digits.
-/

namespace DesiredState.Sha256

/-- The eight working words. -/
structure State where
  a : UInt32
  b : UInt32
  c : UInt32
  d : UInt32
  e : UInt32
  f : UInt32
  g : UInt32
  h : UInt32
  deriving DecidableEq

/-- The first 32 bits of the fractional parts of the square roots of the first eight primes. -/
def initial : State :=
  ⟨0x6a09e667, 0xbb67ae85, 0x3c6ef372, 0xa54ff53a, 0x510e527f, 0x9b05688c, 0x1f83d9ab, 0x5be0cd19⟩

/-- The first 32 bits of the fractional parts of the cube roots of the first 64 primes. -/
def roundConstants : List UInt32 := [
  0x428a2f98, 0x71374491, 0xb5c0fbcf, 0xe9b5dba5, 0x3956c25b, 0x59f111f1,
  0x923f82a4, 0xab1c5ed5, 0xd807aa98, 0x12835b01, 0x243185be, 0x550c7dc3,
  0x72be5d74, 0x80deb1fe, 0x9bdc06a7, 0xc19bf174, 0xe49b69c1, 0xefbe4786,
  0x0fc19dc6, 0x240ca1cc, 0x2de92c6f, 0x4a7484aa, 0x5cb0a9dc, 0x76f988da,
  0x983e5152, 0xa831c66d, 0xb00327c8, 0xbf597fc7, 0xc6e00bf3, 0xd5a79147,
  0x06ca6351, 0x14292967, 0x27b70a85, 0x2e1b2138, 0x4d2c6dfc, 0x53380d13,
  0x650a7354, 0x766a0abb, 0x81c2c92e, 0x92722c85, 0xa2bfe8a1, 0xa81a664b,
  0xc24b8b70, 0xc76c51a3, 0xd192e819, 0xd6990624, 0xf40e3585, 0x106aa070,
  0x19a4c116, 0x1e376c08, 0x2748774c, 0x34b0bcb5, 0x391c0cb3, 0x4ed8aa4a,
  0x5b9cca4f, 0x682e6ff3, 0x748f82ee, 0x78a5636f, 0x84c87814, 0x8cc70208,
  0x90befffa, 0xa4506ceb, 0xbef9a3f7, 0xc67178f2]

def rotateRight (x n : UInt32) : UInt32 :=
  (x >>> n) ||| (x <<< (32 - n))

/-! ## Padding and blocks -/

/-- The eight bytes of a number, the highest first. -/
def bytesOfLength (n : Nat) : List UInt8 :=
  [56, 48, 40, 32, 24, 16, 8, 0].map fun s => UInt8.ofNat (n >>> s)

/-- A one bit, zero bits up to eight bytes short of a block, and the length in bits. -/
def pad (message : List UInt8) : List UInt8 :=
  let zeros := (119 - message.length % 64) % 64
  message ++ 0x80 :: (List.replicate zeros 0 ++ bytesOfLength (8 * message.length))

/-- The words of a byte string, the highest byte of each first. -/
def words : List UInt8 → List UInt32
  | p :: q :: r :: s :: rest =>
    (p.toUInt32 <<< 24 ||| q.toUInt32 <<< 16 ||| r.toUInt32 <<< 8 ||| s.toUInt32) :: words rest
  | _ => []

/-- One more word of the message schedule; `recent` holds the words so far, the latest first. -/
def nextWord (recent : List UInt32) : UInt32 :=
  let w (i : Nat) : UInt32 := recent.getD (i - 1) 0
  let s0 := rotateRight (w 15) 7 ^^^ rotateRight (w 15) 18 ^^^ (w 15 >>> 3)
  let s1 := rotateRight (w 2) 17 ^^^ rotateRight (w 2) 19 ^^^ (w 2 >>> 10)
  w 16 + s0 + w 7 + s1

/-- The message schedule: the sixteen words of a block and 48 words made from them. -/
def schedule (block : List UInt32) : List UInt32 :=
  ((List.range 48).foldl (fun recent _ => nextWord recent :: recent) block.reverse).reverse

/-! ## Compression -/

/-- One round with its constant and its word of the schedule. -/
def round (st : State) (kw : UInt32 × UInt32) : State :=
  let s1 := rotateRight st.e 6 ^^^ rotateRight st.e 11 ^^^ rotateRight st.e 25
  let choice := (st.e &&& st.f) ^^^ (~~~st.e &&& st.g)
  let t1 := st.h + s1 + choice + kw.1 + kw.2
  let s0 := rotateRight st.a 2 ^^^ rotateRight st.a 13 ^^^ rotateRight st.a 22
  let majority := (st.a &&& st.b) ^^^ (st.a &&& st.c) ^^^ (st.b &&& st.c)
  ⟨t1 + (s0 + majority), st.a, st.b, st.c, st.d + t1, st.e, st.f, st.g⟩

/-- Works one block of sixteen words into the state. -/
def compress (st : State) (block : List UInt32) : State :=
  let out := (roundConstants.zip (schedule block)).foldl round st
  ⟨st.a + out.a, st.b + out.b, st.c + out.c, st.d + out.d,
    st.e + out.e, st.f + out.f, st.g + out.g, st.h + out.h⟩

/-- Works the first `n` blocks of a word list into the state. -/
def absorb (st : State) : Nat → List UInt32 → State
  | 0, _ => st
  | n + 1, ws => absorb (compress st (ws.take 16)) n (ws.drop 16)

/-- The four bytes of a word, the highest first. -/
def bytesOfWord (w : UInt32) : List UInt8 :=
  [(w >>> 24).toUInt8, (w >>> 16).toUInt8, (w >>> 8).toUInt8, w.toUInt8]

def State.bytes (st : State) : List UInt8 :=
  [st.a, st.b, st.c, st.d, st.e, st.f, st.g, st.h].flatMap bytesOfWord

def digest (message : List UInt8) : List UInt8 :=
  let ws := words (pad message)
  (absorb initial (ws.length / 16) ws).bytes

theorem length_digest (message : List UInt8) : (digest message).length = 32 := rfl

/-! ## Hexadecimal form -/

def hexDigit (n : Nat) : Char :=
  Nat.digitChar n

def hexOfByte (b : UInt8) : List Char :=
  [hexDigit (b.toNat / 16), hexDigit (b.toNat % 16)]

def hexString (bs : List UInt8) : String :=
  String.ofList (bs.flatMap hexOfByte)

def digestHex (message : List UInt8) : String :=
  hexString (digest message)

def utf8 (s : String) : List UInt8 :=
  s.toUTF8.data.toList

end DesiredState.Sha256
