import LiberaLaser.Foundations.FileSystem
import LiberaLaser.Foundations.Hexadecimal

/-!
# The digest of a package

The SHA-256 digest gives a package its identity: the name of a revision has the first digits of it.
Bytes are gathered in a block, which is mixed into the state whenever it is full.
-/

namespace LiberaLaser.Plugin

open ByteString Hexadecimal

def rotateRight (value amount : UInt32) : UInt32 :=
  (value >>> amount) ||| (value <<< (32 - amount))

/-- The eight words that are mixed. -/
structure HashWords where
  a : UInt32
  b : UInt32
  c : UInt32
  d : UInt32
  e : UInt32
  f : UInt32
  g : UInt32
  h : UInt32
  deriving DecidableEq

namespace HashWords

def initial : HashWords :=
  ⟨0x6a09e667, 0xbb67ae85, 0x3c6ef372, 0xa54ff53a, 0x510e527f, 0x9b05688c, 0x1f83d9ab, 0x5be0cd19⟩

def constants : List UInt32 :=
  [0x428a2f98, 0x71374491, 0xb5c0fbcf, 0xe9b5dba5, 0x3956c25b, 0x59f111f1, 0x923f82a4, 0xab1c5ed5,
    0xd807aa98, 0x12835b01, 0x243185be, 0x550c7dc3, 0x72be5d74, 0x80deb1fe, 0x9bdc06a7, 0xc19bf174,
    0xe49b69c1, 0xefbe4786, 0x0fc19dc6, 0x240ca1cc, 0x2de92c6f, 0x4a7484aa, 0x5cb0a9dc, 0x76f988da,
    0x983e5152, 0xa831c66d, 0xb00327c8, 0xbf597fc7, 0xc6e00bf3, 0xd5a79147, 0x06ca6351, 0x14292967,
    0x27b70a85, 0x2e1b2138, 0x4d2c6dfc, 0x53380d13, 0x650a7354, 0x766a0abb, 0x81c2c92e, 0x92722c85,
    0xa2bfe8a1, 0xa81a664b, 0xc24b8b70, 0xc76c51a3, 0xd192e819, 0xd6990624, 0xf40e3585, 0x106aa070,
    0x19a4c116, 0x1e376c08, 0x2748774c, 0x34b0bcb5, 0x391c0cb3, 0x4ed8aa4a, 0x5b9cca4f, 0x682e6ff3,
    0x748f82ee, 0x78a5636f, 0x84c87814, 0x8cc70208, 0x90befffa, 0xa4506ceb, 0xbef9a3f7, 0xc67178f2]

/-- The words of a block, each from four bytes. -/
def inputWords : ByteString → List UInt32
  | b₀ :: b₁ :: b₂ :: b₃ :: input =>
    ((b₀.toUInt32 <<< 24) ||| (b₁.toUInt32 <<< 16) ||| (b₂.toUInt32 <<< 8) ||| b₃.toUInt32) ::
      inputWords input
  | _ => []

/-- The word after the words so far, the latest of which comes first. -/
def nextWord (words : List UInt32) : UInt32 :=
  let w15 := words.getD 14 0
  let w2 := words.getD 1 0
  let s0 := rotateRight w15 7 ^^^ rotateRight w15 18 ^^^ (w15 >>> 3)
  let s1 := rotateRight w2 17 ^^^ rotateRight w2 19 ^^^ (w2 >>> 10)
  words.getD 15 0 + s0 + words.getD 6 0 + s1

def extendWords : ℕ → List UInt32 → List UInt32
  | 0, words => words
  | n + 1, words => extendWords n (nextWord words :: words)

/-- The words for all rounds. -/
def scheduleWords (input : ByteString) : List UInt32 :=
  (extendWords 48 (inputWords input).reverse).reverse

def round (v : HashWords) (constant word : UInt32) : HashWords :=
  let sum1 := rotateRight v.e 6 ^^^ rotateRight v.e 11 ^^^ rotateRight v.e 25
  let choose := (v.e &&& v.f) ^^^ (~~~v.e &&& v.g)
  let temp1 := v.h + sum1 + choose + constant + word
  let sum0 := rotateRight v.a 2 ^^^ rotateRight v.a 13 ^^^ rotateRight v.a 22
  let majority := (v.a &&& v.b) ^^^ (v.a &&& v.c) ^^^ (v.b &&& v.c)
  let temp2 := sum0 + majority
  ⟨temp1 + temp2, v.a, v.b, v.c, v.d + temp1, v.e, v.f, v.g⟩

def rounds : HashWords → List UInt32 → List UInt32 → HashWords
  | v, constant :: constants, word :: words => rounds (v.round constant word) constants words
  | v, _, _ => v

def add (v w : HashWords) : HashWords :=
  ⟨v.a + w.a, v.b + w.b, v.c + w.c, v.d + w.d, v.e + w.e, v.f + w.f, v.g + w.g, v.h + w.h⟩

def transform (v : HashWords) (input : ByteString) : HashWords :=
  v.add (v.rounds constants (scheduleWords input))

def toBytes (v : HashWords) : ByteString :=
  [v.a, v.b, v.c, v.d, v.e, v.f, v.g, v.h].flatMap fun (w : UInt32) =>
    [(w >>> 24).toUInt8, (w >>> 16).toUInt8, (w >>> 8).toUInt8, w.toUInt8]

end HashWords

/-- The hasher, with the bytes that are in its block. -/
structure Sha256 where
  state : HashWords := .initial
  block : ByteString := []
  totalBytes : UInt64 := 0
  deriving DecidableEq

namespace Sha256

/-- The loop of `update`, which takes at least one byte in each round. -/
def fillBlocks : ℕ → Sha256 → ByteString → Sha256
  | 0, sha, _ => sha
  | fuel + 1, sha, data =>
    if data = [] then sha
    else
      let count := min data.length (64 - sha.block.length)
      let block := sha.block ++ data.take count
      fillBlocks fuel
        (if block.length = 64 then { sha with state := sha.state.transform block, block := [] }
          else { sha with block })
        (data.drop count)

def update (sha : Sha256) (data : ByteString) : Sha256 :=
  fillBlocks data.length
    { sha with totalBytes := sha.totalBytes + UInt64.ofNat data.length } data

/-- Zeros up to a size. -/
def fill (block : ByteString) (size : ℕ) : ByteString :=
  block ++ List.replicate (size - block.length) 0

def lengthBytes (totalBits : UInt64) : ByteString :=
  [56, 48, 40, 32, 24, 16, 8, 0].map fun (shift : UInt64) => (totalBits >>> shift).toUInt8

def finish (sha : Sha256) : ByteString :=
  let totalBits := sha.totalBytes * 8
  let block := sha.block ++ [0x80]
  let sha :=
    if 56 < block.length then
      { sha with state := sha.state.transform (fill block 64), block := [] }
    else { sha with block }
  (sha.state.transform (fill sha.block 56 ++ lengthBytes totalBits)).toBytes

end Sha256

def hexString (digest : ByteString) : ByteString :=
  digest.flatMap fun (byte : UInt8) => [hexDigit (byte >>> 4), hexDigit (byte &&& 15)]

/-- The loop that reads a file piece by piece. -/
def hashPieces : ℕ → Sha256 → ByteString → Sha256
  | 0, sha, _ => sha
  | fuel + 1, sha, input =>
    if input = [] then sha
    else hashPieces fuel (sha.update (input.take (64 * 1024))) (input.drop (64 * 1024))

/-- The digest of some content, in hexadecimal digits. -/
def contentSha256 (content : ByteString) : ByteString :=
  hexString (hashPieces content.length {} content).finish

def fileSha256 (o : ReadOutcome) (content : ByteString) : Except ByteString ByteString :=
  match o with
  | .notOpened => .error (ofString "Failed to open package for hashing")
  | .broken => .error (ofString "Failed while hashing package")
  | .whole => .ok (contentSha256 content)

example : contentSha256 (ofString "abc") =
    ofString "ba7816bf8f01cfea414140de5dae2223b00361a396177a9cb410ff61f20015ad" := by
  decide +kernel

end LiberaLaser.Plugin
