/-! The SHA-256 digest of a byte string, and its lowercase hexadecimal text. The message is padded
with a one bit, zero bits and its length in bits to a whole number of 64-byte blocks, and each block
is folded into the eight-word state by 64 rounds. -/

namespace MapReduce.Sha256

/-- The round constants. -/
def roundConstants : Array UInt32 := #[
  0x428a2f98, 0x71374491, 0xb5c0fbcf, 0xe9b5dba5, 0x3956c25b, 0x59f111f1, 0x923f82a4, 0xab1c5ed5,
  0xd807aa98, 0x12835b01, 0x243185be, 0x550c7dc3, 0x72be5d74, 0x80deb1fe, 0x9bdc06a7, 0xc19bf174,
  0xe49b69c1, 0xefbe4786, 0x0fc19dc6, 0x240ca1cc, 0x2de92c6f, 0x4a7484aa, 0x5cb0a9dc, 0x76f988da,
  0x983e5152, 0xa831c66d, 0xb00327c8, 0xbf597fc7, 0xc6e00bf3, 0xd5a79147, 0x06ca6351, 0x14292967,
  0x27b70a85, 0x2e1b2138, 0x4d2c6dfc, 0x53380d13, 0x650a7354, 0x766a0abb, 0x81c2c92e, 0x92722c85,
  0xa2bfe8a1, 0xa81a664b, 0xc24b8b70, 0xc76c51a3, 0xd192e819, 0xd6990624, 0xf40e3585, 0x106aa070,
  0x19a4c116, 0x1e376c08, 0x2748774c, 0x34b0bcb5, 0x391c0cb3, 0x4ed8aa4a, 0x5b9cca4f, 0x682e6ff3,
  0x748f82ee, 0x78a5636f, 0x84c87814, 0x8cc70208, 0x90befffa, 0xa4506ceb, 0xbef9a3f7, 0xc67178f2]

/-- The initial state. -/
def initialState : Array UInt32 := #[
  0x6a09e667, 0xbb67ae85, 0x3c6ef372, 0xa54ff53a, 0x510e527f, 0x9b05688c, 0x1f83d9ab, 0x5be0cd19]

/-- Rotation to the right. -/
def rotr (x : UInt32) (n : UInt32) : UInt32 := (x >>> n) ||| (x <<< (32 - n))

/-- The big-endian word of four bytes starting at `i`. -/
def wordAt (bytes : Array UInt8) (i : Nat) : UInt32 :=
  ((bytes[i]?.getD 0).toUInt32 <<< 24) ||| ((bytes[i + 1]?.getD 0).toUInt32 <<< 16) |||
    ((bytes[i + 2]?.getD 0).toUInt32 <<< 8) ||| (bytes[i + 3]?.getD 0).toUInt32

/-- The 64-word message schedule of the block starting at byte `start`. -/
def schedule (bytes : Array UInt8) (start : Nat) : Array UInt32 :=
  let first := (List.range 16).toArray.map fun i => wordAt bytes (start + 4 * i)
  (List.range 48).foldl (fun (w : Array UInt32) k =>
    let i := k + 16
    let w15 := w[i - 15]?.getD 0
    let w2 := w[i - 2]?.getD 0
    let s0 := rotr w15 7 ^^^ rotr w15 18 ^^^ (w15 >>> 3)
    let s1 := rotr w2 17 ^^^ rotr w2 19 ^^^ (w2 >>> 10)
    w.push ((w[i - 16]?.getD 0) + s0 + (w[i - 7]?.getD 0) + s1)) first

/-- Folds one block into the state. -/
def compress (state : Array UInt32) (bytes : Array UInt8) (start : Nat) : Array UInt32 :=
  let w := schedule bytes start
  let get (a : Array UInt32) (i : Nat) : UInt32 := a[i]?.getD 0
  let final := (List.range 64).foldl (fun (v : Array UInt32) i =>
    let a := get v 0
    let b := get v 1
    let c := get v 2
    let d := get v 3
    let e := get v 4
    let f := get v 5
    let g := get v 6
    let h := get v 7
    let s1 := rotr e 6 ^^^ rotr e 11 ^^^ rotr e 25
    let ch := (e &&& f) ^^^ ((~~~e) &&& g)
    let t1 := h + s1 + ch + get roundConstants i + get w i
    let s0 := rotr a 2 ^^^ rotr a 13 ^^^ rotr a 22
    let maj := (a &&& b) ^^^ (a &&& c) ^^^ (b &&& c)
    let t2 := s0 + maj
    #[t1 + t2, a, b, c, d + t1, e, f, g]) state
  (List.range 8).toArray.map fun i => get state i + get final i

/-- The message padded to whole blocks. -/
def pad (msg : Array UInt8) : Array UInt8 :=
  let len := msg.size
  let zeros := (55 + 64 - len % 64) % 64
  let bits := len * 8
  let lenBytes := (List.range 8).reverse.map fun i => (bits / Nat.pow 2 (8 * i) % 256).toUInt8
  (msg.push 0x80 ++ Array.replicate zeros 0) ++ lenBytes.toArray

/-- The digest as eight words. -/
def digestWords (msg : Array UInt8) : Array UInt32 :=
  let padded := pad msg
  (List.range (padded.size / 64)).foldl (fun st k => compress st padded (64 * k)) initialState

/-- The lowercase hexadecimal digit of a value below sixteen. -/
def hexChar (n : Nat) : Char :=
  if n < 10 then Char.ofNat (48 + n) else Char.ofNat (87 + n)

/-- The eight hexadecimal digits of a word. -/
def wordHex (w : UInt32) : List Char :=
  (List.range 8).reverse.map fun i => hexChar (w.toNat / Nat.pow 16 i % 16)

/-- The lowercase hexadecimal digest of a byte string. -/
def hexDigest (msg : Array UInt8) : String :=
  String.ofList ((digestWords msg).toList.flatMap wordHex)

/-- The lowercase hexadecimal digest of a text's UTF-8 bytes. -/
def hexDigestOfString (s : String) : String :=
  hexDigest s.toUTF8.data

end MapReduce.Sha256
