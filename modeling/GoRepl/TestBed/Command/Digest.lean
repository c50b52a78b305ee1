import GoRepl.TestBed.Command.Files
import GoRepl.TestBed.Command.Format
import GoRepl.TestBed.Regex

/-! # Test bed: checksums

Commands that tell a file by a number made of its bytes. -/

namespace GoRepl.Machine.Digest

def hexDigits (n : Nat) (x : Nat) : Text := padStart n '0' (Nat.toDigits 16 x)

/-- A checksum by which bits are shifted around: each byte is added after a turn to the right. -/
def rotating (bs : Bytes) : Nat :=
  bs.foldl (fun n b => (n / 2 + n % 2 * 0x8000 + b.toNat) % 0x10000) 0

/-! ## Remainders -/

/-- One step of a remainder modulo a polynomial over bits. -/
def shiftBit (r : UInt32) : UInt32 :=
  if r &&& 0x80000000 = 0 then r <<< 1 else (r <<< 1) ^^^ 0x04c11db7

def crcByte (r : UInt32) (b : UInt8) : UInt32 :=
  (List.range 8).foldl (fun r _ => shiftBit r) (r ^^^ (b.toUInt32 <<< 24))

/-- The bytes of a number, from the lowest to the highest that is not zero. -/
def lowBytes : (fuel : Nat) → Nat → Bytes
  | 0, _ => []
  | fuel + 1, n => if n = 0 then [] else UInt8.ofNat n :: lowBytes fuel (n / 256)

/-- The remainder of the bytes followed by their number. -/
def remainder (bs : Bytes) : Nat :=
  ((bs ++ lowBytes 8 bs.length).foldl crcByte 0 ^^^ 0xffffffff).toNat

/-! ## Hashes -/

/-- The words of four bytes each. -/
def wordsBy (word : UInt8 → UInt8 → UInt8 → UInt8 → UInt32) : Bytes → List UInt32
  | a :: b :: c :: d :: bs => word a b c d :: wordsBy word bs
  | _ => []

def bigWord (a b c d : UInt8) : UInt32 :=
  (a.toUInt32 <<< 24) ||| (b.toUInt32 <<< 16) ||| (c.toUInt32 <<< 8) ||| d.toUInt32

def littleWord (a b c d : UInt8) : UInt32 := bigWord d c b a

/-- The bytes of a number of 64 bits, the highest first. -/
def longBytes (n : Nat) : Bytes :=
  (List.range 8).reverse.map fun k => UInt8.ofNat (n.shiftRight (8 * k))

/-- Bytes made up to whole blocks of 64: a bit, zeros, and the number of bits. -/
def padded (isLittle : Bool) (bs : Bytes) : Bytes :=
  let size := longBytes (8 * bs.length)
  bs ++ 0x80 :: List.replicate ((119 - bs.length % 64) % 64) 0 ++
    if isLittle then size.reverse else size

def turnLeft (x : UInt32) (n : UInt32) : UInt32 := (x <<< n) ||| (x >>> (32 - n))

def turnRight (x : UInt32) (n : UInt32) : UInt32 := (x >>> n) ||| (x <<< (32 - n))

def word (xs : Array UInt32) (i : Nat) : UInt32 := (xs[i]?).getD 0

/-- The hash of a text as hexadecimal digits: what blocks make of a state, one after another. -/
def hash (isLittle : Bool) (start : List UInt32)
    (compress : Array UInt32 → List UInt32 → Array UInt32) (bs : Bytes) : Text :=
  let ws := wordsBy (if isLittle then littleWord else bigWord) (padded isLittle bs)
  let final := (pieces 16 ws).foldl compress start.toArray
  final.toList.flatMap fun w =>
    let ds := hexDigits 8 w.toNat
    if isLittle then ((List.range 4).reverse.flatMap fun k => (ds.drop (2 * k)).take 2) else ds

/-- The fractional part of a sine, scaled to 32 bits, for each round. -/
def sines : Array UInt32 := #[
  0xd76aa478, 0xe8c7b756, 0x242070db, 0xc1bdceee, 0xf57c0faf, 0x4787c62a, 0xa8304613, 0xfd469501,
  0x698098d8, 0x8b44f7af, 0xffff5bb1, 0x895cd7be, 0x6b901122, 0xfd987193, 0xa679438e, 0x49b40821,
  0xf61e2562, 0xc040b340, 0x265e5a51, 0xe9b6c7aa, 0xd62f105d, 0x02441453, 0xd8a1e681, 0xe7d3fbc8,
  0x21e1cde6, 0xc33707d6, 0xf4d50d87, 0x455a14ed, 0xa9e3e905, 0xfcefa3f8, 0x676f02d9, 0x8d2a4c8a,
  0xfffa3942, 0x8771f681, 0x6d9d6122, 0xfde5380c, 0xa4beea44, 0x4bdecfa9, 0xf6bb4b60, 0xbebfbc70,
  0x289b7ec6, 0xeaa127fa, 0xd4ef3085, 0x04881d05, 0xd9d4d039, 0xe6db99e5, 0x1fa27cf8, 0xc4ac5665,
  0xf4292244, 0x432aff97, 0xab9423a7, 0xfc93a039, 0x655b59c3, 0x8f0ccc92, 0xffeff47d, 0x85845dd1,
  0x6fa87e4f, 0xfe2ce6e0, 0xa3014314, 0x4e0811a1, 0xf7537e82, 0xbd3af235, 0x2ad7d2bb, 0xeb86d391]

def turns : Array UInt32 := #[7, 12, 17, 22, 5, 9, 14, 20, 4, 11, 16, 23, 6, 10, 15, 21]

def md5 (bs : Bytes) : Text :=
  hash true [0x67452301, 0xefcdab89, 0x98badcfe, 0x10325476] (fun state block =>
    let block := block.toArray
    let step (s : UInt32 × UInt32 × UInt32 × UInt32) (i : Nat) :=
      let (a, b, c, d) := s
      let (f, g) := match i / 16 with
        | 0 => ((b &&& c) ||| (~~~b &&& d), i)
        | 1 => ((d &&& b) ||| (~~~d &&& c), (5 * i + 1) % 16)
        | 2 => (b ^^^ c ^^^ d, (3 * i + 5) % 16)
        | _ => (c ^^^ (b ||| ~~~d), 7 * i % 16)
      let f := f + a + word sines i + word block g
      (d, b + turnLeft f (word turns (i / 16 * 4 + i % 4)), b, c)
    let (a, b, c, d) := (List.range 64).foldl step
      (word state 0, word state 1, word state 2, word state 3)
    #[word state 0 + a, word state 1 + b, word state 2 + c, word state 3 + d]) bs

def sha1 (bs : Bytes) : Text :=
  hash false [0x67452301, 0xefcdab89, 0x98badcfe, 0x10325476, 0xc3d2e1f0] (fun state block =>
    let schedule := (List.range 64).foldl (fun (ws : Array UInt32) k =>
      let i := k + 16
      ws.push (turnLeft
        (word ws (i - 3) ^^^ word ws (i - 8) ^^^ word ws (i - 14) ^^^ word ws (i - 16)) 1))
      block.toArray
    let step (s : UInt32 × UInt32 × UInt32 × UInt32 × UInt32) (i : Nat) :=
      let (a, b, c, d, e) := s
      let (f, k) : UInt32 × UInt32 := match i / 20 with
        | 0 => ((b &&& c) ||| (~~~b &&& d), 0x5a827999)
        | 1 => (b ^^^ c ^^^ d, 0x6ed9eba1)
        | 2 => ((b &&& c) ||| (b &&& d) ||| (c &&& d), 0x8f1bbcdc)
        | _ => (b ^^^ c ^^^ d, 0xca62c1d6)
      (turnLeft a 5 + f + e + k + word schedule i, a, turnLeft b 30, c, d)
    let (a, b, c, d, e) := (List.range 80).foldl step
      (word state 0, word state 1, word state 2, word state 3, word state 4)
    #[word state 0 + a, word state 1 + b, word state 2 + c, word state 3 + d, word state 4 + e]) bs

/-- The fractional parts of cube roots of primes. -/
def roots : Array UInt32 := #[
  0x428a2f98, 0x71374491, 0xb5c0fbcf, 0xe9b5dba5, 0x3956c25b, 0x59f111f1, 0x923f82a4, 0xab1c5ed5,
  0xd807aa98, 0x12835b01, 0x243185be, 0x550c7dc3, 0x72be5d74, 0x80deb1fe, 0x9bdc06a7, 0xc19bf174,
  0xe49b69c1, 0xefbe4786, 0x0fc19dc6, 0x240ca1cc, 0x2de92c6f, 0x4a7484aa, 0x5cb0a9dc, 0x76f988da,
  0x983e5152, 0xa831c66d, 0xb00327c8, 0xbf597fc7, 0xc6e00bf3, 0xd5a79147, 0x06ca6351, 0x14292967,
  0x27b70a85, 0x2e1b2138, 0x4d2c6dfc, 0x53380d13, 0x650a7354, 0x766a0abb, 0x81c2c92e, 0x92722c85,
  0xa2bfe8a1, 0xa81a664b, 0xc24b8b70, 0xc76c51a3, 0xd192e819, 0xd6990624, 0xf40e3585, 0x106aa070,
  0x19a4c116, 0x1e376c08, 0x2748774c, 0x34b0bcb5, 0x391c0cb3, 0x4ed8aa4a, 0x5b9cca4f, 0x682e6ff3,
  0x748f82ee, 0x78a5636f, 0x84c87814, 0x8cc70208, 0x90befffa, 0xa4506ceb, 0xbef9a3f7, 0xc67178f2]

/-- A hash of eight words of 32 bits, given the state from which it starts. -/
def hashOfWords (start : List UInt32) (bs : Bytes) : Text :=
  hash false start (fun state block =>
    let schedule := (List.range 48).foldl (fun (ws : Array UInt32) k =>
      let i := k + 16
      let x := word ws (i - 15)
      let y := word ws (i - 2)
      ws.push (word ws (i - 16) + (turnRight x 7 ^^^ turnRight x 18 ^^^ (x >>> 3)) +
        word ws (i - 7) + (turnRight y 17 ^^^ turnRight y 19 ^^^ (y >>> 10)))) block.toArray
    let step (s : Array UInt32) (i : Nat) : Array UInt32 :=
      let a := word s 0
      let e := word s 4
      let choice := (e &&& word s 5) ^^^ (~~~e &&& word s 6)
      let majority := (a &&& word s 1) ^^^ (a &&& word s 2) ^^^ (word s 1 &&& word s 2)
      let t := word s 7 + (turnRight e 6 ^^^ turnRight e 11 ^^^ turnRight e 25) + choice +
        word roots i + word schedule i
      #[t + (turnRight a 2 ^^^ turnRight a 13 ^^^ turnRight a 22) + majority, a, word s 1, word s 2,
        word s 3 + t, e, word s 5, word s 6]
    let new := (List.range 64).foldl step state
    ((List.range 8).map fun i => word state i + word new i).toArray) bs

def sha256 : Bytes → Text := hashOfWords
  [0x6a09e667, 0xbb67ae85, 0x3c6ef372, 0xa54ff53a, 0x510e527f, 0x9b05688c, 0x1f83d9ab, 0x5be0cd19]

def sha224 (bs : Bytes) : Text := (hashOfWords
  [0xc1059ed8, 0x367cd507, 0x3070dd17, 0xf70e5939, 0xffc00b31, 0x68581511, 0x64f98fa7, 0xbefa4fa4]
  bs).take 56

/-! ## Hashes of long words -/

def longWord (xs : Array UInt64) (i : Nat) : UInt64 := (xs[i]?).getD 0

def turnLong (x n : UInt64) : UInt64 := (x >>> n) ||| (x <<< (64 - n))

/-- The fractional parts of cube roots of primes, with 64 bits each. -/
def longRoots : Array UInt64 := #[
  0x428a2f98d728ae22, 0x7137449123ef65cd, 0xb5c0fbcfec4d3b2f, 0xe9b5dba58189dbbc,
  0x3956c25bf348b538, 0x59f111f1b605d019, 0x923f82a4af194f9b, 0xab1c5ed5da6d8118,
  0xd807aa98a3030242, 0x12835b0145706fbe, 0x243185be4ee4b28c, 0x550c7dc3d5ffb4e2,
  0x72be5d74f27b896f, 0x80deb1fe3b1696b1, 0x9bdc06a725c71235, 0xc19bf174cf692694,
  0xe49b69c19ef14ad2, 0xefbe4786384f25e3, 0x0fc19dc68b8cd5b5, 0x240ca1cc77ac9c65,
  0x2de92c6f592b0275, 0x4a7484aa6ea6e483, 0x5cb0a9dcbd41fbd4, 0x76f988da831153b5,
  0x983e5152ee66dfab, 0xa831c66d2db43210, 0xb00327c898fb213f, 0xbf597fc7beef0ee4,
  0xc6e00bf33da88fc2, 0xd5a79147930aa725, 0x06ca6351e003826f, 0x142929670a0e6e70,
  0x27b70a8546d22ffc, 0x2e1b21385c26c926, 0x4d2c6dfc5ac42aed, 0x53380d139d95b3df,
  0x650a73548baf63de, 0x766a0abb3c77b2a8, 0x81c2c92e47edaee6, 0x92722c851482353b,
  0xa2bfe8a14cf10364, 0xa81a664bbc423001, 0xc24b8b70d0f89791, 0xc76c51a30654be30,
  0xd192e819d6ef5218, 0xd69906245565a910, 0xf40e35855771202a, 0x106aa07032bbd1b8,
  0x19a4c116b8d2d0c8, 0x1e376c085141ab53, 0x2748774cdf8eeb99, 0x34b0bcb5e19b48a8,
  0x391c0cb3c5c95a63, 0x4ed8aa4ae3418acb, 0x5b9cca4f7763e373, 0x682e6ff3d6b2b8a3,
  0x748f82ee5defb2fc, 0x78a5636f43172f60, 0x84c87814a1f0ab72, 0x8cc702081a6439ec,
  0x90befffa23631e28, 0xa4506cebde82bde9, 0xbef9a3f7b2c67915, 0xc67178f2e372532b,
  0xca273eceea26619c, 0xd186b8c721c0c207, 0xeada7dd6cde0eb1e, 0xf57d4f7fee6ed178,
  0x06f067aa72176fba, 0x0a637dc5a2c898a6, 0x113f9804bef90dae, 0x1b710b35131c471b,
  0x28db77f523047d84, 0x32caab7b40c72493, 0x3c9ebe0a15c9bebc, 0x431d67c49c100d4c,
  0x4cc5d4becb3e42b6, 0x597f299cfc657e2a, 0x5fcb6fab3ad6faec, 0x6c44198c4a475817]

/-- Bytes made up to whole blocks of 128: a bit, zeros, and the number of bits. -/
def longPadded (bs : Bytes) : Bytes :=
  bs ++ 0x80 :: List.replicate ((239 - bs.length % 128) % 128 + 8) 0 ++ longBytes (8 * bs.length)

def bigLongWord (bs : Bytes) : UInt64 := bs.foldl (fun n b => (n <<< 8) ||| b.toUInt64) 0

/-- A hash of eight words of 64 bits, given the state from which it starts. -/
def hashOfLongWords (start : List UInt64) (bs : Bytes) : Text :=
  let ws := (pieces 8 (longPadded bs)).map bigLongWord
  let compress (state : Array UInt64) (block : List UInt64) : Array UInt64 :=
    let schedule := (List.range 64).foldl (fun (ws : Array UInt64) k =>
      let i := k + 16
      let x := longWord ws (i - 15)
      let y := longWord ws (i - 2)
      ws.push (longWord ws (i - 16) + (turnLong x 1 ^^^ turnLong x 8 ^^^ (x >>> 7)) +
        longWord ws (i - 7) + (turnLong y 19 ^^^ turnLong y 61 ^^^ (y >>> 6)))) block.toArray
    let step (s : Array UInt64) (i : Nat) : Array UInt64 :=
      let a := longWord s 0
      let e := longWord s 4
      let choice := (e &&& longWord s 5) ^^^ (~~~e &&& longWord s 6)
      let majority := (a &&& longWord s 1) ^^^ (a &&& longWord s 2) ^^^
        (longWord s 1 &&& longWord s 2)
      let t := longWord s 7 + (turnLong e 14 ^^^ turnLong e 18 ^^^ turnLong e 41) + choice +
        longWord longRoots i + longWord schedule i
      #[t + (turnLong a 28 ^^^ turnLong a 34 ^^^ turnLong a 39) + majority, a, longWord s 1,
        longWord s 2, longWord s 3 + t, e, longWord s 5, longWord s 6]
    let new := (List.range 80).foldl step state
    ((List.range 8).map fun i => longWord state i + longWord new i).toArray
  let final := (pieces 16 ws).foldl compress start.toArray
  final.toList.flatMap fun w => hexDigits 16 w.toNat

def sha512 : Bytes → Text := hashOfLongWords
  [0x6a09e667f3bcc908, 0xbb67ae8584caa73b, 0x3c6ef372fe94f82b, 0xa54ff53a5f1d36f1,
    0x510e527fade682d1, 0x9b05688c2b3e6c1f, 0x1f83d9abfb41bd6b, 0x5be0cd19137e2179]

def sha384 (bs : Bytes) : Text := (hashOfLongWords
  [0xcbbb9d5dc1059ed8, 0x629a292a367cd507, 0x9159015a3070dd17, 0x152fecd8f70e5939,
    0x67332667ffc00b31, 0x8eb44a8768581511, 0xdb0c2e0d64f98fa7, 0x47b5481dbefa4fa4] bs).take 96

/-! ## Commands -/

/-- A kind of checksum. -/
structure Kind where
  /-- The name that stands before a file in brackets. -/
  tag : String
  size : Nat
  hash : Bytes → Text

/-- A name on a line of its own, in which a backslash and the end of a line are quoted; and whether
something had to be. -/
def lineName (t : Text) : Text × Bool :=
  (t.flatMap fun c =>
    if c = '\\' then ['\\', '\\'] else if c = '\n' then ['\\', 'n']
    else if c = '\r' then ['\\', 'r'] else [c],
    t.any fun c => c = '\\' || c = '\n' || c = '\r')

/-- A checksum and the name of a file from a line of a list. -/
def listed? (k : Kind) (l : Text) : Option (Text × Text) :=
  let isSum (t : Text) : Bool := t.length = k.size && t.all Regex.isHex
  let tagged := (k.tag ++ " (").toList
  match Text.after? tagged l with
  | some rest =>
    let (ending, start) := (rest.reverse.takeWhile (· ≠ ' '), rest.reverse.dropWhile (· ≠ ' '))
    match Text.after? " = )".toList start with
    | some name => if isSum ending.reverse then some (ending.reverse, name.reverse) else none
    | none => none
  | none =>
    let sum := l.takeWhile (· ≠ ' ')
    match l.drop sum.length with
    | ' ' :: kind :: name =>
      if isSum sum && (kind = ' ' || kind = '*') && name ≠ [] then some (sum, name) else none
    | _ => none

/-- Check the files of lists. -/
def check (k : Kind) (o : Options) (c : Call) : Work Nat := do
  let isSilent := o.has 's'
  let files := if o.operands.isEmpty then [['-']] else o.operands
  Files.each files fun list => do
    match ← c.contents list with
    | .error fault =>
      c.complainOf list fault
      return 1
    | .ok f =>
      let shownList := if list = ['-'] then "'standard input'".toList else Call.shownName list
      let lines := (linesOf f.text).zipIdx.filter fun (l, _) => l ≠ [] && l.head? ≠ some '#'
      let mut bad := 0
      let mut unread := 0
      let mut wrong := 0
      let mut right := 0
      for (l, n) in lines do
        match listed? k l with
        | none =>
          bad := bad + 1
          if o.has 'w' then
            c.complain (shownList ++ ": ".toList ++ decimal (n + 1) ++
              (": improperly formatted " ++ k.tag ++ " checksum line").toList)
        | some (sum, name) =>
          match ← c.contents name with
          | .error fault =>
            if !(o.has '\x01' && fault = .notFound) then
              unread := unread + 1
              c.complainOf name fault
              if !isSilent then c.print (name ++ ": FAILED open or read\n".toList)
          | .ok f =>
            if k.hash (Narrow.toBytes f.text) = sum.map Char.toLower then
              right := right + 1
              if !isSilent && !o.has 'q' then c.print (name ++ ": OK\n".toList)
            else
              wrong := wrong + 1
              if !isSilent then c.print (name ++ ": FAILED\n".toList)
      if bad = lines.length then
        c.complain (shownList ++ ": no properly formatted checksum lines found".toList)
        return 1
      let warn (n : Nat) (one many : String) : Work Unit := do
        if n ≠ 0 && !isSilent then
          c.complain ("WARNING: ".toList ++ decimal n ++ (if n = 1 then one else many).toList)
      warn bad " line is improperly formatted" " lines are improperly formatted"
      warn unread " listed file could not be read" " listed files could not be read"
      warn wrong " computed checksum did NOT match" " computed checksums did NOT match"
      if o.has '\x01' && right = 0 then
        if !isSilent then c.complain (shownList ++ ": no file was verified".toList)
        return 1
      return if wrong + unread = 0 && !(o.has '\x02' && bad ≠ 0) then 0 else 1

/-- Show a line about each file; `line` is given its bytes and its name. -/
def shown (line : Bytes → Option Text → Text) (o : Options) (c : Call) : Work Nat :=
  let files := if o.operands.isEmpty then [['-']] else o.operands
  Files.each files fun file => do
    match ← c.contents file with
    | .ok f =>
      if f.isEndless then spin
      c.print (line (Narrow.toBytes f.text) (if o.operands.isEmpty then none else some file))
      return 0
    | .error fault =>
      c.complainOf file fault
      return 1

/-- The line about a file. -/
def Kind.line (k : Kind) (tagged zero : Bool) (mark : Char) (bs : Bytes) (name : Option Text) :
    Text :=
  let (name, quoted) := if zero then (name.getD ['-'], false) else lineName (name.getD ['-'])
  let ending := if zero then '\x00' else '\n'
  (if quoted then ['\\'] else []) ++
    if tagged then (k.tag ++ " (").toList ++ name ++ ") = ".toList ++ k.hash bs ++ [ending]
    else k.hash bs ++ [' ', mark] ++ name ++ [ending]

def rules : OptionRules where
  flags := "btczwqs\x01\x02\x03\x04"
  valued := "a"
  long := [("check", 'c'), ("tag", '\x03'), ("untagged", '\x04'), ("zero", 'z'), ("warn", 'w'),
    ("quiet", 'q'), ("status", 's'), ("ignore-missing", '\x01'), ("strict", '\x02'),
    ("binary", 'b'), ("text", 't'), ("algorithm", 'a')]

def named (k : Kind) (c : Call) : Work Nat :=
  c.withOptions rules 1 fun o =>
    if o.has 'c' then check k o c
    else shown (k.line (o.has '\x03') (o.has 'z') (if o.has 'b' then '*' else ' ')) o c

def md5sum : Kind := ⟨"MD5", 32, md5⟩

def sha1sum : Kind := ⟨"SHA1", 40, sha1⟩

def sha224sum : Kind := ⟨"SHA224", 56, sha224⟩

def sha256sum : Kind := ⟨"SHA256", 64, sha256⟩

def sha384sum : Kind := ⟨"SHA384", 96, sha384⟩

def sha512sum : Kind := ⟨"SHA512", 128, sha512⟩

def kinds : List Kind := [md5sum, sha1sum, sha224sum, sha256sum, sha384sum, sha512sum]

def after (name : Option Text) : Text :=
  match name with
  | some name => ' ' :: name ++ ['\n']
  | none => ['\n']

def cksum (c : Call) : Work Nat :=
  c.withOptions rules 1 fun o =>
    match (o.value? 'a').bind fun t => kinds.find? (·.tag.toLower.toList = t) with
    | some k =>
      if o.has 'c' then check k o c else shown (k.line (!o.has '\x04') (o.has 'z') ' ') o c
    | none =>
      shown (fun bs name =>
        decimal (remainder bs) ++ [' '] ++ decimal bs.length ++ after name) o c

/-- The sum of the bytes, folded into 16 bits. -/
def folded (bs : Bytes) : Nat :=
  let s := bs.foldl (fun n b => n + b.toNat) 0 % Nat.pow 2 32
  let r := s % 0x10000 + s / 0x10000
  r % 0x10000 + r / 0x10000

def sum (c : Call) : Work Nat :=
  c.withOptions { flags := "rs", long := [("sysv", 's')] } 1 fun o =>
    shown (fun bs name =>
      if o.has 's' then
        decimal (folded bs) ++ [' '] ++ decimal ((bs.length + 511) / 512) ++ after name
      else
        padStart 5 '0' (decimal (rotating bs)) ++ [' '] ++
          padStart 5 ' ' (decimal ((bs.length + 1023) / 1024)) ++ after name) o c

end GoRepl.Machine.Digest
