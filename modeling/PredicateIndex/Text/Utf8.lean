import PredicateIndex.Text.CodePoint

/-!
# UTF-8

Decoding reads the longest well-formed character at the front of the bytes, or finds how many
bytes start a character that is never completed and why. A fault covers those bytes; lossy
decoding puts the replacement character in their place. Encoding refuses surrogates, which are code
points but no characters; in the name of a file some of them hold the place of single bytes.
-/
namespace PredicateIndex.Utf8

/-- Why bytes are no character. -/
inductive Reason where
  /-- No character starts with this byte. -/
  | invalidStart
  /-- A byte is no continuation of the character begun. -/
  | invalidContinuation
  /-- The bytes end inside a character. -/
  | unexpectedEnd
  deriving DecidableEq, Repr

/-- The words of a reason. -/
def Reason.message : Reason → String
  | .invalidStart => "invalid start byte"
  | .invalidContinuation => "invalid continuation byte"
  | .unexpectedEnd => "unexpected end of data"

/-- What stands at the front of some bytes. -/
inductive Front where
  /-- A character and the number of bytes after its first. -/
  | char (c : Char) (more : Nat)
  /-- A broken start of a character and the number of its bytes after the first. -/
  | broken (reason : Reason) (more : Nat)
  deriving Repr

/-- Whether a byte continues a character. -/
def isContinuation (b : UInt8) : Bool := 0x80 ≤ b.toNat && b.toNat < 0xc0

/-- The six bits that a continuation adds. -/
def addBits (n : Nat) (b : UInt8) : Nat := 64 * n + b.toNat % 64

/-- The least and greatest second byte after a lead byte. -/
def secondRange (lead : Nat) : Nat × Nat :=
  if lead == 0xe0 then (0xa0, 0xbf)
  else if lead == 0xed then (0x80, 0x9f)
  else if lead == 0xf0 then (0x90, 0xbf)
  else if lead == 0xf4 then (0x80, 0x8f)
  else (0x80, 0xbf)

/-- Complete a character that wants `wanted` more continuations after `seen` of them. -/
def continueWith (value : Nat) (seen : Nat) : Nat → List UInt8 → Front
  | 0, _ => .char (Char.ofNat value) seen
  | _ + 1, [] => .broken .unexpectedEnd seen
  | wanted + 1, b :: rest =>
    if isContinuation b then continueWith (addBits value b) (seen + 1) wanted rest
    else .broken .invalidContinuation seen

/-- Read a character of several bytes after its lead byte. -/
def afterLead (lead value wanted : Nat) : List UInt8 → Front
  | [] => .broken .unexpectedEnd 0
  | b :: rest =>
    let (low, high) := secondRange lead
    if low ≤ b.toNat && b.toNat ≤ high then continueWith (addBits value b) 1 wanted rest
    else .broken .invalidContinuation 0

/-- What stands at the front of a first byte and the bytes after it. -/
def front (b : UInt8) (rest : List UInt8) : Front :=
  let n := b.toNat
  if n < 0x80 then .char (Char.ofNat n) 0
  else if n < 0xc2 then .broken .invalidStart 0
  else if n < 0xe0 then afterLead n (n - 0xc0) 0 rest
  else if n < 0xf0 then afterLead n (n - 0xe0) 1 rest
  else if n < 0xf5 then afterLead n (n - 0xf0) 2 rest
  else .broken .invalidStart 0

/-- The bytes that are no character: the first, the position after the last, and the reason. -/
structure Fault where
  /-- Position of the first bad byte. -/
  start : Nat
  /-- Position after the last bad byte. -/
  stop : Nat
  /-- Value of the first bad byte. -/
  byte : Nat
  /-- Why they are no character. -/
  reason : Reason
  deriving DecidableEq, Repr

/-- The words of a fault. -/
def Fault.message (fault : Fault) : String :=
  let two := fun (n : Nat) =>
    let digits := Nat.toDigits 16 n
    String.ofList (List.replicate (2 - digits.length) '0' ++ digits)
  if fault.stop == fault.start + 1 then
    s!"'utf-8' codec can't decode byte 0x{two fault.byte} in position {fault.start}: {fault.reason.message}"
  else
    s!"'utf-8' codec can't decode bytes in position {fault.start}-{fault.stop - 1}: {fault.reason.message}"

/-- Decode bytes from a position on. -/
def decodeFrom (position : Nat) (bytes : List UInt8) : Except Fault (List Char) :=
  match bytes with
  | [] => .ok []
  | b :: rest =>
    match front b rest with
    | .char c more => (decodeFrom (position + 1 + more) (rest.drop more)).map (c :: ·)
    | .broken reason more => .error ⟨position, position + 1 + more, b.toNat, reason⟩
termination_by bytes.length
decreasing_by simp only [List.length_cons, List.length_drop]; omega

/-- The text of bytes, or the first fault. -/
def decode (bytes : List UInt8) : Except Fault String := (decodeFrom 0 bytes).map Text.ofChars

/-- The character that stands for bytes that are none. -/
def replacement : Char := Char.ofNat 0xfffd

/-- The characters of bytes, broken starts replaced. -/
def lossyChars (bytes : List UInt8) : List Char :=
  match bytes with
  | [] => []
  | b :: rest =>
    match front b rest with
    | .char c more => c :: lossyChars (rest.drop more)
    | .broken _ more => replacement :: lossyChars (rest.drop more)
termination_by bytes.length
decreasing_by all_goals simp only [List.length_cons, List.length_drop]; omega

/-- The text of bytes, broken starts replaced. -/
def decodeLossy (bytes : List UInt8) : String := Text.ofChars (lossyChars bytes)

/-- Characters with each of the three ends of a line as a line feed. -/
def unifyNewlines : List Char → List Char
  | [] => []
  | '\r' :: '\n' :: rest => '\n' :: unifyNewlines rest
  | '\r' :: rest => '\n' :: unifyNewlines rest
  | c :: rest => c :: unifyNewlines rest

/-- The first run of code points that no bytes stand for: its position and its members. -/
structure EncodeFault where
  /-- Position of the first surrogate. -/
  start : Nat
  /-- The run of surrogates. -/
  run : List Nat
  deriving DecidableEq, Repr

/-- The words of an encoding fault. -/
def EncodeFault.message (fault : EncodeFault) : String :=
  match fault.run with
  | [n] =>
    let code := String.ofList (Nat.toDigits 16 n)
    s!"'utf-8' codec can't encode character '\\u{code}' in position {fault.start}: surrogates not allowed"
  | run =>
    s!"'utf-8' codec can't encode characters in position {fault.start}-{fault.start + run.length - 1}: surrogates not allowed"

/-- The first run of surrogates that starts with one for which no byte stands. -/
def faultOf? (isByte : Nat → Bool) (points : List Nat) : Option EncodeFault :=
  match points.dropWhile fun n => !Text.isSurrogate n || isByte n with
  | [] => none
  | bad => some ⟨points.length - bad.length, bad.takeWhile Text.isSurrogate⟩

/-- The first run of surrogates in a text. -/
def fault? (s : String) : Option EncodeFault := faultOf? (fun _ => false) (Text.codePoints s)

/-- A text in which each surrogate is written as the escape of its number. -/
def escaped (s : String) : String :=
  String.ofList ((Text.codePoints s).flatMap fun n =>
    if Text.isSurrogate n then '\\' :: 'u' :: Nat.toDigits 16 n else Text.ofCodePoint n)

/-- Whether a surrogate holds the place of a byte in the name of a file. -/
def holdsByte (n : Nat) : Bool := 0xdc80 ≤ n && n < 0xdd00

/-- The first run of surrogates for which the name of a file has no bytes. -/
def nameFault? (name : String) : Option EncodeFault := faultOf? holdsByte (Text.codePoints name)

/-- The bytes of a code point; a surrogate that holds the place of a byte is that byte. -/
def pointBytes (n : Nat) : List UInt8 :=
  if holdsByte n then [UInt8.ofNat (n - 0xdc00)] else String.utf8EncodeChar (Char.ofNat n)

/-- The bytes of a text or of the name of a file that has no fault. -/
def bytes (s : String) : List UInt8 := (Text.codePoints s).flatMap pointBytes

/-- The number of bytes of the name of a file. -/
def byteCount (name : String) : Nat := (bytes name).length

/-- The name of a file as it is shown: bytes that are no character are replaced. -/
def shownName (name : String) : String := decodeLossy (bytes name)

end PredicateIndex.Utf8
