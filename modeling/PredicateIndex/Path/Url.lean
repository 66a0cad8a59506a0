import PredicateIndex.Json.Reader
import PredicateIndex.Text.Quoted
import PredicateIndex.Text.Utf8

/-!
# The path of a URL

A URL is cut at its scheme, its host, its query and its fragment. Leading control characters and
spaces and every tab and line end are removed first. Hosts are checked: brackets must match and
hold an address, and no character may turn into a delimiter when it is normalised. In the schemes
that have parameters, those of the last segment are cut off too.
-/
namespace PredicateIndex.Url

open Text (isAsciiDigit asciiNat)

/-- Why a URL is refused. -/
inductive Refusal where
  /-- The brackets of the host do not match. -/
  | unbalanced
  /-- The brackets hold a versioned address that is malformed. -/
  | futureAddress
  /-- The brackets hold an address of the fourth version. -/
  | bracketedV4
  /-- The brackets hold no address. -/
  | noAddress (host : String)
  /-- A character of the host turns into a delimiter. -/
  | normalization (host : String)
  deriving DecidableEq, Repr

/-- The words of a refusal. -/
def Refusal.message : Refusal → String
  | .unbalanced => "Invalid IPv6 URL"
  | .futureAddress => "IPvFuture address is invalid"
  | .bracketedV4 => "An IPv4 address cannot be in brackets"
  | .noAddress host => Text.quoted host ++ " does not appear to be an IPv4 or IPv6 address"
  | .normalization host =>
    s!"netloc '{host}' contains invalid characters under NFKC normalization"

/-- Whether a character is a control character or a space. -/
def isLeadingJunk (c : Char) : Bool := c.toNat ≤ 0x20

/-- Whether a character is removed wherever it stands. -/
def isRemoved (c : Char) : Bool := c == '\t' || c == '\r' || c == '\n'

/-- Whether a character may stand in a scheme. -/
def isSchemeChar (c : Char) : Bool :=
  c.isAlphanum || c == '+' || c == '-' || c == '.'

/-- The scheme of a URL and what follows it; without a scheme that is the whole URL. -/
def splitScheme (cs : List Char) : String × List Char :=
  let scheme := cs.takeWhile (· != ':')
  match cs.dropWhile (· != ':') with
  | _ :: rest =>
    if (scheme.head?.any Char.isAlpha) && scheme.all isSchemeChar then
      (String.ofList (scheme.map Char.toLower), rest)
    else ("", cs)
  | [] => ("", cs)

/-- Whether a character ends the host. -/
def endsHost (c : Char) : Bool := c == '/' || c == '?' || c == '#'

/-- The host of a URL, if it has one, and what follows it. -/
def splitHost : List Char → Option (List Char) × List Char
  | '/' :: '/' :: rest =>
    (some (rest.takeWhile fun c => !endsHost c), rest.dropWhile fun c => !endsHost c)
  | cs => (none, cs)

/-- The characters outside ASCII whose normal form holds a delimiter. -/
def unsafeCharacters : List Nat :=
  [0x2047, 0x2048, 0x2049, 0x2100, 0x2101, 0x2105, 0x2106, 0x2a74, 0xfe13, 0xfe16, 0xfe55,
   0xfe56, 0xfe5f, 0xfe6b, 0xff03, 0xff0f, 0xff1a, 0xff1f, 0xff20]

/-- Whether a text is one of the four numbers of an address of the fourth version. -/
def isOctet (cs : List Char) : Bool :=
  !cs.isEmpty && cs.length ≤ 3 && cs.all isAsciiDigit &&
    (cs.length == 1 || cs.head? != some '0') && asciiNat cs ≤ 255

/-- Whether a text is an address of the fourth version. -/
def isV4 (cs : List Char) : Bool :=
  let parts := Numeral.splitAt '.' cs
  parts.length == 4 && parts.all isOctet

/-- Whether a text is one of the numbers of an address of the sixth version. -/
def isHextet (cs : List Char) : Bool :=
  !cs.isEmpty && cs.length ≤ 4 && cs.all fun c => (Json.hexValue? c).isSome

/-- The parts of an address of the sixth version, with an address of the fourth at its end
counted as two; nothing if that address is malformed. -/
def v6Parts? (cs : List Char) : Option (List (List Char)) :=
  let parts := Numeral.splitAt ':' cs
  let last := parts.getLastD []
  if parts.length < 3 then none
  else if last.contains '.' then
    if isV4 last then some (parts.dropLast ++ [['0'], ['0']]) else none
  else some parts

/-- Whether the parts of an address are one of the sixth version: eight numbers, or fewer around
one gap. -/
def isV6Parts (parts : List (List Char)) : Bool :=
  let inner := (parts.drop 1).dropLast
  let gaps := inner.countP List.isEmpty
  let startEmpty := (parts.headD []).isEmpty
  let endEmpty := (parts.getLastD []).isEmpty
  parts.length ≤ 9 && gaps ≤ 1 && parts.all (fun part => part.isEmpty || isHextet part) &&
    if gaps == 1 then
      let before := (parts.takeWhile fun part => !part.isEmpty).length
      let after := (parts.reverse.takeWhile fun part => !part.isEmpty).length
      (!startEmpty || (parts.drop 1).head?.any List.isEmpty) &&
        (!endEmpty || (parts.reverse.drop 1).head?.any List.isEmpty) && before + after < 8
    else parts.length == 8 && !startEmpty && !endEmpty

/-- Whether a text is an address of the sixth version, with or without a zone. -/
def isV6 (cs : List Char) : Bool :=
  let address := cs.takeWhile (· != '%')
  let zoneFine := match cs.dropWhile (· != '%') with
    | [] => true
    | _ :: zone => !zone.isEmpty && !zone.contains '%'
  zoneFine && !address.contains '/' && (v6Parts? address).any isV6Parts

/-- Whether a text is a versioned address: `v`, hexadecimal digits, a point and more. -/
def isFutureAddress (cs : List Char) : Bool :=
  match cs with
  | 'v' :: rest =>
    let digits := rest.takeWhile fun c => (Json.hexValue? c).isSome
    !digits.isEmpty &&
      match rest.dropWhile fun c => (Json.hexValue? c).isSome with
      | '.' :: more => !more.isEmpty
      | _ => false
  | _ => false

/-- Check what stands between the brackets of a host. -/
def checkBracketed (cs : List Char) : Except Refusal Unit :=
  if cs.head? == some 'v' then
    if isFutureAddress cs then .ok () else .error .futureAddress
  else if isV4 cs then .error .bracketedV4
  else if isV6 cs then .ok ()
  else .error (.noAddress (String.ofList cs))

/-- What stands after the last occurrence of a character, or everything. -/
def afterLast (mark : Char) (cs : List Char) : List Char :=
  (cs.reverse.takeWhile (· != mark)).reverse

/-- Check a host with brackets somewhere. The address is what stands after the user: in brackets that
nothing but a port may follow, or else before the port. -/
def checkAddress (host : List Char) : Except Refusal Unit :=
  let address := afterLast '@' host
  match address with
  | '[' :: bracketed =>
    match bracketed.dropWhile (· != ']') with
    | _ :: c :: _ =>
      if c == ':' then checkBracketed (bracketed.takeWhile (· != ']')) else .error .unbalanced
    | _ => checkBracketed (bracketed.takeWhile (· != ']'))
  | _ =>
    if address.contains '[' then .error .unbalanced
    else checkBracketed (address.takeWhile (· != ':'))

/-- Check the brackets of a host. -/
def checkBrackets (host : List Char) : Except Refusal Unit :=
  match host.contains '[', host.contains ']' with
  | false, false => .ok ()
  | true, true => checkAddress host
  | _, _ => .error .unbalanced

/-- Check that no character of a host turns into a delimiter. -/
def checkNormalization (host : List Char) : Except Refusal Unit :=
  if host.any fun c => unsafeCharacters.contains c.toNat then
    .error (.normalization (String.ofList host))
  else .ok ()

/-- The schemes whose last segment may have parameters; `rtsps` is none of them, as `rtsp` and `rtspu`
are. -/
def parameterSchemes : List String :=
  ["", "ftp", "hdl", "prospero", "http", "imap", "https", "shttp", "rtsp", "rtspu", "sip", "sips",
   "mms", "sftp", "tel"]

/-- A path without the parameters of its last segment. -/
def cutParameters (path : List Char) : List Char :=
  let segment := (path.reverse.takeWhile (· != '/')).reverse
  path.take (path.length - segment.length) ++ segment.takeWhile (· != ';')

/-- The path of a URL. -/
def path (url : String) : Except Refusal (List Char) := do
  let cs := (url.toList.dropWhile isLeadingJunk).filter fun c => !isRemoved c
  let (scheme, afterScheme) := splitScheme cs
  let (host, afterHost) := splitHost afterScheme
  checkBrackets (host.getD [])
  checkNormalization (host.getD [])
  let path := (afterHost.takeWhile (· != '#')).takeWhile (· != '?')
  return if parameterSchemes.contains scheme then cutParameters path else path

/-- The bytes of ASCII characters with their percent escapes resolved; a bad escape stays. -/
def percentBytes : List Char → List UInt8
  | [] => []
  | '%' :: a :: b :: rest =>
    match Json.hexValue? a, Json.hexValue? b with
    | some high, some low => UInt8.ofNat (16 * high + low) :: percentBytes rest
    | _, _ => UInt8.ofNat '%'.toNat :: percentBytes (a :: b :: rest)
  | c :: rest => UInt8.ofNat c.toNat :: percentBytes rest

/-- Whether a character is in ASCII. -/
def isAscii (c : Char) : Bool := c.toNat < 0x80

/-- The characters of a text, those of each run of ASCII together. -/
def asciiRuns : List Char → List (List Char)
  | [] => []
  | c :: rest =>
    match asciiRuns rest with
    | (d :: run) :: runs =>
      if isAscii c && isAscii d then (c :: d :: run) :: runs else [c] :: (d :: run) :: runs
    | runs => [c] :: runs

/-- A text with its percent escapes resolved as UTF-8, run by run. -/
def unquote (cs : List Char) : List Char :=
  (asciiRuns cs).flatMap fun run =>
    if run.all isAscii then (Utf8.decodeLossy (percentBytes run)).toList else run

end PredicateIndex.Url
