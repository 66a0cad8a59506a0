import PredicateIndex.Json.Reader
import PredicateIndex.Table.Pictograph.Names
import PredicateIndex.Text.Lower

/-!
# Pictographs by name

In table texts the name of a pictograph between colons stands for it. A name may be followed by the
colour of skin, and by a dash and a word that asks for a symbol or for a picture. What is no name stays
as it is.
-/
namespace PredicateIndex.Pictograph

/-- The words of the catalogue in pairs. -/
def inPairs : List (List Char) → List (String × List Char)
  | name :: codes :: rest => (String.ofList name, codes) :: inPairs rest
  | _ => []

/-- The names with the digits of their code points. -/
def entries : List (String × List Char) :=
  catalogue.flatMap fun line => inPairs (Numeral.splitAt ' ' line.toList)

/-- The character of hexadecimal digits. -/
def ofDigits (digits : List Char) : Char :=
  Char.ofNat (digits.foldl (fun n c => 16 * n + (Json.hexValue? c).getD 0) 0)

/-- The pictograph of a name without a colour of skin. -/
def plain? (name : String) : Option (List Char) :=
  (entries.lookup name).map fun codes => (Numeral.splitAt '-' codes).map ofDigits

/-- The colours of skin and the characters that give them. -/
def tones : List (String × Char) :=
  [("light", Char.ofNat 0x1f3fb), ("medium-light", Char.ofNat 0x1f3fc),
   ("medium", Char.ofNat 0x1f3fd), ("medium-dark", Char.ofNat 0x1f3fe),
   ("dark", Char.ofNat 0x1f3ff)]

/-- The character that asks for a picture. -/
def picture : Char := Char.ofNat 0xfe0f

/-- The character that asks for a symbol. -/
def symbol : Char := Char.ofNat 0xfe0e

/-- A pictograph in a colour of skin: the colour follows its first character and makes it a
picture. -/
def inTone (tone : Char) : List Char → List Char
  | c :: rest => c :: tone :: (if rest.head? == some picture then rest.drop 1 else rest)
  | [] => []

/-- A text without its end. -/
def withoutEnd? (ending cs : List Char) : Option (List Char) :=
  if ending.isSuffixOf cs then some (cs.take (cs.length - ending.length)) else none

/-- Whether a pictograph has a colour of skin. -/
def isToned (name : List Char) : Bool :=
  tonedNames.any fun line => (Numeral.splitAt ' ' line.toList).contains name

/-- The pictograph of a name with a colour of skin. -/
def toned? (name : String) : Option (List Char) :=
  tones.findSome? fun (word, tone) => do
    let base ← withoutEnd? ("_" ++ word ++ "_skin_tone").toList name.toList
    if isToned base then (plain? (String.ofList base)).map (inTone tone) else none

/-- The pictograph of a name. -/
def named? (name : String) : Option (List Char) := plain? name <|> toned? name

/-- The pictograph of what stands between two colons. -/
def drawn? (code : List Char) : Option (List Char) :=
  let find := fun cs => named? (Text.lower (String.ofList cs))
  match withoutEnd? "-emoji".toList code, withoutEnd? "-text".toList code with
  | some name, _ => (find name).map (· ++ [picture])
  | _, some name => (find name).map (· ++ [symbol])
  | none, none => find code

/-- What stands between a colon and the next one, and what follows; there must be no blank. -/
def coded? (cs : List Char) : Option (List Char × List Char) :=
  let isInside := fun c => c != ':' && !Text.isBlank c
  match cs.dropWhile isInside with
  | ':' :: after => some (cs.takeWhile isInside, after)
  | _ => none

/-- Characters with their named pictographs. The fuel bounds their number. -/
def drawnWithin : Nat → List Char → List Char
  | 0, cs => cs
  | _, [] => []
  | fuel + 1, c :: rest =>
    match if c == ':' then coded? rest else none with
    | some (code, after) =>
      (drawn? code).getD (':' :: code ++ [':']) ++ drawnWithin fuel after
    | none => c :: drawnWithin fuel rest

/-- Characters with their named pictographs. Each step takes a character, so their number is fuel
enough. -/
def drawn (cs : List Char) : List Char := drawnWithin cs.length cs

end PredicateIndex.Pictograph
