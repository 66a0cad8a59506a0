import PredicateIndex.Decimal.Count
import PredicateIndex.Json.Reader
import PredicateIndex.Text.Lower

/-!
# Styles and their normal form

A style is a list of words: attributes such as bold, which can be negated, a colour, a colour behind
the text and a link. Two styles with the same effect have the same normal form. A text that is no
style is its own name, in lower case.
-/
namespace PredicateIndex

/-- What a text looks like. -/
structure Style where
  /-- The attributes that are set, or set to be absent; an earlier one counts. -/
  attributes : List (String × Bool) := []
  /-- The name of the colour. -/
  color : Option String := none
  /-- The name of the colour behind the text. -/
  background : Option String := none
  /-- Where a link leads. -/
  link : Option String := none
  deriving DecidableEq, Repr

namespace Style

/-- The attributes with their written forms, in the order in which a normal form lists them. -/
def attributeForms : List (String × List String) :=
  [("bold", ["bold", "b"]), ("dim", ["dim", "d"]), ("italic", ["italic", "i"]),
   ("underline", ["underline", "u"]), ("blink", ["blink"]), ("blink2", ["blink2"]),
   ("reverse", ["reverse", "r"]), ("conceal", ["conceal", "c"]), ("strike", ["strike", "s"]),
   ("underline2", ["underline2", "uu"]), ("frame", ["frame"]), ("encircle", ["encircle"]),
   ("overline", ["overline", "o"])]

/-- The attribute of a word. -/
def attribute? (word : String) : Option String :=
  (attributeForms.find? fun (_, forms) => forms.contains word).map Prod.fst

/-- The names of colours. -/
def colorNames : List String :=
  ["black red green yellow blue magenta cyan white bright_black bright_red bright_green",
   "bright_yellow bright_blue bright_magenta bright_cyan bright_white grey0 gray0 navy_blue",
   "dark_blue blue3 blue1 dark_green deep_sky_blue4 dodger_blue3 dodger_blue2 green4",
   "spring_green4 turquoise4 deep_sky_blue3 dodger_blue1 green3 spring_green3 dark_cyan",
   "light_sea_green deep_sky_blue2 deep_sky_blue1 spring_green2 cyan3 dark_turquoise turquoise2",
   "green1 spring_green1 medium_spring_green cyan2 cyan1 dark_red deep_pink4 purple4 purple3",
   "blue_violet orange4 grey37 gray37 medium_purple4 slate_blue3 royal_blue1 chartreuse4",
   "dark_sea_green4 pale_turquoise4 steel_blue steel_blue3 cornflower_blue chartreuse3",
   "cadet_blue sky_blue3 steel_blue1 pale_green3 sea_green3 aquamarine3 medium_turquoise",
   "chartreuse2 sea_green2 sea_green1 aquamarine1 dark_slate_gray2 dark_magenta dark_violet",
   "purple light_pink4 plum4 medium_purple3 slate_blue1 yellow4 wheat4 grey53 gray53",
   "light_slate_grey light_slate_gray medium_purple light_slate_blue dark_olive_green3",
   "dark_sea_green light_sky_blue3 sky_blue2 dark_sea_green3 dark_slate_gray3 sky_blue1",
   "chartreuse1 light_green pale_green1 dark_slate_gray1 red3 medium_violet_red magenta3",
   "dark_orange3 indian_red hot_pink3 medium_orchid3 medium_orchid medium_purple2 dark_goldenrod",
   "light_salmon3 rosy_brown grey63 gray63 medium_purple1 gold3 dark_khaki navajo_white3 grey69",
   "gray69 light_steel_blue3 light_steel_blue yellow3 dark_sea_green2 light_cyan3",
   "light_sky_blue1 green_yellow dark_olive_green2 dark_sea_green1 pale_turquoise1 deep_pink3",
   "magenta2 hot_pink2 orchid medium_orchid1 orange3 light_pink3 pink3 plum3 violet",
   "light_goldenrod3 tan misty_rose3 thistle3 plum2 khaki3 light_goldenrod2 light_yellow3 grey84",
   "gray84 light_steel_blue1 yellow2 dark_olive_green1 honeydew2 light_cyan1 red1 deep_pink2",
   "deep_pink1 magenta1 orange_red1 indian_red1 hot_pink dark_orange salmon1 light_coral",
   "pale_violet_red1 orchid2 orchid1 orange1 sandy_brown light_salmon1 light_pink1 pink1 plum1",
   "gold1 navajo_white1 misty_rose1 thistle1 yellow1 light_goldenrod1 khaki1 wheat1 cornsilk1",
   "grey100 gray100 grey3 gray3 grey7 gray7 grey11 gray11 grey15 gray15 grey19 gray19 grey23",
   "gray23 grey27 gray27 grey30 gray30 grey35 gray35 grey39 gray39 grey42 gray42 grey46 gray46",
   "grey50 gray50 grey54 gray54 grey58 gray58 grey62 gray62 grey66 gray66 grey70 gray70 grey74",
   "gray74 grey78 gray78 grey82 gray82 grey85 gray85 grey89 gray89 grey93 gray93"]

/-- The words of a text. -/
def wordsOf (cs : List Char) : List String :=
  ((cs.splitBy fun a b => Text.isBlank a == Text.isBlank b).filter fun part =>
    !part.all Text.isBlank).map String.ofList

/-- Whether a word is one of the names of colours. -/
def isColorName (word : String) : Bool :=
  word == "default" || colorNames.any fun line => (wordsOf line.toList).contains word

/-- Why a text is no style. -/
inductive Fault where
  /-- A word is none of a style. -/
  | unreadable
  /-- A component of a colour has no value. -/
  | component (fault : Count.Fault)
  deriving DecidableEq, Repr

/-- The largest component of a colour. -/
def largestComponent : Nat := 255

/-- What stands between the parentheses of a call. -/
def argument? (function : String) (word : List Char) : Option (List Char) :=
  let start := function.toList ++ ['(']
  let rest := word.drop start.length
  if start.isPrefixOf word && rest.getLast? == some ')' then some rest.dropLast else none

/-- Check a colour that is given by its components. -/
def checkComponents (cs : List Char) : Except Fault Unit :=
  let parts := Numeral.splitAt ',' cs
  if cs.isEmpty || !cs.all (fun c => c == ',' || (Text.decimalValue? c).isSome) ||
      parts.length != 3 then .error .unreadable
  else do
    let values ← (parts.mapM Count.read).mapError .component
    if values.all (· ≤ largestComponent) then return else throw .unreadable

/-- Check a colour that is given by its number. -/
def checkNumber (cs : List Char) : Except Fault Unit :=
  if cs.isEmpty || 3 < cs.length || !cs.all Text.isAsciiDigit ||
      largestComponent < Text.asciiNat cs then .error .unreadable
  else .ok ()

/-- The name of a colour. -/
def colorOf (word : String) : Except Fault String :=
  let name := Text.lower word
  let cs := name.toList
  if isColorName name then .ok name
  else match cs with
    | '#' :: digits =>
      if digits.length == 6 && digits.all (fun c => (Json.hexValue? c).isSome) then .ok name
      else .error .unreadable
    | _ =>
      match argument? "color" cs, argument? "rgb" cs with
      | some number, _ => (checkNumber number).map fun _ => name
      | _, some components => (checkComponents components).map fun _ => name
      | none, none => .error .unreadable

/-- Read the words of a style into it. -/
def readWords (style : Style) : List String → Except Fault Style
  | [] => .ok style
  | word :: rest =>
    match Text.lower word, rest with
    | "on", name :: others => do
      let color ← colorOf name
      readWords { style with background := some color } others
    | "not", name :: others =>
      match attribute? name with
      | some found =>
        readWords { style with attributes := (found, false) :: style.attributes } others
      | none => .error .unreadable
    | "link", place :: others => readWords { style with link := some place } others
    | "on", [] | "not", [] | "link", [] => .error .unreadable
    | known, others =>
      match attribute? known with
      | some found => readWords { style with attributes := (found, true) :: style.attributes } others
      | none => do
        let color ← colorOf known
        readWords { style with color := some color } others

/-- The words of an attribute, if it is set. -/
def attributeWords (style : Style) (name : String) : List String :=
  match style.attributes.lookup name with
  | some true => [name]
  | some false => ["not", name]
  | none => []

/-- The normal form of a style. -/
def normal (style : Style) : String :=
  let words := attributeForms.flatMap (fun (name, _) => style.attributeWords name) ++
    style.color.toList ++ (style.background.toList.flatMap fun name => ["on", name]) ++
    (style.link.toList.flatMap fun place => ["link", place])
  if words.isEmpty then "none" else String.intercalate " " words

/-- The normal form of a text. -/
def normalForm (cs : List Char) : Except Count.Fault String :=
  let bare := String.ofList (Text.trim Text.isBlank cs)
  if bare == "none" then .ok bare
  else match readWords {} (wordsOf cs) with
    | .ok style => .ok style.normal
    | .error .unreadable => .ok (Text.lower bare)
    | .error (.component fault) => .error fault

end Style

end PredicateIndex
