import Stencil.Failure
import Stencil.Text.Blank
import Stencil.Text.Case
import Stencil.Text.Digit
import Stencil.Text.Table

/-!
# Looks of text

The words of a tag choose the look of a text: attributes, which a word may also switch off, a
colour, a colour of the background, and an address. Two descriptions of the same look have the same
plain form, in which attributes come first, in a fixed order, each by its full name. Words that
describe no look stand for themselves.
-/

namespace Stencil.Console

/-- The attributes of a look in their order, each with its short names. -/
def attributes : List (String × List String) := [
  ("bold", ["b"]), ("dim", ["d"]), ("italic", ["i"]), ("underline", ["u"]), ("blink", []),
  ("blink2", []), ("reverse", ["r"]), ("conceal", ["c"]), ("strike", ["s"]),
  ("underline2", ["uu"]), ("frame", []), ("encircle", []), ("overline", ["o"])]

/-- The full name of an attribute. -/
def attribute? (word : String) : Option String :=
  (attributes.find? fun entry => entry.1 = word || entry.2.contains word).map Prod.fst

/-- The names of colours. -/
def colourNames : List (List Char) := Text.words "
black red green yellow blue magenta cyan white default bright_black bright_red bright_green
bright_yellow bright_blue bright_magenta bright_cyan bright_white navy_blue dark_blue blue3 blue1
dark_green deep_sky_blue4 dodger_blue3 dodger_blue2 green4 spring_green4 turquoise4 deep_sky_blue3
dodger_blue1 green3 spring_green3 dark_cyan light_sea_green deep_sky_blue2 deep_sky_blue1
spring_green2 cyan3 dark_turquoise turquoise2 green1 spring_green1 medium_spring_green cyan2 cyan1
dark_red deep_pink4 purple4 purple3 blue_violet orange4 medium_purple4 slate_blue3 royal_blue1
chartreuse4 dark_sea_green4 pale_turquoise4 steel_blue steel_blue3 cornflower_blue chartreuse3
cadet_blue sky_blue3 steel_blue1 pale_green3 sea_green3 aquamarine3 medium_turquoise chartreuse2
sea_green2 sea_green1 aquamarine1 dark_slate_gray2 dark_magenta dark_violet purple light_pink4 plum4
medium_purple3 slate_blue1 yellow4 wheat4 light_slate_grey light_slate_gray medium_purple
light_slate_blue dark_olive_green3 dark_sea_green light_sky_blue3 sky_blue2 dark_sea_green3
dark_slate_gray3 sky_blue1 chartreuse1 light_green pale_green1 dark_slate_gray1 red3
medium_violet_red magenta3 dark_orange3 indian_red hot_pink3 medium_orchid3 medium_orchid
medium_purple2 dark_goldenrod light_salmon3 rosy_brown medium_purple1 gold3 dark_khaki navajo_white3
light_steel_blue3 light_steel_blue yellow3 dark_sea_green2 light_cyan3 light_sky_blue1 green_yellow
dark_olive_green2 dark_sea_green1 pale_turquoise1 deep_pink3 magenta2 hot_pink2 orchid
medium_orchid1 orange3 light_pink3 pink3 plum3 violet light_goldenrod3 tan misty_rose3 thistle3
plum2 khaki3 light_goldenrod2 light_yellow3 light_steel_blue1 yellow2 dark_olive_green1 honeydew2
light_cyan1 red1 deep_pink2 deep_pink1 magenta1 orange_red1 indian_red1 hot_pink dark_orange salmon1
light_coral pale_violet_red1 orchid2 orchid1 orange1 sandy_brown light_salmon1 light_pink1 pink1
plum1 gold1 navajo_white1 misty_rose1 thistle1 yellow1 light_goldenrod1 khaki1 wheat1 cornsilk1"

/-- The shades of grey that have names, from black to white. -/
def greyShades : List (List Char) := Text.words "
0 3 7 11 15 19 23 27 30 35 37 39 42 46 50 53 54 58 62 63 66 69 70 74 78 82 84 85 89 93 100"

/-- Whether a word in lower case is the name of a colour. -/
def isColourName (word : List Char) : Bool :=
  colourNames.contains word ||
    (["grey".toList, "gray".toList].any fun stem =>
      stem.isPrefixOf word && greyShades.contains (word.drop 4))

/-- What stands in round brackets after a word that starts a text and ends it. -/
def inBrackets? (word text : List Char) : Option (List Char) :=
  if (word ++ ['(']).isPrefixOf text && text.getLast? = some ')' then
    some (text.drop (word.length + 1)).dropLast
  else none

/-- Whether a text is made of the parts of a colour by its three lights: digits, commas and
blanks. -/
def isLights (text : List Char) : Bool :=
  !text.isEmpty && text.all fun c => (Text.digitValue? c).isSome || c = ',' || Text.isBlank c

/-- Whether a word in lower case describes a colour: a name, six hexadecimal digits, a number, or
three lights. Lights that are no numbers cannot be told. -/
def isColour (word : List Char) : Outcome Bool :=
  let isHexadecimal := word.length = 7 && word.head? = some '#' &&
    (word.drop 1).all fun c => c.isDigit || ('a' ≤ c && c ≤ 'f')
  match inBrackets? "color".toList word, inBrackets? "rgb".toList word with
  | some number, _ =>
    Except.ok (!number.isEmpty && number.length ≤ 3 && number.all Char.isDigit &&
      (Number.readInteger? number).any (· ≤ 255))
  | _, some lights =>
    if !isLights lights then Except.ok false
    else
      let parts := lights.splitOn ','
      if parts.length ≠ 3 then Except.ok false
      else
        match parts.mapM Number.readInteger? with
        | none => Outcome.defect .value
        | some values => Except.ok (values.all (· ≤ 255))
  | none, none => Except.ok (isHexadecimal || isColourName word)

/-- A look. -/
structure Look where
  /-- The attributes that are switched on or off, the last choice first. -/
  attributes : List (String × Bool) := []
  /-- The colour. -/
  colour : Option (List Char) := none
  /-- The colour of the background. -/
  background : Option (List Char) := none
  /-- The address that the text leads to. -/
  address : Option (List Char) := none

namespace Look

/-- The plain form of a look. -/
def plain (look : Look) : List Char :=
  let named := Console.attributes.filterMap fun (name, _) =>
    (look.attributes.lookup name).map fun isOn => if isOn then [name.toList]
      else ["not".toList, name.toList]
  let told (word : List (List Char)) (value : Option (List Char)) : List (List Char) :=
    (value.map fun v => word ++ [v]).getD []
  let parts := named.flatten ++ told [] look.colour ++ told ["on".toList] look.background ++
    told ["link".toList] look.address
  if parts.isEmpty then "none".toList else List.intercalate [' '] parts

/-- The look that words describe after a look, if they describe one. -/
def read (look : Look) : List (List Char) → Outcome (Option Look)
  | [] => Except.ok (some look)
  | written :: rest =>
    let word := Text.lowerChars written
    if word = "on".toList then
      match rest with
      | [] => Except.ok none
      | ground :: rest => do
        let ground := Text.lowerChars ground
        if ← isColour ground then read { look with background := some ground } rest
        else return none
    else if word = "not".toList then
      match rest with
      | [] => Except.ok none
      | name :: rest =>
        match attribute? (String.ofList name) with
        | some name => read { look with attributes := (name, false) :: look.attributes } rest
        | none => Except.ok none
    else if word = "link".toList then
      match rest with
      | [] => Except.ok none
      | address :: rest => read { look with address := some address } rest
    else
      match attribute? (String.ofList word) with
      | some name => read { look with attributes := (name, true) :: look.attributes } rest
      | none => do
        if ← isColour word then read { look with colour := some word } rest else return none

/-- The plain form of a description. -/
def normalize (text : List Char) : Outcome (List Char) := do
  if Text.trim text = "none".toList || (Text.trim text).isEmpty then return "none".toList
  let words := (text.splitOnP Text.isBlank).filter fun word => !word.isEmpty
  match ← read {} words with
  | some look => return look.plain
  | none => return Text.lowerChars (Text.trim text)

end Look

end Stencil.Console
