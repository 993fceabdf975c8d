import RegistryAuth.Number.Reading
import RegistryAuth.Text.Blank
import RegistryAuth.Unicode.LetterCase

/-!
# Styles

A style is written as words: attributes, colors, and a link.  On a console without
color none of it is seen; but a tag is closed by any words for the style that opened it,
so that `[b]` and `[/bold]` are a pair.  `Style.parse?` reads the words.
-/

namespace RegistryAuth

/-- A style: the attributes that are set or taken away, the colors, and a link. -/
structure Style where
  attributes : List (String × Bool)
  color : Option (List Char)
  background : Option (List Char)
  link : Option (List Char)
  deriving Repr, DecidableEq

namespace Style

/-- The style that changes nothing. -/
def plain : Style := ⟨[], none, none, none⟩

/-- The names of attributes, in their order, and what each of them may be called. -/
def attributeNames : List (String × List String) :=
  [("bold", ["bold", "b"]), ("dim", ["dim", "d"]), ("italic", ["italic", "i"]),
    ("underline", ["underline", "u"]), ("blink", ["blink"]), ("blink2", ["blink2"]),
    ("reverse", ["reverse", "r"]), ("conceal", ["conceal", "c"]), ("strike", ["strike", "s"]),
    ("underline2", ["underline2", "uu"]), ("frame", ["frame"]), ("encircle", ["encircle"]),
    ("overline", ["overline", "o"])]

/-- The attribute that a word names. -/
def attribute? (word : List Char) : Option String :=
  (attributeNames.find? fun entry => entry.2.contains (String.ofList word)).map Prod.fst

/-- Sets attributes or takes them away; the order of their names is kept. -/
def setAttribute (name : String) (isOn : Bool) (s : Style) : Style :=
  let isSet (n : String) : Option Bool := if n = name then some isOn else s.attributes.lookup n
  { s with attributes := attributeNames.filterMap fun entry =>
      (isSet entry.1).map fun b => (entry.1, b) }

/-- The names of colors. -/
def colorText : String := "
  black red green yellow blue magenta cyan white bright_black bright_red bright_green
  bright_yellow bright_blue bright_magenta bright_cyan bright_white grey0 gray0 navy_blue
  dark_blue blue3 blue1 dark_green deep_sky_blue4 dodger_blue3 dodger_blue2 green4 spring_green4
  turquoise4 deep_sky_blue3 dodger_blue1 green3 spring_green3 dark_cyan light_sea_green
  deep_sky_blue2 deep_sky_blue1 spring_green2 cyan3 dark_turquoise turquoise2 green1 spring_green1
  medium_spring_green cyan2 cyan1 dark_red deep_pink4 purple4 purple3 blue_violet orange4 grey37
  gray37 medium_purple4 slate_blue3 royal_blue1 chartreuse4 dark_sea_green4 pale_turquoise4
  steel_blue steel_blue3 cornflower_blue chartreuse3 cadet_blue sky_blue3 steel_blue1 pale_green3
  sea_green3 aquamarine3 medium_turquoise chartreuse2 sea_green2 sea_green1 aquamarine1
  dark_slate_gray2 dark_magenta dark_violet purple light_pink4 plum4 medium_purple3 slate_blue1
  yellow4 wheat4 grey53 gray53 light_slate_grey light_slate_gray medium_purple light_slate_blue
  dark_olive_green3 dark_sea_green light_sky_blue3 sky_blue2 dark_sea_green3 dark_slate_gray3
  sky_blue1 chartreuse1 light_green pale_green1 dark_slate_gray1 red3 medium_violet_red magenta3
  dark_orange3 indian_red hot_pink3 medium_orchid3 medium_orchid medium_purple2 dark_goldenrod
  light_salmon3 rosy_brown grey63 gray63 medium_purple1 gold3 dark_khaki navajo_white3 grey69
  gray69 light_steel_blue3 light_steel_blue yellow3 dark_sea_green2 light_cyan3 light_sky_blue1
  green_yellow dark_olive_green2 dark_sea_green1 pale_turquoise1 deep_pink3 magenta2 hot_pink2
  orchid medium_orchid1 orange3 light_pink3 pink3 plum3 violet light_goldenrod3 tan misty_rose3
  thistle3 plum2 khaki3 light_goldenrod2 light_yellow3 grey84 gray84 light_steel_blue1 yellow2
  dark_olive_green1 honeydew2 light_cyan1 red1 deep_pink2 deep_pink1 magenta1 orange_red1
  indian_red1 hot_pink dark_orange salmon1 light_coral pale_violet_red1 orchid2 orchid1 orange1
  sandy_brown light_salmon1 light_pink1 pink1 plum1 gold1 navajo_white1 misty_rose1 thistle1
  yellow1 light_goldenrod1 khaki1 wheat1 cornsilk1 grey100 gray100 grey3 gray3 grey7 gray7 grey11
  gray11 grey15 gray15 grey19 gray19 grey23 gray23 grey27 gray27 grey30 gray30 grey35 gray35
  grey39 gray39 grey42 gray42 grey46 gray46 grey50 gray50 grey54 gray54 grey58 gray58 grey62
  gray62 grey66 gray66 grey70 gray70 grey74 gray74 grey78 gray78 grey82 gray82 grey85 gray85
  grey89 gray89 grey93 gray93"

/-- The names of colors. -/
def colorNames : List (List Char) :=
  (Text.splitOn ' ' (colorText.toList.map fun c => if c = '\n' then ' ' else c)).filter fun w =>
    !w.isEmpty

/-- What stands between a word and a closing bracket at the end. -/
def argument? (name cs : List Char) : Option (List Char) :=
  match Text.dropFront? (name ++ ['(']) cs with
  | none => none
  | some rest => if rest.getLast? = some ')' then some rest.dropLast else none

/-- Whether a number in a list of three is at most 255. -/
def isByte (cs : List Char) : Except NumberError Bool :=
  (Number.whole 10 cs).map fun n => n ≤ 255

/-- Whether a text names a color: by its name, by six hexadecimal digits behind a hash, by
a number, or by the numbers of its three parts. -/
def isColor (cs : List Char) : Except NumberError Bool := do
  if cs = "default".toList || colorNames.contains cs then return true
  match cs with
  | '#' :: digits =>
    return digits.length = 6 && digits.all fun c => c.isDigit || ('a' ≤ c && c ≤ 'f')
  | _ =>
    match argument? "color".toList cs with
    | some digits =>
      return 1 ≤ digits.length && digits.length ≤ 3 && digits.all Char.isDigit &&
        Number.ofDigits digits ≤ 255
    | none =>
      match argument? "rgb".toList cs with
      | none => return false
      | some parts =>
        if parts.isEmpty || !parts.all fun c => c = ',' || (Unicode.decimalValue? c).isSome then
          return false
        match Text.splitOn ',' parts with
        | [red, green, blue] =>
          let red ← isByte red
          let green ← isByte green
          let blue ← isByte blue
          return red && green && blue
        | _ => return false

/-- Reads words on top of a style; gives none if they are no style. -/
def readWords (s : Style) : List (List Char) → Except NumberError (Option Style)
  | [] => .ok (some s)
  | word :: rest =>
    let lower := Unicode.lower word
    if lower = "on".toList then
      match rest with
      | [] => .ok none
      | color :: rest =>
        match isColor (Unicode.lower color) with
        | .error e => .error e
        | .ok false => .ok none
        | .ok true => readWords { s with background := some (Unicode.lower color) } rest
    else if lower = "not".toList then
      match rest with
      | [] => .ok none
      | name :: rest =>
        match attribute? name with
        | none => .ok none
        | some name => readWords (s.setAttribute name false) rest
    else if lower = "link".toList then
      match rest with
      | [] => .ok none
      | link :: rest => readWords { s with link := some link } rest
    else
      match attribute? lower with
      | some name => readWords (s.setAttribute name true) rest
      | none =>
        match isColor lower with
        | .error e => .error e
        | .ok false => .ok none
        | .ok true => readWords { s with color := some lower } rest

/-- Reads a style; gives none if the text is none. -/
def parse? (cs : List Char) : Except NumberError (Option Style) :=
  if Text.trim cs = "none".toList then .ok (some plain) else readWords plain (Text.words cs)

end Style
end RegistryAuth
