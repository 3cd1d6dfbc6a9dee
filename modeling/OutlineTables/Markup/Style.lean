import OutlineTables.Numeral
import OutlineTables.Text.Blank
import OutlineTables.Text.LowerCase

/-!
Styles in words, such as `bold red on white`, and the normal form that tells which of them are the
same.
-/
namespace OutlineTables.Markup

inductive Attribute where
  | bold | dim | italic | underline | blink | blink2 | reverse | conceal | strike | underline2
  | frame | encircle | overline
deriving DecidableEq, Repr

namespace Attribute

/-- The attributes in the order of the normal form. -/
def all : List Attribute :=
  [bold, dim, italic, underline, blink, blink2, reverse, conceal, strike, underline2, frame,
    encircle, overline]

def name : Attribute → String
  | bold => "bold"
  | dim => "dim"
  | italic => "italic"
  | underline => "underline"
  | blink => "blink"
  | blink2 => "blink2"
  | reverse => "reverse"
  | conceal => "conceal"
  | strike => "strike"
  | underline2 => "underline2"
  | frame => "frame"
  | encircle => "encircle"
  | overline => "overline"

def shortName? : Attribute → Option String
  | bold => some "b"
  | dim => some "d"
  | italic => some "i"
  | underline => some "u"
  | reverse => some "r"
  | conceal => some "c"
  | strike => some "s"
  | underline2 => some "uu"
  | overline => some "o"
  | _ => none

def ofWord? (t : Text) : Option Attribute :=
  all.find? fun a => a.name.toList = t || a.shortName?.any (·.toList = t)

end Attribute

/-- Colors with names. -/
def colorRows : List String :=
  [
  "aquamarine1 aquamarine3 black blue blue1 blue3 blue_violet bright_black bright_blue",
  "bright_cyan bright_green bright_magenta bright_red bright_white bright_yellow cadet_blue",
  "chartreuse1 chartreuse2 chartreuse3 chartreuse4 cornflower_blue cornsilk1 cyan cyan1 cyan2",
  "cyan3 dark_blue dark_cyan dark_goldenrod dark_green dark_khaki dark_magenta",
  "dark_olive_green1 dark_olive_green2 dark_olive_green3 dark_orange dark_orange3 dark_red",
  "dark_sea_green dark_sea_green1 dark_sea_green2 dark_sea_green3 dark_sea_green4",
  "dark_slate_gray1 dark_slate_gray2 dark_slate_gray3 dark_turquoise dark_violet deep_pink1",
  "deep_pink2 deep_pink3 deep_pink4 deep_sky_blue1 deep_sky_blue2 deep_sky_blue3 deep_sky_blue4",
  "dodger_blue1 dodger_blue2 dodger_blue3 gold1 gold3 gray0 gray100 gray11 gray15 gray19 gray23",
  "gray27 gray3 gray30 gray35 gray37 gray39 gray42 gray46 gray50 gray53 gray54 gray58 gray62",
  "gray63 gray66 gray69 gray7 gray70 gray74 gray78 gray82 gray84 gray85 gray89 gray93 green",
  "green1 green3 green4 green_yellow grey0 grey100 grey11 grey15 grey19 grey23 grey27 grey3",
  "grey30 grey35 grey37 grey39 grey42 grey46 grey50 grey53 grey54 grey58 grey62 grey63 grey66",
  "grey69 grey7 grey70 grey74 grey78 grey82 grey84 grey85 grey89 grey93 honeydew2 hot_pink",
  "hot_pink2 hot_pink3 indian_red indian_red1 khaki1 khaki3 light_coral light_cyan1 light_cyan3",
  "light_goldenrod1 light_goldenrod2 light_goldenrod3 light_green light_pink1 light_pink3",
  "light_pink4 light_salmon1 light_salmon3 light_sea_green light_sky_blue1 light_sky_blue3",
  "light_slate_blue light_slate_gray light_slate_grey light_steel_blue light_steel_blue1",
  "light_steel_blue3 light_yellow3 magenta magenta1 magenta2 magenta3 medium_orchid",
  "medium_orchid1 medium_orchid3 medium_purple medium_purple1 medium_purple2 medium_purple3",
  "medium_purple4 medium_spring_green medium_turquoise medium_violet_red misty_rose1",
  "misty_rose3 navajo_white1 navajo_white3 navy_blue orange1 orange3 orange4 orange_red1 orchid",
  "orchid1 orchid2 pale_green1 pale_green3 pale_turquoise1 pale_turquoise4 pale_violet_red1",
  "pink1 pink3 plum1 plum2 plum3 plum4 purple purple3 purple4 red red1 red3 rosy_brown",
  "royal_blue1 salmon1 sandy_brown sea_green1 sea_green2 sea_green3 sky_blue1 sky_blue2",
  "sky_blue3 slate_blue1 slate_blue3 spring_green1 spring_green2 spring_green3 spring_green4",
  "steel_blue steel_blue1 steel_blue3 tan thistle1 thistle3 turquoise2 turquoise4 violet wheat1",
  "wheat4 white yellow yellow1 yellow2 yellow3 yellow4"]

def colorNames : List Text := colorRows.flatMap fun row => Text.pieces ' ' row.toList

/-- Why words are no style. -/
inductive StyleFault where
  | unknown
  /-- A part of a color is no number. -/
  | part (fault : NumeralFault)
deriving DecidableEq, Repr

/-- What stands between a word with an opening parenthesis and a closing one at the end. -/
def enclosed? (lead : String) (t : Text) : Option Text :=
  match (Text.after? lead.toList t).map List.reverse with
  | some (')' :: inner) => some inner.reverse
  | _ => none

def isHexDigit (c : Char) : Bool := c.isDigit || (Nat.ble 97 c.toNat && Nat.ble c.toNat 102)

/-- The largest part of a color. -/
def maxPart : Nat := 255

/-- A color by three numbers. -/
def isColorOf (t : Text) : Except StyleFault Bool :=
  match Text.pieces ',' t with
  | [r, g, b] => do
    let parts ← [r, g, b].mapM fun p => (Numeral.read p).mapError .part
    return parts.all (Nat.ble · maxPart)
  | _ => .ok false

/-- Whether a word is a color: a name, a number or three numbers. -/
def isColor (t : Text) : Except StyleFault Bool :=
  if t = "default".toList || Text.isIn t colorNames then .ok true
  else
    match t, enclosed? "color(" t, enclosed? "rgb(" t with
    | '#' :: digits, _, _ => .ok (digits.length = 6 && digits.all isHexDigit)
    | _, some n, _ =>
      let isNumber := !n.isEmpty && Nat.ble n.length 3 && n.all Char.isDigit
      .ok (isNumber && Nat.ble (Numeral.value n) maxPart)
    | _, none, some parts =>
      if !parts.isEmpty && parts.all fun c => Text.isDigit c || c = ',' then isColorOf parts
      else .ok false
    | _, none, none => .ok false

/-- A color in lower case. -/
def color (word : Text) : Except StyleFault Text := do
  let name := Text.lower word
  if ← isColor name then return name else throw .unknown

/-- What words say about a style; of two words on one thing the later holds. -/
structure Style where
  /-- The latest attribute comes first. -/
  attributes : List (Attribute × Bool) := []
  color : Option Text := none
  ground : Option Text := none
  link : Option Text := none

namespace Style

/-- A style and further words. -/
def addWords : Style → List Text → Except StyleFault Style
  | x, [] => .ok x
  | x, w :: ws =>
    let word := Text.lower w
    if word = "on".toList then
      match ws with
      | [] => .error .unknown
      | c :: rest => do addWords { x with ground := some (← Markup.color c) } rest
    else if word = "not".toList then
      match ws with
      | [] => .error .unknown
      | a :: rest =>
        match Attribute.ofWord? a with
        | some a => addWords { x with attributes := (a, false) :: x.attributes } rest
        | none => .error .unknown
    else if word = "link".toList then
      match ws with
      | [] => .error .unknown
      | target :: rest => addWords { x with link := some target } rest
    else
      match Attribute.ofWord? word with
      | some a => addWords { x with attributes := (a, true) :: x.attributes } ws
      | none => do addWords { x with color := some (← Markup.color word) } ws

def read (t : Text) : Except StyleFault Style := addWords {} (Text.words Text.isBlank t)

/-- The words of a style in a fixed order. -/
def words (x : Style) : List Text :=
  let set (a : Attribute) : List Text :=
    match x.attributes.lookup a with
    | some true => [a.name.toList]
    | some false => ["not".toList, a.name.toList]
    | none => []
  let behind (lead : List Text) (t : Option Text) : List Text :=
    match t with
    | some t => lead ++ [t]
    | none => []
  Attribute.all.flatMap set ++ behind [] x.color ++ behind ["on".toList] x.ground ++
    behind ["link".toList] x.link

def text (x : Style) : Text :=
  if x.words.isEmpty then "none".toList else Text.join [' '] x.words

end Style

/-- The normal form of the name of a style: its words in order, or the name in lower case if it is
no style. -/
def normalName (t : Text) : Except NumeralFault Text :=
  match Style.read t with
  | .ok x => .ok x.text
  | .error .unknown => .ok (Text.lower (Text.strip t))
  | .error (.part f) => .error f

end OutlineTables.Markup
