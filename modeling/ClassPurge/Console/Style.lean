import ClassPurge.Number.Spelled
import ClassPurge.Text.Case
import ClassPurge.Text.Quoted

/-!
Styles as tags name them: attributes, a colour, a colour behind the text and a link, in any order.
Two spellings of one style have the same full name.
-/

namespace ClassPurge.Console

/-- The attributes, in the order in which a full name lists them. -/
def attributes : List String :=
  ["bold", "dim", "italic", "underline", "blink", "blink2", "reverse", "conceal", "strike",
    "underline2", "frame", "encircle", "overline"]

def shortAttributes : List (String × String) :=
  [("d", "dim"), ("b", "bold"), ("i", "italic"), ("u", "underline"), ("r", "reverse"),
    ("c", "conceal"), ("s", "strike"), ("uu", "underline2"), ("o", "overline")]

def attribute? (word : Text) : Option String :=
  match shortAttributes.find? fun e => e.1.toList == word with
  | some e => some e.2
  | none => attributes.find? fun a => a.toList == word

def colourNames : List Text := Text.words
  "default
black red green yellow blue magenta cyan white bright_black bright_red bright_green
bright_yellow bright_blue bright_magenta bright_cyan bright_white grey0 gray0 navy_blue
dark_blue blue3 blue1 dark_green deep_sky_blue4 dodger_blue3 dodger_blue2 green4 spring_green4
turquoise4 deep_sky_blue3 dodger_blue1 green3 spring_green3 dark_cyan light_sea_green
deep_sky_blue2 deep_sky_blue1 spring_green2 cyan3 dark_turquoise turquoise2 green1 spring_green1
medium_spring_green cyan2 cyan1 dark_red deep_pink4 purple4 purple3 blue_violet orange4 grey37
gray37 medium_purple4 slate_blue3 royal_blue1 chartreuse4 dark_sea_green4 pale_turquoise4
steel_blue steel_blue3 cornflower_blue chartreuse3 cadet_blue sky_blue3 steel_blue1 pale_green3
sea_green3 aquamarine3 medium_turquoise chartreuse2 sea_green2 sea_green1 aquamarine1
dark_slate_gray2 dark_magenta dark_violet purple light_pink4 plum4 medium_purple3 slate_blue1
yellow4 wheat4 grey53 gray53 light_slate_grey light_slate_gray medium_purple light_slate_blue
dark_olive_green3 dark_sea_green light_sky_blue3 sky_blue2 dark_sea_green3 dark_slate_gray3
sky_blue1 chartreuse1 light_green pale_green1 dark_slate_gray1 red3 medium_violet_red magenta3
dark_orange3 indian_red hot_pink3 medium_orchid3 medium_orchid medium_purple2 dark_goldenrod
light_salmon3 rosy_brown grey63 gray63 medium_purple1 gold3 dark_khaki navajo_white3 grey69
gray69 light_steel_blue3 light_steel_blue yellow3 dark_sea_green2 light_cyan3 light_sky_blue1
green_yellow dark_olive_green2 dark_sea_green1 pale_turquoise1 deep_pink3 magenta2 hot_pink2
orchid medium_orchid1 orange3 light_pink3 pink3 plum3 violet light_goldenrod3 tan misty_rose3
thistle3 plum2 khaki3 light_goldenrod2 light_yellow3 grey84 gray84 light_steel_blue1 yellow2
dark_olive_green1 honeydew2 light_cyan1 red1 deep_pink2 deep_pink1 magenta1 orange_red1
indian_red1 hot_pink dark_orange salmon1 light_coral pale_violet_red1 orchid2 orchid1 orange1
sandy_brown light_salmon1 light_pink1 pink1 plum1 gold1 navajo_white1 misty_rose1 thistle1
yellow1 light_goldenrod1 khaki1 wheat1 cornsilk1 grey100 gray100 grey3 gray3 grey7 gray7 grey11
gray11 grey15 gray15 grey19 gray19 grey23 gray23 grey27 gray27 grey30 gray30 grey35 gray35
grey39 gray39 grey42 gray42 grey46 gray46 grey50 gray50 grey54 gray54 grey58 gray58 grey62
gray62 grey66 gray66 grey70 gray70 grey74 gray74 grey78 gray78 grey82 gray82 grey85 gray85
grey89 gray89 grey93 gray93".toList

structure Style where
  attributes : List (String × Bool)
  colour : Option Text
  background : Option Text
  link : Option Text
  deriving DecidableEq, Repr

namespace Style

def none : Style := ⟨[], .none, .none, .none⟩

inductive Fault
  /-- A word that is neither an attribute nor a colour. -/
  | unknown
  /-- A part of a colour that is no number. -/
  | badNumber (u : Spelled.Unread)
  deriving DecidableEq, Repr

/-- What stands in brackets behind `name`, if the text ends there. -/
def bracketed? (name : String) (t : Text) : Option Text :=
  match Text.after? name.toList t with
  | some r => if r.getLast? == some ')' then some r.dropLast else .none
  | .none => .none

def isHexColour (t : Text) : Bool :=
  match t with
  | '#' :: ds => ds.length == 6 && ds.all fun c => c.isDigit || ('a' ≤ c && c ≤ 'f')
  | _ => false

def level (t : Text) : Except Fault Int :=
  match Spelled.literal 10 t with
  | .ok i => .ok i
  | .error f => .error (.badNumber ⟨10, t, f⟩)

/-- Checks three numbers up to 255 with commas between them. -/
def checkLevels (t : Text) : Except Fault Unit :=
  match t.splitOn (· == ',') with
  | [r, g, b] => do
    let levels ← [r, g, b].mapM level
    if levels.all (· ≤ 255) then return () else throw .unknown
  | _ => .error .unknown

def colourOf (word : Text) : Except Fault Text := do
  let t := Text.lower word
  if colourNames.contains t || isHexColour t then return t
  match bracketed? "color(" t, bracketed? "rgb(" t with
  | some ds, _ =>
    let isNumber := !ds.isEmpty && ds.length ≤ 3 && ds.all Char.isDigit
    if isNumber && Spelled.ofDigits 10 (ds.filterMap Spelled.asciiDigit?) ≤ 255 then return t
    else throw .unknown
  | .none, some ls =>
    if !ls.isEmpty && ls.all fun c => Text.isDigit c || c == ',' then
      checkLevels ls
      return t
    else throw .unknown
  | .none, .none => throw .unknown

def setAttribute (name : String) (on : Bool) (s : Style) : Style :=
  { s with attributes := (name, on) :: s.attributes }

def ofWords (s : Style) : List Text → Except Fault Style
  | [] => .ok s
  | w :: ws =>
    match (Text.lower w).string, ws with
    | "on", c :: ws => do
      let c ← colourOf c
      ofWords { s with background := some c } ws
    | "not", a :: ws =>
      match attribute? a with
      | some a => ofWords (s.setAttribute a false) ws
      | .none => .error .unknown
    | "link", l :: ws => ofWords { s with link := some l } ws
    | "on", [] | "not", [] | "link", [] => .error .unknown
    | _, ws =>
      match attribute? (Text.lower w) with
      | some a => ofWords (s.setAttribute a true) ws
      | .none => do
        let c ← colourOf w
        ofWords { s with colour := some c } ws

def name (s : Style) : Text :=
  let shown (a : String) : List Text :=
    match s.attributes.find? fun e => e.1 == a with
    | some (_, on) => if on then [a.toList] else ["not".toList, a.toList]
    | .none => []
  let words := Console.attributes.flatMap shown ++ s.colour.toList ++
    (match s.background with
      | some c => ["on".toList, c]
      | .none => []) ++
    (match s.link with
      | some l => ["link".toList, l]
      | .none => [])
  if words.isEmpty then "none".toList else Text.join [' '] words

end Style

/-- The one name of a style. What names none is only freed of the blanks around it and of
capital letters. -/
def styleName (t : Text) : Except Spelled.Unread Text :=
  if Text.strip t == "none".toList || t.isEmpty then .ok "none".toList
  else
    match Style.ofWords .none (Text.words t) with
    | .ok s => .ok s.name
    | .error .unknown => .ok (Text.lower (Text.strip t))
    | .error (.badNumber u) => .error u

end ClassPurge.Console
