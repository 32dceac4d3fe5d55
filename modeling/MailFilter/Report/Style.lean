/-!
# Styles

Texts for a terminal, with or without escape codes. A style is switched on in front of a text and
off behind it. A code inside the text that switches everything off is followed by the style again,
so that a styled text may hold another one.
-/

namespace MailFilter.Report

/-- The styles in use, each with its number. -/
inductive Style where
  | bold
  | dimmed
  | cyan
  | green
  | red
  | boldRed
deriving DecidableEq, Repr

/-- The code that switches everything off. -/
def reset : List Char := "\x1b[0m".toList

/-- The code that switches a style on. -/
def Style.code : Style → List Char
  | bold => "\x1b[1m".toList
  | dimmed => "\x1b[2m".toList
  | cyan => "\x1b[36m".toList
  | green => "\x1b[32m".toList
  | red => "\x1b[31m".toList
  | boldRed => "\x1b[1;31m".toList

/-- Puts `code` behind every code that switches everything off. `n` characters of such a code are
still to be passed. -/
def restyle (code : List Char) : Nat → List Char → List Char
  | _, [] => []
  | 0, c :: s =>
    if reset.isPrefixOf (c :: s) then c :: restyle code (reset.length - 1) s
    else c :: restyle code 0 s
  | 1, c :: s => c :: code ++ restyle code 0 s
  | n + 2, c :: s => c :: restyle code (n + 1) s

/-- Fills a text with blanks up to a width. -/
def padded (width : Nat) (text : String) : String :=
  text ++ String.ofList (List.replicate (width - text.toList.length) ' ')

/-- A text in a style, filled with blanks up to a width inside the codes. -/
def paintPadded (colours : Bool) (style : Style) (width : Nat) (text : String) : String :=
  if colours then
    String.ofList style.code ++
      padded width (String.ofList (restyle style.code 0 text.toList)) ++ String.ofList reset
  else padded width text

/-- A text in a style. -/
def paint (colours : Bool) (style : Style) (text : String) : String :=
  if colours then
    String.ofList (style.code ++ restyle style.code 0 text.toList ++ reset)
  else text

end MailFilter.Report
