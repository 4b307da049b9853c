/-
Colour on the console. A painted text stands between an escape that opens a style and one that resets it; a
reset inside the text is followed by the opening escape again. Where colour is off, texts stay as they are.
-/
import LoadTrial.Number.Binary64
import LoadTrial.Number.Natural

namespace LoadTrial.Console

inductive Color where
  | black | red | green | yellow | blue | magenta | cyan | white
  | brightBlack | brightRed | brightGreen | brightYellow | brightBlue | brightMagenta | brightCyan | brightWhite
  deriving DecidableEq, Repr

/-- the code of a foreground colour -/
def Color.code : Color → Nat
  | .black => 30 | .red => 31 | .green => 32 | .yellow => 33
  | .blue => 34 | .magenta => 35 | .cyan => 36 | .white => 37
  | .brightBlack => 90 | .brightRed => 91 | .brightGreen => 92 | .brightYellow => 93
  | .brightBlue => 94 | .brightMagenta => 95 | .brightCyan => 96 | .brightWhite => 97

def Color.name : Color → String
  | .black => "Black" | .red => "Red" | .green => "Green" | .yellow => "Yellow"
  | .blue => "Blue" | .magenta => "Magenta" | .cyan => "Cyan" | .white => "White"
  | .brightBlack => "BrightBlack" | .brightRed => "BrightRed" | .brightGreen => "BrightGreen"
  | .brightYellow => "BrightYellow" | .brightBlue => "BrightBlue" | .brightMagenta => "BrightMagenta"
  | .brightCyan => "BrightCyan" | .brightWhite => "BrightWhite"

/-- a colour, bold or not -/
structure Style where
  color : Color
  bold : Bool := false
  deriving DecidableEq, Repr

/-- the escape that turns a style on -/
def Style.opening (s : Style) : List Char :=
  ['\x1b', '['] ++ (if s.bold then ['1', ';'] else []) ++ Number.digits s.color.code ++ ['m']

/-- the escape that turns all styles off -/
def reset : List Char := ['\x1b', '[', '0', 'm']

/-- puts `opening` behind every reset in a text -/
def reopen (opening : List Char) : List Char → List Char
  | '\x1b' :: '[' :: '0' :: 'm' :: rest => reset ++ opening ++ reopen opening rest
  | c :: rest => c :: reopen opening rest
  | [] => []

/-- a text in a style -/
def Style.apply (s : Style) (text : String) : String :=
  String.ofList (s.opening ++ reopen s.opening text.toList ++ reset)

/-- paints if its own switch is on and the terminal takes colour -/
structure Painter where
  enabled : Bool
  terminal : Bool
  deriving DecidableEq, Repr

namespace Painter

def style (p : Painter) (s : Style) (text : String) : String :=
  if p.enabled && p.terminal then s.apply text else text

def paint (p : Painter) (color : Color) (text : String) : String :=
  p.style { color } text

def bold (p : Painter) (color : Color) (text : String) : String :=
  p.style { color, bold := true } text

/-! ## The scheme of the report -/

def header (p : Painter) (text : String) : String := p.bold .blue text

def border (p : Painter) (text : String) : String := p.paint .brightBlack text

def info (p : Painter) (text : String) : String := p.paint .cyan text

def success (p : Painter) (text : String) : String := p.bold .green text

def warning (p : Painter) (text : String) : String := p.paint .yellow text

def error (p : Painter) (text : String) : String := p.bold .red text

/-- the colour of a success rate: green from the threshold on, yellow up to five points below, else red -/
def rateColor (rate threshold : Number.Binary64) : Color :=
  if threshold.le rate then .green
  else if (threshold.sub (.ofNat 5)).le rate then .yellow
  else .red

def rate (p : Painter) (text : String) (rate threshold : Number.Binary64) : String :=
  p.paint (rateColor rate threshold) text

end Painter

/-- classes of latencies: below 50 ms, 200 ms and one second, and above -/
inductive LatencyLevel where
  | excellent
  | good
  | fair
  | poor
  deriving DecidableEq, Repr

namespace LatencyLevel

def ofMillis (ms : UInt64) : LatencyLevel :=
  if ms < 50 then .excellent else if ms < 200 then .good else if ms < 1000 then .fair else .poor

def color : LatencyLevel → Color
  | .excellent => .green
  | .good => .cyan
  | .fair => .yellow
  | .poor => .red

def name : LatencyLevel → String
  | .excellent => "Excellent"
  | .good => "Good"
  | .fair => "Fair"
  | .poor => "Poor"

end LatencyLevel

def Painter.latency (p : Painter) (text : String) (ms : UInt64) : String :=
  p.paint (LatencyLevel.ofMillis ms).color text

end LoadTrial.Console
