/-
Plain text. Where no colour is wanted, messages are printed without escape sequences and without control
characters, whoever put them there; blanks and line breaks stay.
-/

namespace LoadTrial.Console.Plain

/-- where a reader stands in front of the next character: in plain text, or in some escape sequence -/
inductive Place where
  | ground
  | escape
  /-- in an escape sequence, behind an intermediate character -/
  | escapeRest
  /-- in a control sequence, in front of its parameters, or among them -/
  | control
  | controlRest
  /-- in a control sequence that makes no sense -/
  | controlSkipped
  /-- in a command for the terminal's own use, which a bell ends -/
  | command
  /-- in a string that only another escape ends -/
  | message
  deriving DecidableEq, Repr

/-- a control character that only moves on -/
def isSpacing (n : Nat) : Bool :=
  n == 0x09 || n == 0x0A || n == 0x0C || n == 0x0D

/-- the place behind a character in an escape sequence -/
def next (p : Place) (n : Nat) : Place :=
  if n == 0x18 || n == 0x1A then .ground
  else if n == 0x1B then .escape
  else if n < 0x20 then (if p == .command && n == 0x07 then .ground else p)
  else match p with
    | .ground => .ground
    | .escape =>
      if n < 0x30 then .escapeRest
      else if n == 0x5B then .control
      else if n == 0x5D then .command
      else if [0x50, 0x58, 0x5E, 0x5F].contains n then .message
      else if n < 0x7F then .ground
      else .escape
    | .escapeRest => if 0x30 ≤ n && n < 0x7F then .ground else .escapeRest
    | .control => if n < 0x30 then .controlRest else if 0x40 ≤ n && n < 0x7F then .ground else .control
    | .controlRest =>
      if n < 0x30 then .controlRest
      else if n < 0x40 then .controlSkipped
      else if n < 0x7F then .ground
      else .controlRest
    | .controlSkipped => if 0x40 ≤ n && n < 0x7F then .ground else .controlSkipped
    | .command => .command
    | .message => .message

/-- a character stays: one of plain text, or one that only moves on, unless it stands in a string -/
def stays (p : Place) (n : Nat) : Bool :=
  if n < 0x20 then isSpacing n && p != .command && p != .message else p == .ground && n != 0x7F

/-- what stays of a text; a character that stays ends the sequence in which it stands -/
def keep (p : Place) : List Char → List Char
  | [] => []
  | c :: cs => if stays p c.toNat then c :: keep .ground cs else keep (next p c.toNat) cs

/-- a text without escape sequences and control characters -/
def ofText (s : String) : String :=
  String.ofList (keep .ground s.toList)

end LoadTrial.Console.Plain
