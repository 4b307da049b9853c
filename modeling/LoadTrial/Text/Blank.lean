/-
Blank characters and trimming. A character is blank when Unicode gives it the property White_Space; settings
read from text are trimmed of blanks at both ends, whatever alphabet they are written in.
-/

namespace LoadTrial.Text

/-- the characters with the Unicode property White_Space -/
def isBlank (c : Char) : Bool :=
  let n := c.val
  (0x09 ≤ n && n ≤ 0x0D) || n == 0x20 || n == 0x85 || n == 0xA0 || n == 0x1680 || (0x2000 ≤ n && n ≤ 0x200A)
    || n == 0x2028 || n == 0x2029 || n == 0x202F || n == 0x205F || n == 0x3000

/-- drops the longest tail whose characters all satisfy `p` -/
def dropTail (p : Char → Bool) (cs : List Char) : List Char :=
  (cs.reverse.dropWhile p).reverse

/-- drops blanks at both ends -/
def trimList (cs : List Char) : List Char :=
  dropTail isBlank (cs.dropWhile isBlank)

/-- a text without the blanks at its two ends -/
def trim (s : String) : String :=
  String.ofList (trimList s.toList)

/-- a text without the characters `c` at its end -/
def trimEndOf (c : Char) (s : String) : String :=
  String.ofList (dropTail (· == c) s.toList)

/-- pads a text with spaces on the right up to a width counted in characters -/
def padRight (width : Nat) (s : String) : String :=
  s ++ String.ofList (List.replicate (width - s.length) ' ')

theorem dropTail_append_replicate (p : Char → Bool) (cs tail : List Char) (h : ∀ c ∈ tail, p c = true) :
    dropTail p (cs ++ tail) = dropTail p cs := by
  unfold dropTail
  rw [List.reverse_append, List.dropWhile_append_of_pos]
  intro c hc
  exact h c (List.mem_reverse.1 hc)

end LoadTrial.Text
