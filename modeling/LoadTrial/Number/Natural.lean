/-
Natural numbers as decimal text: writing one, reading digits, and reading a number of limited size with the
reason why a text is not one.
-/

namespace LoadTrial.Number

/-- the sum of some numbers -/
def total (ns : List Nat) : Nat :=
  ns.foldr (· + ·) 0

@[simp] theorem total_nil : total [] = 0 := rfl

@[simp] theorem total_cons (n : Nat) (ns : List Nat) : total (n :: ns) = n + total ns := rfl

@[simp] theorem total_append (ms ns : List Nat) : total (ms ++ ns) = total ms + total ns := by
  induction ms with
  | nil => simp
  | cons m ms ih => simp [ih, Nat.add_assoc]

theorem length_flatMap {α β : Type} (f : α → List β) (as : List α) :
    (as.flatMap f).length = total (as.map fun a => (f a).length) := by
  induction as with
  | nil => rfl
  | cons a as ih => simp [ih]

theorem total_map_le {α : Type} {f : α → Nat} {bound : Nat} (h : ∀ a, f a ≤ bound) (as : List α) :
    total (as.map f) ≤ as.length * bound := by
  induction as with
  | nil => simp
  | cons a as ih =>
    rw [List.map_cons, total_cons, List.length_cons, Nat.succ_mul, Nat.add_comm]
    exact Nat.add_le_add ih (h a)

/-- the decimal digits of a number, the most significant first -/
def digits (n : Nat) : List Char :=
  if n < 10 then [Nat.digitChar n] else digits (n / 10) ++ [Nat.digitChar (n % 10)]

/-- a number in decimal -/
def decimal (n : Nat) : String :=
  String.ofList (digits n)

/-- an integer in decimal, with a minus sign if it is negative -/
def signedDecimal (n : Int) : String :=
  if n < 0 then "-" ++ decimal n.natAbs else decimal n.natAbs

def digitValue (c : Char) : Nat :=
  c.toNat - '0'.toNat

/-- the number that a row of digits denotes -/
def ofDigits (cs : List Char) : Nat :=
  cs.foldl (fun n c => 10 * n + digitValue c) 0

theorem isDigit_digitChar : ∀ d < 10, (Nat.digitChar d).isDigit = true := by
  decide

theorem digitValue_digitChar : ∀ d < 10, digitValue (Nat.digitChar d) = d := by
  decide

theorem isDigit_of_mem_digits {n : Nat} {c : Char} (h : c ∈ digits n) : c.isDigit = true := by
  induction n using Nat.strongRecOn with
  | ind n ih =>
    rw [digits] at h
    split at h
    case isTrue hn =>
      rw [List.mem_singleton.1 h]
      exact isDigit_digitChar n hn
    case isFalse hn =>
      rcases List.mem_append.1 h with h | h
      · exact ih (n / 10) (by omega) h
      · rw [List.mem_singleton.1 h]
        exact isDigit_digitChar (n % 10) (Nat.mod_lt n (by decide))

theorem ofDigits_append_singleton (cs : List Char) (c : Char) :
    ofDigits (cs ++ [c]) = 10 * ofDigits cs + digitValue c := by
  rw [ofDigits, List.foldl_append]
  rfl

/-- the digits of a number denote it -/
theorem ofDigits_digits (n : Nat) : ofDigits (digits n) = n := by
  induction n using Nat.strongRecOn with
  | ind n ih =>
    rw [digits]
    split
    case isTrue hn => exact (Nat.zero_add _).trans (digitValue_digitChar n hn)
    case isFalse hn =>
      have hlast : digitValue (Nat.digitChar (n % 10)) = n % 10 :=
        digitValue_digitChar (n % 10) (Nat.mod_lt n (by decide))
      rw [ofDigits_append_singleton, ih (n / 10) (by omega), hlast]
      exact Nat.div_add_mod n 10

theorem digits_inj {m n : Nat} : digits m = digits n ↔ m = n := by
  constructor
  · intro h
    rw [← ofDigits_digits m, ← ofDigits_digits n, h]
  · exact congrArg digits

/-- a number in decimal, with zeros in front up to a width -/
def decimalPadded (width n : Nat) : String :=
  let ds := digits n
  String.ofList (List.replicate (width - ds.length) '0' ++ ds)

/-- why a text is not an integer of the wanted size -/
inductive IntegerFault where
  | empty
  | invalidDigit
  | tooLarge
  | tooSmall
  deriving DecidableEq, Repr

def IntegerFault.message : IntegerFault → String
  | .empty => "cannot parse integer from empty string"
  | .invalidDigit => "invalid digit found in string"
  | .tooLarge => "number too large to fit in target type"
  | .tooSmall => "number too small to fit in target type"

/-- reads digits from the left; passing `limit` is `fault`, found at the digit that passes it -/
def readDigits (limit : Nat) (fault : IntegerFault) (n : Nat) : List Char → Except IntegerFault Nat
  | [] => .ok n
  | c :: cs =>
    if !c.isDigit then .error .invalidDigit
    else
      let n' := 10 * n + digitValue c
      if limit < n' then .error fault else readDigits limit fault n' cs

/-- reads an unsigned integer up to `limit`; one plus sign may stand in front -/
def readUnsigned (limit : Nat) (cs : List Char) : Except IntegerFault Nat :=
  match cs with
  | [] => .error .empty
  | ['+'] => .error .invalidDigit
  | '+' :: ds => readDigits limit .tooLarge 0 ds
  | ds => readDigits limit .tooLarge 0 ds

/-- reads a signed integer from `-limit - 1` to `limit` -/
def readSigned (limit : Nat) (cs : List Char) : Except IntegerFault Int :=
  match cs with
  | [] => .error .empty
  | ['+'] => .error .invalidDigit
  | ['-'] => .error .invalidDigit
  | '+' :: ds => (readDigits limit .tooLarge 0 ds).map Int.ofNat
  | '-' :: ds => (readDigits (limit + 1) .tooSmall 0 ds).map fun n => -Int.ofNat n
  | ds => (readDigits limit .tooLarge 0 ds).map Int.ofNat

end LoadTrial.Number
