/-
When a scenario passes, without rounding.

A product and a quotient of doubles are rounded, each to the nearest double. Rounding never passes a double
(`le_roundUnits`, `roundUnits_le`), so what is a double already stays as it is (`roundUnits_of_isDouble`), and so do
whole numbers below 2^53 (`denotes_ofNat`) and the product of two of them (`Denotes.mul`). The quotient is the one step
that loses something. Still, a share of fewer than 2^46 requests that misses a whole percentage misses the double below
it too (`below_isDouble`, `rounded_share_lt`), so it is not rounded up to the percentage.

Main result: `Criterion.passes_iff`, with the witness `one_short_of_ninety_nine`.
-/
import Mathlib.Tactic
import LoadTrial.Criterion

namespace LoadTrial

namespace Number

/-! ## Whole numbers near a quotient -/

theorem roundHalfEven_eq (num den : Nat) :
    roundHalfEven num den = num / den ∨ roundHalfEven num den = num / den + 1 ∧ den ≤ 2 * (num % den) := by
  simp only [roundHalfEven]
  split_ifs with hdown hup
  · exact .inl rfl
  · exact .inr ⟨rfl, hup.le⟩
  · rcases Nat.mod_two_eq_zero_or_one (num / den) with heven | hodd
    · exact .inl (by rw [heven, Nat.add_zero])
    · exact .inr ⟨by rw [hodd], by omega⟩

variable {num den m : Nat}

/-- a quotient is not rounded down past a whole number -/
theorem le_roundHalfEven (hden : 0 < den) (h : m * den ≤ num) : m ≤ roundHalfEven num den := by
  have hquot : m ≤ num / den := (Nat.le_div_iff_mul_le hden).2 h
  rcases roundHalfEven_eq num den with heq | ⟨heq, -⟩ <;> omega

/-- a quotient is not rounded up past a whole number -/
theorem roundHalfEven_le (hden : 0 < den) (h : num ≤ m * den) : roundHalfEven num den ≤ m := by
  have hquot : num / den ≤ m := Nat.div_le_of_le_mul (by rwa [Nat.mul_comm] at h)
  rcases roundHalfEven_eq num den with heq | ⟨heq, hrest⟩
  · omega
  · -- something is left over, so the quotient is not the whole number yet
    rcases hquot.lt_or_eq with hlt | hwhole
    · omega
    · have hdiv := Nat.div_add_mod num den
      rw [hwhole, Nat.mul_comm] at hdiv
      omega

namespace Binary64

/-! ## Rounding never passes a double -/

/-- some units are a double, were exponents unbounded: 53 binary digits hold them -/
def IsDouble (units : Nat) : Prop :=
  ∃ digits exponent, digits < 2 ^ 53 ∧ units = digits * 2 ^ exponent

/-- the spacing above some units: 52 more binary digits fit below them, unless the spacing is one unit -/
theorem spacing_eq (units : Nat) :
    ∃ e, spacing units = 2 ^ e ∧ units < 2 ^ (53 + e) ∧ (e = 0 ∨ 2 ^ (52 + e) ≤ units) := by
  refine ⟨Nat.log2 units - 52, rfl, ?_, ?_⟩
  · calc units < 2 ^ (Nat.log2 units + 1) := Nat.lt_log2_self
      _ ≤ 2 ^ (53 + (Nat.log2 units - 52)) := Nat.pow_le_pow_right (by decide) (by omega)
  · rcases Nat.lt_or_ge 52 (Nat.log2 units) with hlog | hlog
    · right
      have hne : units ≠ 0 := by rintro rfl; simp at hlog
      have hexp : 52 + (Nat.log2 units - 52) = Nat.log2 units := by omega
      rw [hexp]
      exact Nat.log2_self_le hne
    · exact .inl (by omega)

/-- a double of full length is a multiple of the spacing -/
theorem IsDouble.dvd {units e : Nat} (h : IsDouble units) (hlarge : e = 0 ∨ 2 ^ (52 + e) ≤ units) : 2 ^ e ∣ units := by
  rcases hlarge with rfl | hlarge
  · exact one_dvd _
  · obtain ⟨digits, exponent, hdigits, rfl⟩ := h
    have hlt : 2 ^ (52 + e) < 2 ^ (53 + exponent) := by
      calc 2 ^ (52 + e) ≤ digits * 2 ^ exponent := hlarge
        _ < 2 ^ 53 * 2 ^ exponent := Nat.mul_lt_mul_of_pos_right hdigits (by positivity)
        _ = 2 ^ (53 + exponent) := (pow_add 2 53 exponent).symm
    have hexp : e ≤ exponent := by
      have := (Nat.pow_lt_pow_iff_right (by decide)).1 hlt
      omega
    exact Dvd.dvd.mul_left (pow_dvd_pow 2 hexp) digits

variable {num den g : Nat}

/-- a quotient is not rounded down past a double -/
theorem le_roundUnits (hden : 0 < den) (hg : IsDouble g) (h : g * den ≤ num) : g ≤ roundUnits num den := by
  obtain ⟨e, hstep, -, hquot⟩ := spacing_eq (num / den)
  have hpos : 0 < den * 2 ^ e := by positivity
  simp only [roundUnits, hstep]
  by_cases hlarge : e = 0 ∨ 2 ^ (52 + e) ≤ g
  · obtain ⟨m, rfl⟩ := hg.dvd hlarge
    have hm : m * (den * 2 ^ e) ≤ num := by
      calc m * (den * 2 ^ e) = 2 ^ e * m * den := by ring
        _ ≤ num := h
    calc 2 ^ e * m = m * 2 ^ e := Nat.mul_comm _ _
      _ ≤ roundHalfEven num (den * 2 ^ e) * 2 ^ e := Nat.mul_le_mul_right _ (le_roundHalfEven hpos hm)
  · -- below the doubles that are spaced like the quotient, the least of which is not passed
    rw [not_or, not_le] at hlarge
    have hfull : 2 ^ 52 * (den * 2 ^ e) ≤ num := by
      calc 2 ^ 52 * (den * 2 ^ e) = 2 ^ (52 + e) * den := by ring
        _ ≤ num / den * den := Nat.mul_le_mul_right _ (hquot.resolve_left hlarge.1)
        _ ≤ num := Nat.div_mul_le_self num den
    calc g ≤ 2 ^ (52 + e) := hlarge.2.le
      _ = 2 ^ 52 * 2 ^ e := pow_add 2 52 e
      _ ≤ roundHalfEven num (den * 2 ^ e) * 2 ^ e := Nat.mul_le_mul_right _ (le_roundHalfEven hpos hfull)

/-- a quotient is not rounded up past a double -/
theorem roundUnits_le (hden : 0 < den) (hg : IsDouble g) (h : num ≤ g * den) : roundUnits num den ≤ g := by
  obtain ⟨e, hstep, hquot, hlow⟩ := spacing_eq (num / den)
  have hpos : 0 < den * 2 ^ e := by positivity
  have hbelow : num / den ≤ g := Nat.div_le_of_le_mul (by rwa [Nat.mul_comm] at h)
  obtain ⟨m, rfl⟩ := hg.dvd (hlow.imp_right (le_trans · hbelow))
  have hm : num ≤ m * (den * 2 ^ e) := by
    calc num ≤ 2 ^ e * m * den := h
      _ = m * (den * 2 ^ e) := by ring
  simp only [roundUnits, hstep]
  calc roundHalfEven num (den * 2 ^ e) * 2 ^ e ≤ m * 2 ^ e := Nat.mul_le_mul_right _ (roundHalfEven_le hpos hm)
    _ = 2 ^ e * m := Nat.mul_comm _ _

/-- a double is its own rounding -/
theorem roundUnits_of_isDouble (hden : 0 < den) (hg : IsDouble g) : roundUnits (g * den) den = g :=
  le_antisymm (roundUnits_le hden hg le_rfl) (le_roundUnits hden hg le_rfl)

/-! ## Whole numbers -/

/-- a double that is a whole number; there are two that are zero -/
def Denotes (x : Binary64) (n : Nat) : Prop :=
  ∃ negative units, x = .finite negative units ∧ signed negative units = (n * one : Nat)

theorem one_eq : one = 2 ^ 1074 := by decide +kernel

theorem one_eq_scaled : ∃ e, one = 2 ^ 46 * 2 ^ e := ⟨1028, by decide +kernel⟩

theorem one_pos : 0 < one := by decide +kernel

theorem limit_le_ceiling : 2 ^ 53 * one ≤ ceiling := by decide +kernel

theorem isDouble_whole {n : Nat} (hn : n < 2 ^ 53) : IsDouble (n * one) :=
  ⟨n, 1074, hn, congrArg (n * ·) one_eq⟩

theorem whole_lt_ceiling {n : Nat} (hn : n < 2 ^ 53) : n * one < ceiling := by
  calc n * one < 2 ^ 53 * one := Nat.mul_lt_mul_of_pos_right hn one_pos
    _ ≤ ceiling := limit_le_ceiling

theorem ofUnits_whole {n : Nat} (hn : n < 2 ^ 53) : ofUnits false (n * one) = .finite false (n * one) :=
  if_pos (whole_lt_ceiling hn)

/-- a whole number below 2^53 is a double -/
theorem ofNat_eq {n : Nat} (hn : n < 2 ^ 53) : ofNat n = .finite false (n * one) := by
  have hround := roundUnits_of_isDouble Nat.one_pos (isDouble_whole hn)
  rw [Nat.mul_one] at hround
  rw [ofNat, ofRatio, hround, ofUnits_whole hn]

theorem denotes_ofNat {n : Nat} (hn : n < 2 ^ 53) : Denotes (ofNat n) n :=
  ⟨false, n * one, ofNat_eq hn, rfl⟩

/-- a product of whole numbers below 2^53 is not rounded -/
theorem mul_ofNat {m n : Nat} (hm : m < 2 ^ 53) (hn : n < 2 ^ 53) (hmn : m * n < 2 ^ 53) :
    (ofNat m).mul (ofNat n) = ofNat (m * n) := by
  have hassoc : m * one * (n * one) = m * n * one * one := by ring
  rw [ofNat_eq hm, ofNat_eq hn, ofNat_eq hmn]
  change ofUnits false (roundUnits (m * one * (n * one)) one) = _
  rw [hassoc, roundUnits_of_isDouble one_pos (isDouble_whole hmn), ofUnits_whole hmn]

theorem div_ofNat {m n : Nat} (hm : m < 2 ^ 53) (hn : n < 2 ^ 53) (hpos : 0 < n) :
    (ofNat m).div (ofNat n) = ofUnits false (roundUnits (m * one * one) (n * one)) := by
  have hne : ¬(n * one == 0) = true := by
    rw [beq_iff_eq]
    exact (Nat.mul_pos hpos one_pos).ne'
  rw [ofNat_eq hm, ofNat_eq hn, div, if_neg hne]
  rfl

/-- a whole number below 2^53 is compared by its units, with infinity above all of them -/
theorem Denotes.le_ofUnits_iff {x : Binary64} {n units : Nat} (hx : Denotes x n) (hn : n < 2 ^ 53) :
    x.le (ofUnits false units) = true ↔ n * one ≤ units := by
  obtain ⟨negative, own, rfl, hsigned⟩ := hx
  by_cases hfinite : units < ceiling
  · have hof : ofUnits false units = .finite false units := if_pos hfinite
    rw [hof, le, hsigned, decide_eq_true_iff]
    exact Int.ofNat_le
  · have hof : ofUnits false units = .infinite false := if_neg hfinite
    rw [hof]
    exact iff_of_true rfl ((whole_lt_ceiling hn).le.trans (not_lt.1 hfinite))

/-! ## A whole number and a quotient -/

/-- a quotient that falls short of a whole number does so by one part in its denominator -/
theorem scaled_le_of_lt {a n k scale : Nat} (hn : n ≤ scale) (h : a < k * n) : a * scale ≤ (k * scale - 1) * n := by
  have hshort : (a + 1) * scale ≤ k * n * scale := Nat.mul_le_mul_right _ h
  have hassoc : k * scale * n = k * n * scale := by ring
  rw [Nat.sub_mul, Nat.one_mul, hassoc]
  rw [Nat.add_mul, Nat.one_mul] at hshort
  omega

/-- 46 binary digits behind the point are left: there is a double as far below a whole number -/
theorem isDouble_below {k : Nat} (hk : k < 2 ^ 7) (e : Nat) : IsDouble ((k * 2 ^ 46 - 1) * 2 ^ e) :=
  ⟨k * 2 ^ 46 - 1, e, by omega, rfl⟩

/-- a quotient that falls short of a whole number still does when it is rounded, if its denominator is small: it does
not pass the double below the whole number -/
theorem roundUnits_lt_whole {a n k unit : Nat} (hunit : ∃ e, unit = 2 ^ 46 * 2 ^ e) (hk : k < 2 ^ 7) (hpos : 0 < n)
    (hn : n ≤ 2 ^ 46) (h : a < k * n) : roundUnits (a * unit * unit) (n * unit) < k * unit := by
  obtain ⟨e, hunit⟩ := hunit
  have hunitPos : 0 < unit := by rw [hunit]; positivity
  have hkPos : 0 < k := Nat.pos_of_mul_pos_right (Nat.zero_lt_of_lt h)
  have hbelow : k * 2 ^ 46 - 1 < k * 2 ^ 46 := Nat.sub_lt (by positivity) Nat.one_pos
  have hnum : a * unit * unit ≤ (k * 2 ^ 46 - 1) * 2 ^ e * (n * unit) := by
    calc a * unit * unit = a * 2 ^ 46 * (2 ^ e * unit) := by rw [hunit]; ring
      _ ≤ (k * 2 ^ 46 - 1) * n * (2 ^ e * unit) := Nat.mul_le_mul_right _ (scaled_le_of_lt hn h)
      _ = (k * 2 ^ 46 - 1) * 2 ^ e * (n * unit) := by ring
  calc roundUnits (a * unit * unit) (n * unit) ≤ (k * 2 ^ 46 - 1) * 2 ^ e :=
        roundUnits_le (Nat.mul_pos hpos hunitPos) (isDouble_below hk e) hnum
    _ < k * 2 ^ 46 * 2 ^ e := Nat.mul_lt_mul_of_pos_right hbelow (by positivity)
    _ = k * unit := by rw [hunit]; ring

/-- a quotient of whole numbers, though it is rounded, reaches a whole number just if it does without rounding -/
theorem whole_le_roundUnits_iff {a n k : Nat} (hk : k < 2 ^ 7) (hpos : 0 < n) (hn : n ≤ 2 ^ 46) :
    k * one ≤ roundUnits (a * one * one) (n * one) ↔ k * n ≤ a := by
  constructor
  · intro hle
    by_contra hshort
    exact absurd hle (not_le.2 (roundUnits_lt_whole one_eq_scaled hk hpos hn (not_le.1 hshort)))
  · intro h
    have hden : 0 < n * one := Nat.mul_pos hpos one_pos
    have hdouble : IsDouble (k * one) := isDouble_whole (hk.trans (by decide))
    refine le_roundUnits hden hdouble ?_
    calc k * one * (n * one) = k * n * (one * one) := by ring
      _ ≤ a * (one * one) := Nat.mul_le_mul_right _ h
      _ = a * one * one := (Nat.mul_assoc a one one).symm

end Binary64

end Number

/-! ## Verdicts -/

namespace Summary

open Number (Binary64)

theorem successRate_of_total_eq_zero {s : Summary} (h : s.total = 0) : s.successRate = none := by
  rw [successRate, h]
  rfl

/-- the share in percent is one quotient, rounded once -/
theorem successRate_eq {s : Summary} (hpos : 0 < s.total.toNat) (htotal : s.total.toNat < 2 ^ 46)
    (hsuccessful : s.successful ≤ s.total) : s.successRate = some (.ofUnits false (Binary64.roundUnits
      (s.successful.toNat * 100 * Binary64.one * Binary64.one) (s.total.toNat * Binary64.one))) := by
  have hle : s.successful.toNat ≤ s.total.toNat := UInt64.le_iff_toNat_le.1 hsuccessful
  have hsome : ¬(s.total == 0) = true := by
    rw [beq_iff_eq]
    rintro hzero
    rw [hzero] at hpos
    exact absurd hpos (by decide)
  have hproduct : s.successful.toNat * 100 < 2 ^ 53 := by omega
  rw [successRate, if_neg hsome, Binary64.mul_ofNat (by omega) (by decide) hproduct,
    Binary64.div_ofNat hproduct (by omega) hpos]

end Summary

/-- **A scenario passes by the exact share of its successful requests.** Whatever is rounded on the way, a scenario of
fewer than 2^46 requests reaches a whole percentage just if its successful requests do; one without requests passes as
the policy for empty scenarios says, whatever the threshold. -/
theorem Criterion.passes_iff (c : Criterion) (s : Summary) :
    (∀ percent ≤ 100, c.successThreshold.Denotes percent → 0 < s.total → s.total.toNat < 2 ^ 46 →
      s.successful ≤ s.total →
      (c.passes s = true ↔ percent * s.total.toNat ≤ 100 * s.successful.toNat)) ∧
    (s.total = 0 → (c.passes s = true ↔ c.emptyPolicy = .pass)) := by
  constructor
  · intro percent hpercent hthreshold hpos htotal hsuccessful
    have hposNat : 0 < s.total.toNat := UInt64.lt_iff_toNat_lt.1 hpos
    rw [passes, Summary.successRate_eq hposNat htotal hsuccessful]
    rw [hthreshold.le_ofUnits_iff (by omega), Number.Binary64.whole_le_roundUnits_iff (by omega) hposNat htotal.le,
      Nat.mul_comm 100]
  · intro hzero
    rw [passes, Summary.successRate_of_total_eq_zero hzero]
    cases c.emptyPolicy with
    | pass => exact iff_of_true rfl rfl
    | fail => exact iff_of_false nofun nofun

/-- seventy million million requests, of which one success more or less decides -/
theorem one_short_of_ninety_nine :
    let c : Criterion := { successThreshold := .ofNat 99, emptyPolicy := .pass }
    let run (total successful : UInt64) : Summary := {
      total, successful, failed := total - successful, timedOut := 0, latencySumMs := 0, minLatencyMs := none,
      maxLatencyMs := none, duration := .ofMillis 1 }
    c.successThreshold.Denotes 99 ∧ c.passes (run 70368744177599 69665056735823) = false ∧
      c.passes (run 70368744177599 69665056735824) = true ∧ c.passes (run 0 0) = true := by
  have hninety : (Number.Binary64.ofNat 99).Denotes 99 := Number.Binary64.denotes_ofNat (by decide)
  -- nothing but what it denotes is looked at, so its units need not be written out
  revert hninety
  generalize Number.Binary64.ofNat 99 = ninety
  intro hninety c run
  have hpos : (0 : UInt64) < 70368744177599 := by decide
  have htotal : (70368744177599 : UInt64).toNat < 2 ^ 46 := by decide
  have hexact (successful : UInt64) (h : successful ≤ 70368744177599) :
      c.passes (run 70368744177599 successful) = true ↔ 99 * 70368744177599 ≤ 100 * successful.toNat :=
    (c.passes_iff (run 70368744177599 successful)).1 99 (by decide) hninety hpos htotal h
  have hempty : c.passes (run 0 0) = true := ((c.passes_iff (run 0 0)).2 rfl).2 rfl
  refine ⟨hninety, ?_, (hexact _ (by decide)).2 (by decide), hempty⟩
  rw [← Bool.not_eq_true, hexact _ (by decide)]
  decide

end LoadTrial
