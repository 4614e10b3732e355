import Granary.Proofs.Replica.Relisting
import Mathlib.Algebra.Order.Field.Rat
import Mathlib.Algebra.Order.Ring.Abs
import Mathlib.Tactic.Linarith
import Mathlib.Tactic.Ring

/-!
# What the columns of a replica can hold

A source column that declares its limits becomes a column with limits of its own.  Nothing is lost
on the way where the new column holds all that the old one may hold: texts as long, and numbers with
as many digits on either side of the point.

The numbers of a declared precision and scale are the multiples of a power of ten up to a bound, so
one such set of numbers is within another exactly if there is room for the digits (`decimal_iff`).
A scale may be negative, for numbers that end in zeros, or greater than the precision, for numbers
that begin with zeros behind the point.  It is for those two that a replica has no room.
-/

namespace Granary.Replica

/-- What a column of texts or of numbers holds in one row. -/
inductive CellValue where
  | text (characters : String)
  | number (q : ℚ)
  | notANumber

/-- The numbers of a precision and a scale: those that have no more digits than the precision when
they are counted in units of the last place. -/
def Decimal (precision : ℕ) (scale : ℤ) (q : ℚ) : Prop :=
  ∃ units : ℤ, |units| < 10 ^ precision ∧ q = units * 10 ^ (-scale)

namespace CellValue

/-- A text of no more than so many characters. -/
def TextUpTo (length : ℕ) : CellValue → Prop
  | .text characters => characters.length ≤ length
  | _ => False

/-- A number of the precision and scale, or none that is a number. -/
def NumberOf (precision : ℕ) (scale : ℤ) : CellValue → Prop
  | .number q => Decimal precision scale q
  | .notANumber => True
  | .text _ => False

end CellValue

namespace ColumnType

/-- What a column of a replica may hold, if it is one of texts or of declared numbers. -/
def Holds : ColumnType → CellValue → Prop
  | .text, .text _ => True
  | .varchar length, value => value.TextUpTo length
  | .char length, value => value.TextUpTo length
  | .numeric precision scale, value => value.NumberOf precision scale
  | _, _ => False

/-- The column is one of texts, unbounded or at least as long. -/
def RoomForTexts (length : ℕ) : ColumnType → Prop
  | .text => True
  | .varchar room => length ≤ room
  | .char room => length ≤ room
  | _ => False

/-- The column is one of numbers, with at least as many digits before the point and behind it. -/
def RoomForNumbers (precision : ℕ) (scale : ℤ) : ColumnType → Prop
  | .numeric precision' scale' =>
    (precision : ℤ) - scale ≤ (precision' : ℤ) - scale' ∧ scale ≤ scale'
  | _ => False

end ColumnType

/-- The types of source columns that declare limits. -/
inductive DeclaredType where
  | varchar (length : ℕ)
  | char (length : ℕ)
  | numeric (precision : ℕ) (scale : ℤ)

namespace DeclaredType

/-- The names that the type goes by. -/
def names : DeclaredType → List String
  | .varchar _ => ["character varying", "varchar"]
  | .char _ => ["character", "char", "bpchar"]
  | .numeric .. => ["numeric", "decimal"]

/-- A length and a precision are positive; a scale may be anything. -/
def Positive : DeclaredType → Prop
  | .varchar length => 0 < length
  | .char length => 0 < length
  | .numeric precision _ => 0 < precision

/-- The limits are those of the type. -/
def LimitedBy : DeclaredType → Limits → Prop
  | .varchar length, limits => limits.maxLength = some (length : ℤ)
  | .char length, limits => limits.maxLength = some (length : ℤ)
  | .numeric precision scale, limits =>
    limits.precision = some (precision : ℤ) ∧ limits.scale = some scale

/-- What a column of the type may hold. -/
def Holds : DeclaredType → CellValue → Prop
  | .varchar length => CellValue.TextUpTo length
  | .char length => CellValue.TextUpTo length
  | .numeric precision scale => CellValue.NumberOf precision scale

/-- The other type has room for all characters or digits of this one. -/
def FitsIn : DeclaredType → ColumnType → Prop
  | .varchar length => ColumnType.RoomForTexts length
  | .char length => ColumnType.RoomForTexts length
  | .numeric precision scale => ColumnType.RoomForNumbers precision scale

/-- Numbers have the point among their digits or at one end of them. -/
def Ordinary : DeclaredType → Prop
  | .numeric precision scale => 0 ≤ scale ∧ scale ≤ precision
  | _ => True

end DeclaredType

/-- The catalog describes the column as one of the given type, with its limits. -/
structure SourceColumn.Declares (c : SourceColumn) (d : DeclaredType) : Prop where
  name : Text.asciiLower (Text.trim c.sourceType) ∈ d.names
  positive : d.Positive
  limits : d.LimitedBy c.limits

/-! ## Numbers -/

/-- In units of a finer place there are more of them. -/
theorem decimal_finer_iff {precision : ℕ} {scale units : ℤ} {places : ℕ} :
    Decimal precision (scale + places) (units * 10 ^ (-scale)) ↔
      |units| * 10 ^ places < 10 ^ precision := by
  have hten : (10 : ℚ) ≠ 0 := by norm_num
  have hfiner : (units : ℚ) * 10 ^ (-scale) =
      ((units * 10 ^ places : ℤ) : ℚ) * 10 ^ (-(scale + places)) := by
    rw [neg_add, zpow_add₀ hten, zpow_neg _ (places : ℤ), zpow_natCast, Int.cast_mul, Int.cast_pow,
      Int.cast_ofNat, mul_mul_mul_comm, mul_inv_cancel₀ (pow_ne_zero places hten), mul_one]
  have habs : |units * 10 ^ places| = |units| * 10 ^ places := by
    rw [abs_mul, abs_of_pos (by positivity : (0 : ℤ) < 10 ^ places)]
  rw [hfiner]
  constructor
  · rintro ⟨units', hunits', heq⟩
    have hsame := mul_right_cancel₀ (zpow_ne_zero _ hten) heq
    rw [← habs, Int.cast_injective hsame]
    exact hunits'
  · intro h
    exact ⟨units * 10 ^ places, by rwa [habs], rfl⟩

/-- The unit of a place is no number of places that are all before it. -/
theorem scale_le_of_decimal {precision : ℕ} {scale scale' : ℤ}
    (h : Decimal precision scale' (10 ^ (-scale))) : scale ≤ scale' := by
  obtain ⟨units, -, heq⟩ := h
  by_contra hlt
  obtain ⟨places, hplaces⟩ := Int.eq_ofNat_of_zero_le (by omega : 0 ≤ scale - scale' - 1)
  have hten : (10 : ℚ) ≠ 0 := by norm_num
  have hscale : -scale' = -scale + (places + 1 : ℕ) := by omega
  rw [hscale, zpow_add₀ hten, zpow_natCast, mul_left_comm] at heq
  have hone : (units * 10 ^ (places + 1) : ℚ) = 1 :=
    mul_left_cancel₀ (zpow_ne_zero (-scale) hten) (by rw [mul_one, ← heq])
  have hint : units * 10 ^ (places + 1) = 1 := by exact_mod_cast hone
  have hdvd : (10 : ℤ) ∣ 1 := ⟨units * 10 ^ places, by rw [← hint]; ring⟩
  omega

/-- All numbers of one precision and scale are among those of another exactly if there is room for
their digits. -/
theorem decimal_iff {precision precision' : ℕ} {scale scale' : ℤ} (hpos : 0 < precision) :
    (∀ q, Decimal precision scale q → Decimal precision' scale' q) ↔
      (precision : ℤ) - scale ≤ (precision' : ℤ) - scale' ∧ scale ≤ scale' := by
  obtain ⟨digits, rfl⟩ := Nat.exists_eq_succ_of_ne_zero hpos.ne'
  constructor
  · intro h
    have hunit : scale ≤ scale' :=
      scale_le_of_decimal (h _ ⟨1, by rw [abs_one]; exact one_lt_pow₀ (by norm_num) (by omega),
        by rw [Int.cast_one, one_mul]⟩)
    obtain ⟨places, hplaces⟩ := Int.eq_ofNat_of_zero_le (by omega : 0 ≤ scale' - scale)
    obtain rfl : scale' = scale + places := by omega
    -- The first digit alone takes as much room as any number of the precision.
    have hfirst : |(10 : ℤ) ^ digits| < 10 ^ (digits + 1) := by
      rw [abs_of_pos (by positivity)]
      exact pow_lt_pow_right₀ (by norm_num) (Nat.lt_succ_self _)
    have hroom := decimal_finer_iff.1 (h _ ⟨10 ^ digits, hfirst, rfl⟩)
    rw [abs_of_pos (by positivity), ← pow_add] at hroom
    have hlt := (pow_lt_pow_iff_right₀ (by norm_num : (1 : ℤ) < 10)).1 hroom
    refine ⟨?_, hunit⟩
    push_cast
    omega
  · rintro ⟨hbefore, hbehind⟩ q ⟨units, hunits, rfl⟩
    obtain ⟨places, hplaces⟩ := Int.eq_ofNat_of_zero_le (by omega : 0 ≤ scale' - scale)
    obtain rfl : scale' = scale + places := by omega
    refine decimal_finer_iff.2 ?_
    calc |units| * 10 ^ places < 10 ^ (digits + 1) * 10 ^ places :=
          mul_lt_mul_of_pos_right hunits (by positivity)
      _ = 10 ^ (digits + 1 + places) := (pow_add _ _ _).symm
      _ ≤ 10 ^ precision' := pow_le_pow_right₀ (by norm_num) (by omega)

/-! ## Limits -/

/-- Texts up to a length are held by the columns of texts with as much room. -/
theorem texts_held_iff (length : ℕ) (type : ColumnType) :
    (∀ value : CellValue, value.TextUpTo length → type.Holds value) ↔ type.RoomForTexts length := by
  have hheld : ∀ {room : ℕ}, (∀ value : CellValue, value.TextUpTo length → value.TextUpTo room) ↔
      length ≤ room := by
    intro room
    refine ⟨fun h => ?_, fun h value hvalue => ?_⟩
    · have hlongest : (String.ofList (List.replicate length ' ')).length = length := by
        rw [String.length_ofList, List.length_replicate]
      have hroom : _ ≤ room := h (.text (String.ofList (List.replicate length ' '))) hlongest.le
      rwa [hlongest] at hroom
    · cases value with
      | text characters => exact Nat.le_trans hvalue h
      | number q => exact hvalue
      | notANumber => exact hvalue
  have hempty : (CellValue.text "").TextUpTo length := Nat.zero_le length
  cases type with
  | varchar room => exact hheld
  | char room => exact hheld
  | text =>
    refine iff_of_true (fun value hvalue => ?_) trivial
    cases value with
    | text characters => trivial
    | number q => exact hvalue
    | notANumber => exact hvalue
  | _ => exact iff_of_false (fun h => h _ hempty) id

theorem numbers_held_iff {precision : ℕ} (hpos : 0 < precision) (scale : ℤ) (type : ColumnType) :
    (∀ value : CellValue, value.NumberOf precision scale → type.Holds value) ↔
      type.RoomForNumbers precision scale := by
  cases type with
  | numeric precision' scale' =>
    refine Iff.trans ⟨fun h q hq => h (.number q) hq, fun h value hvalue => ?_⟩ (decimal_iff hpos)
    cases value with
    | text characters => exact hvalue
    | number q => exact h q hvalue
    | notANumber => trivial
  | _ => exact iff_of_false (fun h => h .notANumber trivial) id

namespace DeclaredType

/-- The room that a type has says what it holds. -/
theorem holds_iff_fitsIn {d : DeclaredType} (hpos : d.Positive) (type : ColumnType) :
    (∀ value, d.Holds value → type.Holds value) ↔ d.FitsIn type := by
  cases d with
  | varchar length => exact texts_held_iff length type
  | char length => exact texts_held_iff length type
  | numeric precision scale => exact numbers_held_iff hpos scale type

/-- How the limits of a column of the type are read. -/
def reading : DeclaredType → Limits → ColumnType
  | .varchar _ => ColumnType.varcharOf
  | .char _ => ColumnType.charOf
  | .numeric .. => ColumnType.numericOf

/-- What a column of the type becomes. -/
def replica : DeclaredType → ColumnType
  | .varchar length => if length ≤ longestVarchar then .varchar length else .text
  | .char length => .char length
  | .numeric precision scale =>
    .numeric precision (min (if 0 ≤ scale then scale.toNat else 2) precision)

theorem fitsIn_replica_iff {d : DeclaredType} (hpos : d.Positive) :
    d.FitsIn d.replica ↔ d.Ordinary := by
  cases d with
  | varchar length =>
    refine iff_of_true ?_ trivial
    rw [replica]
    split
    · exact Nat.le_refl length
    · trivial
  | char length => exact iff_of_true (Nat.le_refl length) trivial
  | numeric precision scale =>
    have hprecision : 0 < precision := hpos
    rw [replica, FitsIn, ColumnType.RoomForNumbers, Ordinary]
    split <;> omega

end DeclaredType

/-! ## Columns -/

namespace SourceColumn

variable {c : SourceColumn} {d : DeclaredType}

theorem Declares.ofSource? (h : c.Declares d) :
    ColumnType.ofSource? c.sourceType c.limits = some (d.reading c.limits) := by
  have hname := h.name
  rw [ColumnType.ofSource?]
  generalize Text.asciiLower (Text.trim c.sourceType) = name at hname
  cases d with
  | varchar length =>
    obtain rfl | rfl : name = "character varying" ∨ name = "varchar" := by
      simpa [DeclaredType.names] using hname
    all_goals rfl
  | char length =>
    obtain rfl | rfl | rfl : name = "character" ∨ name = "char" ∨ name = "bpchar" := by
      simpa [DeclaredType.names] using hname
    all_goals rfl
  | numeric precision scale =>
    obtain rfl | rfl : name = "numeric" ∨ name = "decimal" := by
      simpa [DeclaredType.names] using hname
    all_goals rfl

theorem Declares.ofSource (h : c.Declares d) :
    Column.ofSource c = ⟨c.name, d.replica, c.nullable, false⟩ := by
  rw [Column.ofSource, h.ofSource?]
  obtain ⟨-, hpos, hlimits⟩ := h
  cases d with
  | varchar length =>
    have hlength : c.limits.maxLength = some (length : ℤ) := hlimits
    simp only [DeclaredType.reading, ColumnType.varcharOf, hlength, positive?_natCast hpos,
      DeclaredType.replica]
  | char length =>
    have hlength : c.limits.maxLength = some (length : ℤ) := hlimits
    simp only [DeclaredType.reading, ColumnType.charOf, hlength, positive?_natCast hpos,
      DeclaredType.replica, Option.getD_some]
  | numeric precision scale =>
    have hprecision : c.limits.precision = some (precision : ℤ) := hlimits.1
    have hscale : c.limits.scale = some scale := hlimits.2
    simp only [DeclaredType.reading, ColumnType.numericOf, hprecision, hscale,
      positive?_natCast hpos, DeclaredType.replica, Option.getD_some, Option.filter_some,
      decide_eq_true_eq]
    split <;> rfl

end SourceColumn

/-- A column that declares its limits loses nothing on its way into a replica exactly if it is not
one of numbers with a scale that is negative or greater than the precision. -/
theorem holds_replica_iff (c : SourceColumn) (d : DeclaredType) (h : c.Declares d) :
    (Column.ofSource c).fallback = false ∧
    (d.FitsIn (Column.ofSource c).type ↔ d.Ordinary) ∧
    ((∀ value, d.Holds value → (Column.ofSource c).type.Holds value) ↔ d.Ordinary) := by
  rw [h.ofSource]
  have hfits := DeclaredType.fitsIn_replica_iff h.positive
  exact ⟨rfl, hfits, (DeclaredType.holds_iff_fitsIn h.positive _).trans hfits⟩

/-- Prices with four places behind the point. -/
def price : SourceColumn :=
  ⟨"price", " Decimal", true, { precision := some 12, scale := some 4 }, 1⟩

theorem holds_replica_price :
    (Column.ofSource price).type.Holds (.number (12345678 + 9 / 10000)) := by
  have hdeclares : price.Declares (.numeric 12 4) :=
    ⟨by decide +kernel, Nat.zero_lt_succ 11, rfl, rfl⟩
  obtain ⟨-, -, hheld⟩ := holds_replica_iff price (.numeric 12 4) hdeclares
  refine hheld.2 ⟨by decide, by decide⟩ _ ⟨123456780009, by decide, ?_⟩
  norm_num

/-- Revenues in thousands: PostgreSQL accepts a negative scale. -/
def revenue : SourceColumn :=
  ⟨"revenue", "numeric", true, { precision := some 5, scale := some (-3) }, 1⟩

/-- Ninety-nine million is a revenue, but has no room in the column that the revenues become. -/
theorem revenue_not_held :
    ∃ value, revenue.Declares (.numeric 5 (-3)) ∧ (DeclaredType.numeric 5 (-3)).Holds value ∧
      ¬ (Column.ofSource revenue).type.Holds value := by
  have hdeclares : revenue.Declares (.numeric 5 (-3)) :=
    ⟨by decide +kernel, Nat.zero_lt_succ 4, rfl, rfl⟩
  refine ⟨.number 99000000, hdeclares, ⟨99000, by decide, by norm_num⟩, ?_⟩
  rw [hdeclares.ofSource]
  rintro ⟨units, hunits, heq⟩
  have hcents : (units : ℚ) = 9900000000 := by
    norm_num [DeclaredType.replica] at heq
    linarith
  have hint : units = 9900000000 := by exact_mod_cast hcents
  rw [hint] at hunits
  exact absurd hunits (by decide)

end Granary.Replica
