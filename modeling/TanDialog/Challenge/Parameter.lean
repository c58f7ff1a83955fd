import TanDialog.Text.Numeral

/-!
# Challenge parameters

A challenge parameter is a value of the order that the TAN generator shows. It is taken as it is,
or as an amount (`formatAmount?`: a decimal comma and no zeros at the end), or as a date
(`formatDate?`: without hyphens).
-/

namespace TanDialog.Challenge

/-- How a challenge parameter is written. -/
inductive ParameterType
  | plain
  | amount
  | date
deriving DecidableEq, Repr

/-- The name of a type in a table of parameters; plain ones have none. -/
def ParameterType.label : ParameterType → String
  | plain => ""
  | amount => "Wrt"
  | date => "Date"

/-! ### Amounts -/

/-- Drops the zeros at the end. -/
def trimZeros (digits : List Char) : List Char :=
  (digits.reverse.dropWhile (· == '0')).reverse

/-- Writes an amount, which has to be a nonempty run of digits and possibly a point and further
digits. -/
def formatAmount? (value : List Char) : Option (List Char) :=
  let whole := value.takeWhile (· ≠ '.')
  let fraction := (value.dropWhile (· ≠ '.')).drop 1
  if !whole.isEmpty && whole.all Char.isDigit && fraction.all Char.isDigit then
    some (whole ++ ',' :: trimZeros fraction)
  else none

/-! ### Dates -/

/-- Writes a date: three numerals of four, two and two characters with hyphens between them, the
second one a month and the third one a day of a month. -/
def formatDate? (value : List Char) : Option (List Char) :=
  match value.splitOn '-' with
  | [year, month, day] =>
    let inRange (low high : Nat) (cs : List Char) : Bool :=
      (Numeral.decimal? Numeral.bound16 cs).any fun n => low ≤ n && n ≤ high
    if year.length = 4 ∧ month.length = 2 ∧ day.length = 2 ∧ inRange 0 9999 year ∧
        inRange 1 12 month ∧ inRange 1 31 day then
      some (year ++ month ++ day)
    else none
  | _ => none

/-! ### Values -/

/-- Writes a value; none where it does not fit the type. -/
def ParameterType.format? (type : ParameterType) (value : String) : Option String :=
  match type with
  | plain => some value
  | amount => (formatAmount? value.toList).map String.ofList
  | date => (formatDate? value.toList).map String.ofList

theorem map_ofList_eq_some_iff {cs? : Option (List Char)} {text : String} :
    cs?.map String.ofList = some text ↔ cs? = some text.toList := by
  rw [Option.map_eq_some_iff]
  constructor
  · rintro ⟨cs, rfl, rfl⟩
    rw [String.toList_ofList]
  · rintro rfl
    exact ⟨_, rfl, String.ofList_toList⟩

theorem ParameterType.format?_amount_eq_some_iff {value text : String} :
    ParameterType.amount.format? value = some text ↔
      formatAmount? value.toList = some text.toList :=
  map_ofList_eq_some_iff

theorem ParameterType.format?_date_eq_some_iff {value text : String} :
    ParameterType.date.format? value = some text ↔ formatDate? value.toList = some text.toList :=
  map_ofList_eq_some_iff

end TanDialog.Challenge
