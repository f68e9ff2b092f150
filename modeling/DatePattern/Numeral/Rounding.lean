/-! Rounding a quotient to the nearest integer. -/
namespace DatePattern

/-- The quotient of two naturals rounded to the nearest integer, a half to the even one. -/
def roundHalfEven (num den : Nat) : Nat :=
  let q := num / den
  let r := num % den
  if 2 * r < den then q
  else if den < 2 * r then q + 1
  else if q % 2 = 0 then q else q + 1

end DatePattern
