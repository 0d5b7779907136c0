import TreeGrammar.Binary64
import TreeGrammar.Text.Digit
set_option autoImplicit false

namespace TreeGrammar

namespace Binary64

def ofText? (text : List Char) : Option Binary64 :=
  let (negative, unsigned) := match text with
    | '-' :: rest => (true, rest)
    | '+' :: rest => (false, rest)
    | _ => (false, text)
  let word := unsigned.map Char.toLower
  if word = "inf".toList ∨ word = "infinity".toList then some (.infinity negative)
  else if word = "nan".toList then some (.nan negative)
  else
    let isMark (c : Char) : Bool := c = 'e' || c = 'E'
    let mantissa := unsigned.takeWhile (!isMark ·)
    let whole := mantissa.takeWhile (· ≠ '.')
    let fraction := (mantissa.dropWhile (· ≠ '.')).drop 1
    let digits := whole ++ fraction
    if digits.isEmpty || !digits.all Char.isDigit then none
    else
      let scaled (power : Int) : Binary64 :=
        .ofDecimal negative (Text.digitsValue digits) (power - fraction.length)
      match unsigned.dropWhile (!isMark ·) with
      | [] => some (scaled 0)
      | _ :: exponent =>
        let (minus, places) := match exponent with
          | '-' :: rest => (true, rest)
          | '+' :: rest => (false, rest)
          | _ => (false, exponent)
        if places.isEmpty || !places.all Char.isDigit then none
        else
          let power : Int := Text.digitsValue places
          some (scaled (if minus then -power else power))

end Binary64

end TreeGrammar
