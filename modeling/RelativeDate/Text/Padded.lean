/-! # Numbers of a fixed width

Fields of a date text are written with leading zeros. -/

namespace RelativeDate.Text

/-- The decimal digits of `n`, with zeros in front up to `width` characters. A longer number
    keeps all its digits. -/
def padded (width n : Nat) : String :=
  let digits := n.repr
  String.ofList (List.replicate (width - digits.length) '0') ++ digits

end RelativeDate.Text
