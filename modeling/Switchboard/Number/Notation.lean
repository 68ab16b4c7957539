import Switchboard.Number.Shortest

namespace Switchboard.Number

def digitsOf (n : Nat) : List Char := Nat.toDigits 10 n

def zeros (n : Nat) : List Char := List.replicate n '0'

def pad (width n : Nat) : List Char :=
  let ds := digitsOf n
  zeros (width - ds.length) ++ ds

def intText (n : Int) : String :=
  String.ofList (if n < 0 then '-' :: digitsOf n.natAbs else digitsOf n.natAbs)

theorem intText_natCast (n : Nat) : intText n = String.ofList (Nat.toDigits 10 n) := by
  have hn : ¬ (n : Int) < 0 := by omega
  simp [intText, digitsOf, hn]

theorem intText_inj {m n : Nat} (h : intText m = intText n) : m = n := by
  rw [intText_natCast, intText_natCast] at h
  rw [← @Nat.ofDigitChars_ten_toDigits m, String.ofList_injective h, Nat.ofDigitChars_ten_toDigits]

def Decimal.strip : Nat → Decimal → Decimal
  | 0, d => d
  | fuel + 1, d =>
      if d.digits ≠ 0 ∧ d.digits % 10 = 0 then strip fuel ⟨d.digits / 10, d.exponent + 1⟩ else d

/-- Positional from `10 ^ -4` up to below `10 ^ 16`, with at least one digit behind the point;
beyond, one digit before the point and a signed exponent of at least two digits. -/
def Decimal.layout (d : Decimal) : List Char :=
  let d := d.strip (digitsOf d.digits).length
  let ds := digitsOf d.digits
  let lead := d.exponent + ds.length - 1
  if -4 ≤ lead ∧ lead < 16 then
    if lead < 0 then '0' :: '.' :: (zeros (-lead - 1).toNat ++ ds)
    else if d.exponent ≥ 0 then ds ++ zeros d.exponent.toNat ++ ['.', '0']
    else ds.take (lead.toNat + 1) ++ '.' :: ds.drop (lead.toNat + 1)
  else
    let head := match ds with
      | [] => []
      | [c] => [c]
      | c :: rest => c :: '.' :: rest
    head ++ 'e' :: (if lead < 0 then '-' else '+') :: pad 2 lead.natAbs

def realText (x : Float) : String :=
  match Binary.ofFloat? x with
  | some b =>
      let body := if b.mantissa = 0 then ['0', '.', '0'] else b.shortest.layout
      String.ofList (if b.negative then '-' :: body else body)
  | none => if x > 0.0 then "inf" else if x < 0.0 then "-inf" else "nan"

end Switchboard.Number
