/-! Base64: three bytes become four digits, and a short last group is filled up with equals signs. -/

namespace AliasSync.Text

def base64Alphabet : List Char :=
  "ABCDEFGHIJKLMNOPQRSTUVWXYZabcdefghijklmnopqrstuvwxyz0123456789+/".toList

def base64Digit (value : Nat) : Char := base64Alphabet.getD value '='

/-- The first `count` digits of a group of twenty-four bits. -/
def base64Digits (count bits : Nat) : List Char :=
  ([bits / 262144, bits / 4096 % 64, bits / 64 % 64, bits % 64].map base64Digit).take count

def base64 : List UInt8 → List Char
  | [] => []
  | [a] => base64Digits 2 (a.toNat * 65536) ++ ['=', '=']
  | [a, b] => base64Digits 3 (a.toNat * 65536 + b.toNat * 256) ++ ['=']
  | a :: b :: c :: rest =>
    base64Digits 4 (a.toNat * 65536 + b.toNat * 256 + c.toNat) ++ base64 rest

end AliasSync.Text
