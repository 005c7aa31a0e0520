import Muster.Net.EndpointText

/-!
# Hexadecimal text

Bytes and words as lower-case digits in base sixteen, the high digits first.  Digits of either case
are read.
-/

namespace Muster.Text.Hex

/-- A number with zeros in front, up to the given number of digits. -/
def padded (width value : Nat) : List Char :=
  let digits := Nat.toDigits 16 value
  List.replicate (width - digits.length) '0' ++ digits

def ofBytes (bytes : List UInt8) : String :=
  String.ofList (bytes.flatMap fun byte => padded 2 byte.toNat)

/-- The bytes that pairs of digits write. -/
def bytesOf? : List Char → Option (List UInt8)
  | [] => some []
  | [_] => none
  | high :: low :: rest => do
    let high ← Ip.hexDigit? high
    let low ← Ip.hexDigit? low
    let bytes ← bytesOf? rest
    return (16 * high + low).toUInt8 :: bytes

def ofWord (word : UInt64) : String :=
  String.ofList (padded 16 word.toNat)

def wordOf? (digits : List Char) : Option UInt64 :=
  if digits.isEmpty || digits.any fun digit => (Ip.hexDigit? digit).isNone then none
  else some (Ip.valueFrom 16 0 digits).toUInt64

end Muster.Text.Hex
