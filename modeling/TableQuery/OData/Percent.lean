/-! Percent-encoding: a text as unreserved ASCII characters and `%XX` escapes of its octets. -/
namespace TableQuery.OData

def unreserved (b : UInt8) : Bool :=
  let n := b.toNat
  (48 ≤ n && n ≤ 57) || (65 ≤ n && n ≤ 90) || (97 ≤ n && n ≤ 122) ||
    n == 95 || n == 46 || n == 45 || n == 126

def hexCapital (d : Nat) : Char := if d < 10 then Char.ofNat (48 + d) else Char.ofNat (55 + d)

def escapeOctet (safe : List Char) (b : UInt8) : List Char :=
  if unreserved b || safe.any (fun c => c.toNat == b.toNat) then [Char.ofNat b.toNat]
  else ['%', hexCapital (b.toNat / 16), hexCapital (b.toNat % 16)]

def escapeChar (safe : List Char) (c : Char) : List Char :=
  (String.utf8EncodeChar c).flatMap (escapeOctet safe)

def percentEncoded (safe : List Char) (s : String) : String :=
  String.ofList (s.toList.flatMap (escapeChar safe))

end TableQuery.OData
