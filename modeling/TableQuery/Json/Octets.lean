import TableQuery.Json.Reader

/-! The characters of JSON texts that come as octets, in any of the Unicode encodings.
A byte order mark or the places of zero octets tell which encoding it is. -/
namespace TableQuery.Json

inductive Encoding where
  | utf8
  | utf16 (bigEndian : Bool)
  | utf32 (bigEndian : Bool)
  deriving DecidableEq, Repr

def detect : List Nat → Encoding × List Nat
  | 0 :: 0 :: 0xFE :: 0xFF :: rest => (.utf32 true, rest)
  | 0xFF :: 0xFE :: 0 :: 0 :: rest => (.utf32 false, rest)
  | 0xFE :: 0xFF :: rest => (.utf16 true, rest)
  | 0xFF :: 0xFE :: rest => (.utf16 false, rest)
  | 0xEF :: 0xBB :: 0xBF :: rest => (.utf8, rest)
  | a :: b :: c :: d :: rest =>
    let all := a :: b :: c :: d :: rest
    if a = 0 then (if b = 0 then .utf32 true else .utf16 true, all)
    else if b = 0 then (if c = 0 ∧ d = 0 then .utf32 false else .utf16 false, all)
    else (.utf8, all)
  | [a, b] => (if a = 0 then .utf16 true else if b = 0 then .utf16 false else .utf8, [a, b])
  | all => (.utf8, all)

def isTail (b : Nat) : Bool := 0x80 ≤ b && b ≤ 0xBF

def ofUtf8? : List Nat → Option (List Char)
  | [] => some []
  | a :: rest =>
    if a < 0x80 then (ofUtf8? rest).map (Char.ofNat a :: ·)
    else match rest with
      | [] => none
      | b :: rest =>
        if 0xC2 ≤ a ∧ a ≤ 0xDF then
          if isTail b then (ofUtf8? rest).map (Char.ofNat ((a - 0xC0) * 64 + (b - 0x80)) :: ·)
          else none
        else match rest with
          | [] => none
          | c :: rest =>
            if 0xE0 ≤ a ∧ a ≤ 0xEF then
              let n := ((a - 0xE0) * 64 + (b - 0x80)) * 64 + (c - 0x80)
              if isTail b && isTail c && 0x800 ≤ n then (ofUtf8? rest).map (charOf n :: ·)
              else none
            else match rest with
              | [] => none
              | d :: rest =>
                let n := (((a - 0xF0) * 64 + (b - 0x80)) * 64 + (c - 0x80)) * 64 + (d - 0x80)
                let tails := isTail b && isTail c && isTail d
                if 0xF0 ≤ a ∧ a ≤ 0xF4 ∧ tails ∧ 0x10000 ≤ n ∧ n ≤ 0x10FFFF
                then (ofUtf8? rest).map (Char.ofNat n :: ·)
                else none

def units? (bigEndian : Bool) : List Nat → Option (List Nat)
  | [] => some []
  | [_] => none
  | a :: b :: rest =>
    let unit := if bigEndian then a * 256 + b else b * 256 + a
    (units? bigEndian rest).map (unit :: ·)

def ofUnits : List Nat → List Char
  | [] => []
  | [n] => [charOf n]
  | high :: low :: rest =>
    if isHighHalf high && isLowHalf low then charOf (joinHalves high low) :: ofUnits rest
    else charOf high :: ofUnits (low :: rest)

def ofUtf32? (bigEndian : Bool) : List Nat → Option (List Char)
  | [] => some []
  | a :: b :: c :: d :: rest =>
    let n := if bigEndian then ((a * 256 + b) * 256 + c) * 256 + d
      else ((d * 256 + c) * 256 + b) * 256 + a
    if n ≤ 0x10FFFF then (ofUtf32? bigEndian rest).map (charOf n :: ·) else none
  | _ => none

def ofOctets? (octets : List Nat) : Option (List Char) :=
  match detect octets with
  | (.utf8, rest) => ofUtf8? rest
  | (.utf16 bigEndian, rest) => (units? bigEndian rest).map ofUnits
  | (.utf32 bigEndian, rest) => ofUtf32? bigEndian rest

def readOctets? (octets : List Nat) : Option Value :=
  (ofOctets? octets).bind fun cs => (read cs).toOption

def isUtf8 (octets : List Nat) : Bool :=
  ByteArray.validateUTF8 ⟨(octets.map UInt8.ofNat).toArray⟩

def octetsOf (s : String) : List Nat := s.toUTF8.toList.map (·.toNat)

end TableQuery.Json
