/-! Reading UTF-8 octets where some may be wrong.
Octets that begin no character, and octets of a character that is broken off, are read as the
replacement character, one for each longest beginning of a character. -/
namespace TableQuery.Text

structure Unfinished where
  missing : Nat
  low : Nat
  high : Nat
  bits : Nat
  deriving DecidableEq, Repr

inductive Progress where
  | whole (c : Char)
  | begun (u : Unfinished)
  | wrong
  deriving DecidableEq, Repr

def Progress.first (o : Nat) : Progress :=
  if o < 0x80 then whole (Char.ofNat o)
  else if o < 0xC2 then wrong
  else if o ≤ 0xDF then begun ⟨1, 0x80, 0xBF, o - 0xC0⟩
  else if o = 0xE0 then begun ⟨2, 0xA0, 0xBF, 0⟩
  else if o = 0xED then begun ⟨2, 0x80, 0x9F, 0xD⟩
  else if o ≤ 0xEF then begun ⟨2, 0x80, 0xBF, o - 0xE0⟩
  else if o = 0xF0 then begun ⟨3, 0x90, 0xBF, 0⟩
  else if o ≤ 0xF3 then begun ⟨3, 0x80, 0xBF, o - 0xF0⟩
  else if o = 0xF4 then begun ⟨3, 0x80, 0x8F, 4⟩
  else wrong

def Unfinished.extend? (u : Unfinished) (o : Nat) : Option Progress :=
  if u.low ≤ o ∧ o ≤ u.high then
    let bits := u.bits * 64 + (o - 0x80)
    if u.missing ≤ 1 then some (.whole (Char.ofNat bits))
    else some (.begun ⟨u.missing - 1, 0x80, 0xBF, bits⟩)
  else none

def charsFrom : Option Unfinished → List Nat → List Char
  | none, [] => []
  | some _, [] => ['\uFFFD']
  | pending, o :: rest =>
    let (broken, progress) := match pending with
      | none => ([], Progress.first o)
      | some u =>
        match u.extend? o with
        | some progress => ([], progress)
        | none => (['\uFFFD'], Progress.first o)
    broken ++ match progress with
      | .whole c => c :: charsFrom none rest
      | .begun u => charsFrom (some u) rest
      | .wrong => '\uFFFD' :: charsFrom none rest

def charsOf (octets : List Nat) : List Char := charsFrom none octets

end TableQuery.Text
