/-! Hexadecimal digits, and bytes written in pairs of them. -/
namespace DatePattern

def hexValue? (c : Char) : Option Nat :=
  if '0' ≤ c ∧ c ≤ '9' then some (c.toNat - 48)
  else if 'a' ≤ c ∧ c ≤ 'f' then some (c.toNat - 87)
  else if 'A' ≤ c ∧ c ≤ 'F' then some (c.toNat - 55)
  else none

def isAsciiBlank (c : Char) : Bool := c == ' ' || decide (0x9 ≤ c.toNat ∧ c.toNat ≤ 0xd)

/-- The bytes of pairs of digits from a place on, with white space between the pairs; or the place
of the first character that does not fit. -/
def readPairs (place : Nat) : List Char → Except Nat (List UInt8)
  | [] => .ok []
  | [c] =>
    if isAsciiBlank c then .ok []
    else .error (if (hexValue? c).isSome then place + 1 else place)
  | c :: d :: rest =>
    if isAsciiBlank c then readPairs (place + 1) (d :: rest)
    else
      match hexValue? c, hexValue? d with
      | some high, some low =>
        (readPairs (place + 2) rest).map (UInt8.ofNat (high * 16 + low) :: ·)
      | none, _ => .error place
      | some _, none => .error (place + 1)

/-- The bytes that a text of ASCII writes in pairs of digits, or the place of the first character
that does not fit. A character beyond ASCII is looked for first. -/
def readBytes (cs : List Char) : Except Nat (List UInt8) :=
  match cs.findIdx? fun c => decide (0x80 ≤ c.toNat) with
  | some place => .error place
  | none => readPairs 0 cs

end DatePattern
