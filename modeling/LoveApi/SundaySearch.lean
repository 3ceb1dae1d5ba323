import LoveApi.Program.Loop

/-!
# Sunday search

The step over the text comes from a table of the code points of the pattern, in which a byte of the text is looked up.
-/

namespace LoveApi

open Program

/-- Whether `b` may follow the first byte `a` of a code point of three or four bytes. -/
def acceptsSecond (a b : Nat) : Bool :=
  (if a = 0xE0 then 0xA0 else if a = 0xF0 then 0x90 else 0x80) ≤ b ∧
    b ≤ (if a = 0xED then 0x9F else if a = 0xF4 then 0x8F else 0xBF)

/-- The first code point of a text and its width; a byte that starts none is read as U+FFFD. -/
def decodeRune (text : List UInt8) : Nat × Nat :=
  let byte k := (text[k]?.map UInt8.toNat).getD 0
  let continues k := 0x80 ≤ byte k ∧ byte k ≤ 0xBF
  let low k := byte k % 0x40
  if byte 0 < 0x80 then (byte 0, 1)
  else if 0xC2 ≤ byte 0 ∧ byte 0 ≤ 0xDF ∧ continues 1 then (byte 0 % 0x20 * 0x40 + low 1, 2)
  else if 0xE0 ≤ byte 0 ∧ byte 0 ≤ 0xEF ∧ acceptsSecond (byte 0) (byte 1) ∧ continues 2 then
    ((byte 0 % 0x10 * 0x40 + low 1) * 0x40 + low 2, 3)
  else if 0xF0 ≤ byte 0 ∧ byte 0 ≤ 0xF4 ∧ acceptsSecond (byte 0) (byte 1) ∧ continues 2 ∧ continues 3 then
    (((byte 0 % 0x08 * 0x40 + low 1) * 0x40 + low 2) * 0x40 + low 3, 4)
  else (0xFFFD, 1)

/-- The code points with their positions, from position `i` on and after `skip` bytes of the one before. -/
def runesFrom : Nat → Nat → List UInt8 → List (Nat × Nat)
  | _, _, [] => []
  | i, skip + 1, _ :: rest => runesFrom (i + 1) skip rest
  | i, 0, a :: rest => (i, (decodeRune (a :: rest)).1) :: runesFrom (i + 1) ((decodeRune (a :: rest)).2 - 1) rest

section

variable (text pattern : List UInt8)

/-- The table of offsets; a later occurrence of a code point overwrites the entry of an earlier one. -/
def sundayOffset (c : Nat) : Option Nat :=
  ((runesFrom 0 0 pattern).reverse.find? fun x => x.2 = c).map fun x => pattern.length - x.1

/-- The comparison at one alignment, `none` for an access behind the end of the text. -/
def matchesAt : List UInt8 → List UInt8 → Option Bool
  | _, [] => some true
  | [], _ :: _ => none
  | a :: text, b :: pattern => if a = b then matchesAt text pattern else some false

def sundayStep (i : Nat) : Next Nat (Option Bool) :=
  if i + pattern.length ≤ text.length then
    match matchesAt (text.drop i) pattern with
    | none => .done none
    | some true => .done (some true)
    | some false =>
      if i + pattern.length < text.length then
        match text[i + pattern.length]? with
        | none => .done none
        | some next => .again (i + (sundayOffset pattern next.toNat).getD (pattern.length + 1))
      else .done (some false)
  else .done (some false)

def sundaySearch : Option (Option Bool) := loop (sundayStep text pattern) (text.length + 1) 0

end

end LoveApi
