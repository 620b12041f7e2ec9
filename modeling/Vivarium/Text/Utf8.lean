import Vivarium.Text.Quoted

/-! Decoding UTF-8, with the place and the reason where bytes are not well formed. -/
namespace Vivarium.Text

inductive Utf8Fault
  | invalidStart | invalidContinuation | unexpectedEnd
  deriving DecidableEq, Repr

/-- Where decoding stopped: the offset, the first byte, and how many bytes were well formed. -/
structure Utf8Error where
  offset : Nat
  byte : Nat
  length : Nat
  fault : Utf8Fault
  deriving DecidableEq, Repr

def Utf8Fault.text : Utf8Fault → String
  | .invalidStart => "invalid start byte"
  | .invalidContinuation => "invalid continuation byte"
  | .unexpectedEnd => "unexpected end of data"

def Utf8Error.message (e : Utf8Error) : String :=
  let place :=
    if e.length ≤ 1 then s!"byte 0x{hex 2 e.byte} in position {e.offset}"
    else s!"bytes in position {e.offset}-{e.offset + e.length - 1}"
  s!"'utf-8' codec can't decode {place}: {e.fault.text}"

/-- For each byte after this first byte the range it must lie in; none if it starts nothing. -/
def continuations? (first : Nat) : Option (List (Nat × Nat)) :=
  let any := (0x80, 0xBF)
  if first < 0x80 then some []
  else if first < 0xC2 then none
  else if first < 0xE0 then some [any]
  else if first = 0xE0 then some [(0xA0, 0xBF), any]
  else if first = 0xED then some [(0x80, 0x9F), any]
  else if first < 0xF0 then some [any, any]
  else if first = 0xF0 then some [(0x90, 0xBF), any, any]
  else if first < 0xF4 then some [any, any, any]
  else if first = 0xF4 then some [(0x80, 0x8F), any, any]
  else none

/-- How many of the bytes fit the ranges, and what stopped the match if one did not. -/
def matchRanges : List (Nat × Nat) → List UInt8 → Nat × Option Utf8Fault
  | [], _ => (0, none)
  | _ :: _, [] => (0, some .unexpectedEnd)
  | (lo, hi) :: ranges, b :: bytes =>
    if lo ≤ b.toNat ∧ b.toNat ≤ hi then
      let (n, fault) := matchRanges ranges bytes
      (n + 1, fault)
    else (0, some .invalidContinuation)

/-- The first sequence at or after `offset` that is not well formed; `skip` bytes belong to a
sequence already checked. -/
def firstError? (offset skip : Nat) : List UInt8 → Option Utf8Error
  | [] => none
  | b :: bytes =>
    match skip with
    | skip + 1 => firstError? (offset + 1) skip bytes
    | 0 =>
      match continuations? b.toNat with
      | none => some ⟨offset, b.toNat, 1, .invalidStart⟩
      | some ranges =>
        match matchRanges ranges bytes with
        | (n, none) => firstError? (offset + 1) n bytes
        | (n, some fault) => some ⟨offset, b.toNat, n + 1, fault⟩

def decode (bytes : ByteArray) : Except Utf8Error String :=
  match String.fromUTF8? bytes with
  | some s => .ok s
  | none => .error ((firstError? 0 0 bytes.toList).getD ⟨0, 0, 1, .invalidStart⟩)

/-- The bytes as the characters of their numbers. -/
def bytesAsChars (bytes : ByteArray) : List Char := bytes.toList.map fun b => .ofNat b.toNat

/-- What is wrong with the bytes whose numbers are the characters of a text. -/
def bytesError? (s : String) : Option Utf8Error :=
  firstError? 0 0 (s.toList.map fun c => .ofNat c.toNat)

theorem decode_toUTF8 (s : String) : decode s.toUTF8 = .ok s := by
  simp [decode, String.fromUTF8?, String.fromUTF8, String.toUTF8, String.isValidUTF8]

end Vivarium.Text
