import DependencyAudit.Text.Basic

namespace DependencyAudit.Utf8

/-- Why a byte sequence is not the encoding of a character. -/
inductive Reason where
  | invalidStart
  | invalidContinuation
  | unexpectedEnd
deriving DecidableEq

def Reason.text : Reason → Text
  | .invalidStart => "invalid start byte".toList
  | .invalidContinuation => "invalid continuation byte".toList
  | .unexpectedEnd => "unexpected end of data".toList

/-- A refused sequence: its first byte, where it starts, and how many of its bytes were still valid. -/
structure Fault where
  lead : UInt8
  start : Nat
  span : Nat
  reason : Reason
deriving DecidableEq

def Fault.message (f : Fault) : Text :=
  "'utf-8' codec can't decode ".toList ++
    (if f.span ≤ 1 then
      "byte 0x".toList ++ Text.hexPadded 2 f.lead.toNat ++ " in position ".toList ++ Text.decimal f.start
    else
      "bytes in position ".toList ++ Text.decimal f.start ++ "-".toList ++ Text.decimal (f.start + f.span - 1)) ++
    ": ".toList ++ f.reason.text

/-- A character under way: its bytes so far, the continuation bytes still due, the bounds of the next one,
and the value of the bits read. -/
structure Pending where
  lead : UInt8
  start : Nat
  span : Nat
  due : Nat
  low : Nat
  high : Nat
  value : Nat

/-- What a lead byte announces; the bounds of the second byte exclude overlong forms, surrogates and values
above the last code point. -/
def announce (start : Nat) (b : UInt8) : Option Pending :=
  let n := b.toNat
  if 0xC2 ≤ n ∧ n ≤ 0xDF then some ⟨b, start, 1, 1, 0x80, 0xBF, n - 0xC0⟩
  else if n = 0xE0 then some ⟨b, start, 1, 2, 0xA0, 0xBF, 0⟩
  else if n = 0xED then some ⟨b, start, 1, 2, 0x80, 0x9F, 0xD⟩
  else if 0xE1 ≤ n ∧ n ≤ 0xEF then some ⟨b, start, 1, 2, 0x80, 0xBF, n - 0xE0⟩
  else if n = 0xF0 then some ⟨b, start, 1, 3, 0x90, 0xBF, 0⟩
  else if 0xF1 ≤ n ∧ n ≤ 0xF3 then some ⟨b, start, 1, 3, 0x80, 0xBF, n - 0xF0⟩
  else if n = 0xF4 then some ⟨b, start, 1, 3, 0x80, 0x8F, 4⟩
  else none

/-- Reads on from a byte position with the characters so far in reverse order. -/
def decodeFrom (position : Nat) (pending : Option Pending) (done : Text) : List UInt8 → Except Fault Text
  | [] =>
    match pending with
    | none => .ok done.reverse
    | some p => .error ⟨p.lead, p.start, p.span, .unexpectedEnd⟩
  | b :: rest =>
    match pending with
    | none =>
      if b.toNat < 0x80 then decodeFrom (position + 1) none (Char.ofNat b.toNat :: done) rest
      else
        match announce position b with
        | none => .error ⟨b, position, 1, .invalidStart⟩
        | some p => decodeFrom (position + 1) (some p) done rest
    | some p =>
      if p.low ≤ b.toNat ∧ b.toNat ≤ p.high then
        let value := p.value * 64 + (b.toNat - 0x80)
        if p.due = 1 then decodeFrom (position + 1) none (Char.ofNat value :: done) rest
        else decodeFrom (position + 1) (some ⟨p.lead, p.start, p.span + 1, p.due - 1, 0x80, 0xBF, value⟩) done rest
      else .error ⟨p.lead, p.start, p.span, .invalidContinuation⟩

def decode (bytes : List UInt8) : Except Fault Text := decodeFrom 0 none [] bytes

def encode (t : Text) : List UInt8 := t.flatMap String.utf8EncodeChar

end DependencyAudit.Utf8
