/-
UTF-8 on byte lists. `encode` writes the bytes of a text, `decode` reads them back or says where
the first byte stands that belongs to no character, and how many bytes are lost there.
-/

namespace ServiceBroker.Utf8

/-- Where a byte sequence stops being text: everything before `offset` is valid, and the `length`
bytes that follow begin no character. Without a length the sequence ends inside a character. -/
structure Fault where
  offset : Nat
  length : Option Nat
deriving DecidableEq, Repr

/-- The wording of a fault. -/
def Fault.message (f : Fault) : String :=
  match f.length with
  | some n => s!"invalid utf-8 sequence of {n} bytes from index {f.offset}"
  | none => s!"incomplete utf-8 byte sequence from index {f.offset}"

/-! ## Writing -/

/-- The bytes of a text. -/
def encode (text : String) : List UInt8 :=
  text.toList.flatMap String.utf8EncodeChar

/-! ## Reading -/

/-- The values that may follow a first byte above the ASCII range: overlong forms, surrogates and
values past the last character are cut off here. -/
def secondByte? (first : UInt8) : Option (UInt8 × UInt8) :=
  if first < 0xC2 then none
  else if first < 0xE0 then some (0x80, 0xBF)
  else if first = 0xE0 then some (0xA0, 0xBF)
  else if first = 0xED then some (0x80, 0x9F)
  else if first < 0xF0 then some (0x80, 0xBF)
  else if first = 0xF0 then some (0x90, 0xBF)
  else if first < 0xF4 then some (0x80, 0xBF)
  else if first = 0xF4 then some (0x80, 0x8F)
  else none

/-- A byte that continues a character. -/
def isContinuation (b : UInt8) : Bool :=
  0x80 ≤ b && b ≤ 0xBF

/-- The low six bits of a continuation byte. -/
def payload (b : UInt8) : Nat :=
  b.toNat % 64

/-- Puts a character in front of what the rest of the bytes give. -/
def keep (code : Nat) (rest : Except Fault (List Char)) : Except Fault (List Char) :=
  rest.map (Char.ofNat code :: ·)

/-- Reads the characters of a byte list whose first byte stands at `pos`. -/
def decodeFrom (pos : Nat) : List UInt8 → Except Fault (List Char)
  | [] => .ok []
  | b₀ :: rest =>
    if b₀ < 0x80 then keep b₀.toNat (decodeFrom (pos + 1) rest)
    else match secondByte? b₀ with
    | none => .error ⟨pos, some 1⟩
    | some (low, high) =>
      match rest with
      | [] => .error ⟨pos, none⟩
      | b₁ :: rest =>
        if b₁ < low || high < b₁ then .error ⟨pos, some 1⟩
        else if b₀ < 0xE0 then keep (b₀.toNat % 32 * 64 + payload b₁) (decodeFrom (pos + 2) rest)
        else match rest with
        | [] => .error ⟨pos, none⟩
        | b₂ :: rest =>
          if !isContinuation b₂ then .error ⟨pos, some 2⟩
          else if b₀ < 0xF0 then
            keep ((b₀.toNat % 16 * 64 + payload b₁) * 64 + payload b₂) (decodeFrom (pos + 3) rest)
          else match rest with
          | [] => .error ⟨pos, none⟩
          | b₃ :: rest =>
            if !isContinuation b₃ then .error ⟨pos, some 3⟩
            else keep (((b₀.toNat % 8 * 64 + payload b₁) * 64 + payload b₂) * 64 + payload b₃)
              (decodeFrom (pos + 4) rest)

/-- The text that a byte list spells. -/
def decode (bytes : List UInt8) : Except Fault String :=
  (decodeFrom 0 bytes).map String.ofList

end ServiceBroker.Utf8
