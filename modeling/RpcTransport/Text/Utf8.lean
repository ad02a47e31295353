/-! Strict decoding of UTF-8. A fault names the byte at which the first bad sequence starts. -/
namespace RpcTransport.Text.Utf8

structure Fault where
  /-- The bytes before it are valid. -/
  index : Nat
  /-- The length of the bad sequence, absent if more bytes could have mended it. -/
  length : Option Nat
  deriving DecidableEq, Repr

def Fault.message (fault : Fault) : String :=
  match fault.length with
  | some length => s!"invalid utf-8 sequence of {length} bytes from index {fault.index}"
  | none => s!"incomplete utf-8 byte sequence from index {fault.index}"

def isTail (b : UInt8) : Bool :=
  0x80 ≤ b && b ≤ 0xBF

/-- The second bytes that may follow the first byte of a longer form. -/
def second (first b : UInt8) : Bool :=
  if first = 0xE0 then 0xA0 ≤ b && b ≤ 0xBF
  else if first = 0xED then 0x80 ≤ b && b ≤ 0x9F
  else if first = 0xF0 then 0x90 ≤ b && b ≤ 0xBF
  else if first = 0xF4 then 0x80 ≤ b && b ≤ 0x8F
  else isTail b

/-- The number of bytes of a form, told by its first byte. -/
def width? (first : UInt8) : Option Nat :=
  if first < 0x80 then some 1
  else if 0xC2 ≤ first && first ≤ 0xDF then some 2
  else if 0xE0 ≤ first && first ≤ 0xEF then some 3
  else if 0xF0 ≤ first && first ≤ 0xF4 then some 4
  else none

/-- The low six bits of a continuation byte, put behind the bits read so far. -/
def join (bits : Nat) (b : UInt8) : Nat :=
  bits * 64 + b.toNat % 64

/-- Decodes bytes that start at `index` of the whole. -/
def decodeFrom (index : Nat) : List UInt8 → Except Fault (List Char)
  | [] => .ok []
  | a :: rest =>
    match width? a, rest with
    | some 1, rest => return .ofNat a.toNat :: (← decodeFrom (index + 1) rest)
    | some 2, b :: rest =>
      if second a b then
        return .ofNat (join (a.toNat % 32) b) :: (← decodeFrom (index + 2) rest)
      else .error ⟨index, some 1⟩
    | some 3, b :: rest =>
      if second a b then
        match rest with
        | c :: rest =>
          if isTail c then
            return .ofNat (join (join (a.toNat % 16) b) c) :: (← decodeFrom (index + 3) rest)
          else .error ⟨index, some 2⟩
        | [] => .error ⟨index, none⟩
      else .error ⟨index, some 1⟩
    | some 4, b :: rest =>
      if second a b then
        match rest with
        | c :: rest =>
          if isTail c then
            match rest with
            | d :: rest =>
              if isTail d then
                return .ofNat (join (join (join (a.toNat % 8) b) c) d) ::
                  (← decodeFrom (index + 4) rest)
              else .error ⟨index, some 3⟩
            | [] => .error ⟨index, none⟩
          else .error ⟨index, some 2⟩
        | [] => .error ⟨index, none⟩
      else .error ⟨index, some 1⟩
    | some _, _ => .error ⟨index, none⟩
    | none, _ => .error ⟨index, some 1⟩

def decode (bytes : List UInt8) : Except Fault String :=
  (decodeFrom 0 bytes).map .ofList

end RpcTransport.Text.Utf8
