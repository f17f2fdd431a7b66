/-! # Reading UTF-8

`decodeUtf8?` is strict: overlong forms, surrogates, code points past the last
and cut sequences are all refused.
-/

namespace BezelStream.Text

def continuation? (b : UInt8) : Option Nat :=
  if b.toNat / 64 = 2 then some (b.toNat % 64) else none

/-- The character of a code point, refused when it lies below `least` or is no
    character. -/
def character? (least n : Nat) : Option Char :=
  if least ≤ n && Nat.isValidChar n then some (Char.ofNat n) else none

/-- The characters of a UTF-8 text, `none` if the bytes are not one. -/
def decodeUtf8? : List UInt8 → Option (List Char)
  | [] => some []
  | a :: rest =>
    if a.toNat < 0x80 then (decodeUtf8? rest).map (Char.ofNat a.toNat :: ·)
    else match a.toNat, rest with
      | a, b :: rest₁ =>
        if a < 0xC0 then none
        else if a < 0xE0 then do
          let c ← character? 0x80 (a % 32 * 64 + (← continuation? b))
          return c :: (← decodeUtf8? rest₁)
        else match rest₁ with
          | c₂ :: rest₂ =>
            if a < 0xF0 then do
              let c ← character? 0x800
                ((a % 16 * 64 + (← continuation? b)) * 64 + (← continuation? c₂))
              return c :: (← decodeUtf8? rest₂)
            else match rest₂ with
              | c₃ :: rest₃ =>
                if a < 0xF8 then do
                  let c ← character? 0x10000
                    (((a % 8 * 64 + (← continuation? b)) * 64 + (← continuation? c₂)) * 64 +
                      (← continuation? c₃))
                  return c :: (← decodeUtf8? rest₃)
                else none
              | [] => none
          | [] => none
      | _, [] => none

def encodeUtf8 (cs : List Char) : List UInt8 :=
  cs.flatMap fun c =>
    let n := c.toNat
    (if n < 0x80 then [n]
    else if n < 0x800 then [0xC0 + n / 64, 0x80 + n % 64]
    else if n < 0x10000 then [0xE0 + n / 4096, 0x80 + n / 64 % 64, 0x80 + n % 64]
    else [0xF0 + n / 262144, 0x80 + n / 4096 % 64, 0x80 + n / 64 % 64, 0x80 + n % 64]).map
      UInt8.ofNat

end BezelStream.Text
