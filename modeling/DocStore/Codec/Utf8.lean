import DocStore.Codec.Bytes
/-!
Reading bytes as UTF-8 where some of them may be no text.

A run of bytes that begins like a character and does not go on like one is
marked once, up to the byte where it goes wrong.
-/

namespace DocStore.Utf8

/-- Whether a byte can go on with a character. -/
def isContinuation (byte : UInt8) : Bool := 0x80 ≤ byte && byte ≤ 0xBF

/-- Whether the second byte of a character fits the first one: the character is not written longer
than need be, is no surrogate and is below U+110000. -/
def isSecond (first second : UInt8) : Bool :=
  if first = 0xE0 then 0xA0 ≤ second && second ≤ 0xBF
  else if first = 0xED then 0x80 ≤ second && second ≤ 0x9F
  else if first = 0xF0 then 0x90 ≤ second && second ≤ 0xBF
  else if first = 0xF4 then 0x80 ≤ second && second ≤ 0x8F
  else isContinuation second

def low (byte : UInt8) : Nat := byte.toNat % 64

/-- The characters of bytes, with `mark` in the place of every run that is no character. -/
def decodeMarking (mark : List Char) : Bytes → List Char
  | [] => []
  | first :: rest =>
      if first < 0x80 then Char.ofNat first.toNat :: decodeMarking mark rest
      else if first < 0xC2 || 0xF4 < first then mark ++ decodeMarking mark rest
      else
        match rest with
        | [] => mark
        | second :: rest₂ =>
            if !isSecond first second then mark ++ decodeMarking mark (second :: rest₂)
            else if first < 0xE0 then
              Char.ofNat (first.toNat % 32 * 64 + low second) :: decodeMarking mark rest₂
            else
              match rest₂ with
              | [] => mark
              | third :: rest₃ =>
                  if !isContinuation third then mark ++ decodeMarking mark (third :: rest₃)
                  else if first < 0xF0 then
                    Char.ofNat (first.toNat % 16 * 4096 + low second * 64 + low third) ::
                      decodeMarking mark rest₃
                  else
                    match rest₃ with
                    | [] => mark
                    | fourth :: rest₄ =>
                        if !isContinuation fourth then mark ++ decodeMarking mark (fourth :: rest₄)
                        else
                          Char.ofNat (first.toNat % 8 * 262144 + low second * 4096 +
                            low third * 64 + low fourth) :: decodeMarking mark rest₄

/-- The text of bytes; what is no character is replaced. -/
def decodeReplacing (bytes : Bytes) : String :=
  String.ofList (decodeMarking ['\uFFFD'] bytes)

end DocStore.Utf8
