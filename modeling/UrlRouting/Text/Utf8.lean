/-!
# UTF-8

`encodeUtf8` writes characters as bytes and `decodeUtf8` reads bytes as characters. Reading
never fails: each longest run of bytes that begins a character but is not continued as one
is read as the replacement character, and reading goes on after it.
-/

namespace UrlRouting.Text

/-- The bytes of a text. -/
def encodeUtf8 (cs : List Char) : List UInt8 := cs.flatMap String.utf8EncodeChar

/-- Stands for bytes that are no character. -/
def replacementChar : Char := '\ufffd'

/-- The six low bits of a byte, moved left by `places` groups of six. -/
def lowBits (b : UInt8) (places : Nat) : Nat := (b.toNat % 0x40) * Nat.pow 0x40 places

/-- A byte that continues a character. -/
def isContinuation (b : UInt8) : Bool := 0x80 ≤ b && b ≤ 0xbf

/-- The second bytes that may follow a lead byte of three: no overlong form, no surrogate. -/
def isSecondOfThree (lead b : UInt8) : Bool :=
  if lead = 0xe0 then 0xa0 ≤ b && b ≤ 0xbf
  else if lead = 0xed then 0x80 ≤ b && b ≤ 0x9f
  else isContinuation b

/-- The second bytes that may follow a lead byte of four: no overlong form, nothing above
the last code point. -/
def isSecondOfFour (lead b : UInt8) : Bool :=
  if lead = 0xf0 then 0x90 ≤ b && b ≤ 0xbf
  else if lead = 0xf4 then 0x80 ≤ b && b ≤ 0x8f
  else isContinuation b

/-- The character that begins a run of bytes, with the bytes after it. -/
def decodeFirst (lead : UInt8) (rest : List UInt8) : Char × List UInt8 :=
  if lead < 0x80 then (Char.ofNat lead.toNat, rest)
  else if 0xc2 ≤ lead && lead ≤ 0xdf then
    match rest with
    | b :: rest' =>
      if isContinuation b then
        (Char.ofNat ((lead.toNat % 0x20) * 0x40 + lowBits b 0), rest')
      else (replacementChar, rest)
    | [] => (replacementChar, [])
  else if 0xe0 ≤ lead && lead ≤ 0xef then
    match rest with
    | b :: rest' =>
      if isSecondOfThree lead b then
        match rest' with
        | c :: rest'' =>
          if isContinuation c then
            (Char.ofNat ((lead.toNat % 0x10) * 0x1000 + lowBits b 1 + lowBits c 0), rest'')
          else (replacementChar, rest')
        | [] => (replacementChar, [])
      else (replacementChar, rest)
    | [] => (replacementChar, [])
  else if 0xf0 ≤ lead && lead ≤ 0xf4 then
    match rest with
    | b :: rest' =>
      if isSecondOfFour lead b then
        match rest' with
        | c :: rest'' =>
          if isContinuation c then
            match rest'' with
            | d :: rest''' =>
              if isContinuation d then
                (Char.ofNat ((lead.toNat % 0x08) * 0x40000 + lowBits b 2 + lowBits c 1
                  + lowBits d 0), rest''')
              else (replacementChar, rest'')
            | [] => (replacementChar, [])
          else (replacementChar, rest')
        | [] => (replacementChar, [])
      else (replacementChar, rest)
    | [] => (replacementChar, [])
  else (replacementChar, rest)

theorem length_decodeFirst_le (lead : UInt8) (rest : List UInt8) :
    (decodeFirst lead rest).2.length ≤ rest.length := by
  unfold decodeFirst
  repeat' split
  all_goals simp_all
  all_goals omega

/-- The characters of a run of bytes. -/
def decodeUtf8 : List UInt8 → List Char
  | [] => []
  | lead :: rest =>
    have := length_decodeFirst_le lead rest
    (decodeFirst lead rest).1 :: decodeUtf8 (decodeFirst lead rest).2
termination_by bytes => bytes.length
decreasing_by simp only [List.length_cons]; omega

@[simp] theorem encodeUtf8_nil : encodeUtf8 [] = [] := rfl

@[simp] theorem encodeUtf8_append (s t : List Char) :
    encodeUtf8 (s ++ t) = encodeUtf8 s ++ encodeUtf8 t := by
  simp [encodeUtf8]

end UrlRouting.Text
