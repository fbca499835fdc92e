import Polyview.Json.Fault

/-!
# Texts in JSON

Reading what stands between double quotes: plain characters, short escapes, and code units in four
hexadecimal digits, of which two make one character beyond the basic plane.
-/

namespace Polyview.Json

def hexValue? (c : Char) : Option Nat :=
  if '0' ≤ c ∧ c ≤ '9' then some (c.toNat - 48)
  else if 'a' ≤ c ∧ c ≤ 'f' then some (c.toNat - 87)
  else if 'A' ≤ c ∧ c ≤ 'F' then some (c.toNat - 55)
  else none

def codeUnit? (first second third fourth : Char) : Option Nat := do
  let a ← hexValue? first
  let b ← hexValue? second
  let c ← hexValue? third
  let d ← hexValue? fourth
  return ((a * 16 + b) * 16 + c) * 16 + d

def isHighSurrogate (unit : Nat) : Bool := 0xD800 ≤ unit && unit ≤ 0xDBFF

def isLowSurrogate (unit : Nat) : Bool := 0xDC00 ≤ unit && unit ≤ 0xDFFF

def pairedChar (high low : Nat) : Char :=
  Char.ofNat ((high - 0xD800) * 0x400 + (low - 0xDC00) + 0x10000)

/-- The fault of a code unit that does not have four hexadecimal digits. Four bytes are looked at
before any of them is judged. -/
def codeUnitFault (position : Position) (rest : List Char) : Fault :=
  if (String.ofList (rest.take 4)).utf8ByteSize < 4 then
    ⟨.endInText, position.afterAll rest⟩
  else
    ⟨.invalidEscape, position.afterBytes 4 rest⟩

def shortEscape? (c : Char) : Option Char :=
  if c = '"' then some '"'
  else if c = '\\' then some '\\'
  else if c = '/' then some '/'
  else if c = 'b' then some '\x08'
  else if c = 'f' then some '\x0c'
  else if c = 'n' then some '\n'
  else if c = 'r' then some '\r'
  else if c = 't' then some '\t'
  else none

/-- The text whose opening quote has been read. What is known of it is given backwards. -/
def readTextFrom (known : List Char) (position : Position) :
    List Char → Except Fault (String × Cursor)
  | [] => .error ⟨.endInText, position⟩
  | c :: rest =>
      if c = '"' then
        .ok (String.ofList known.reverse, ⟨rest, position.forward 1⟩)
      else if c = '\\' then
        match rest with
        | [] => .error ⟨.endInText, position.forward 1⟩
        | mark :: rest =>
            if mark = 'u' then
              match rest with
              | h₁ :: h₂ :: h₃ :: h₄ :: rest =>
                  match codeUnit? h₁ h₂ h₃ h₄ with
                  | none =>
                      .error (codeUnitFault (position.forward 2) (h₁ :: h₂ :: h₃ :: h₄ :: rest))
                  | some unit =>
                      if isLowSurrogate unit then
                        .error ⟨.loneSurrogate, position.forward 6⟩
                      else if isHighSurrogate unit then
                        match rest with
                        | [] => .error ⟨.endInText, position.forward 6⟩
                        | slash :: rest =>
                            if slash = '\\' then
                              match rest with
                              | [] => .error ⟨.endInText, position.forward 7⟩
                              | mark :: rest =>
                                  if mark = 'u' then
                                    match rest with
                                    | l₁ :: l₂ :: l₃ :: l₄ :: rest =>
                                        match codeUnit? l₁ l₂ l₃ l₄ with
                                        | none =>
                                            .error (codeUnitFault (position.forward 8)
                                              (l₁ :: l₂ :: l₃ :: l₄ :: rest))
                                        | some low =>
                                            if isLowSurrogate low then
                                              readTextFrom (pairedChar unit low :: known)
                                                (position.forward 12) rest
                                            else
                                              .error ⟨.loneSurrogate, position.forward 12⟩
                                    | short => .error (codeUnitFault (position.forward 8) short)
                                  else
                                    .error ⟨.endOfHexEscape,
                                      (position.forward 7).afterBytes 1 (mark :: rest)⟩
                            else
                              .error ⟨.endOfHexEscape,
                                (position.forward 6).afterBytes 1 (slash :: rest)⟩
                      else
                        readTextFrom (Char.ofNat unit :: known) (position.forward 6) rest
              | short => .error (codeUnitFault (position.forward 2) short)
            else
              match shortEscape? mark with
              | some plain => readTextFrom (plain :: known) (position.forward 2) rest
              | none => .error ⟨.invalidEscape, (position.forward 1).afterBytes 1 (mark :: rest)⟩
      else if c.toNat < 0x20 then
        .error ⟨.controlCharacter, position.after c⟩
      else
        readTextFrom (c :: known) (position.after c) rest

def readText (cursor : Cursor) : Except Fault (String × Cursor) :=
  readTextFrom [] cursor.position cursor.rest

/-- What follows a text that nobody needs, whose opening quote has been read. Its code units are not
put together. -/
def skipTextFrom (position : Position) : List Char → Except Fault Cursor
  | [] => .error ⟨.endInText, position⟩
  | c :: rest =>
      if c = '"' then
        .ok ⟨rest, position.forward 1⟩
      else if c = '\\' then
        match rest with
        | [] => .error ⟨.endInText, position.forward 1⟩
        | mark :: rest =>
            if mark = 'u' then
              match rest with
              | h₁ :: h₂ :: h₃ :: h₄ :: rest =>
                  match codeUnit? h₁ h₂ h₃ h₄ with
                  | none =>
                      .error (codeUnitFault (position.forward 2) (h₁ :: h₂ :: h₃ :: h₄ :: rest))
                  | some _ => skipTextFrom (position.forward 6) rest
              | short => .error (codeUnitFault (position.forward 2) short)
            else
              match shortEscape? mark with
              | some _ => skipTextFrom (position.forward 2) rest
              | none => .error ⟨.invalidEscape, (position.forward 1).afterBytes 1 (mark :: rest)⟩
      else if c.toNat < 0x20 then
        .error ⟨.controlCharacter, position⟩
      else
        skipTextFrom (position.after c) rest

/-- What follows a text that nobody needs, whose opening quote has been read. -/
def skipText (cursor : Cursor) : Except Fault Cursor := skipTextFrom cursor.position cursor.rest

end Polyview.Json
