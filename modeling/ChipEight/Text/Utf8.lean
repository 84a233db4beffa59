namespace ChipEight

/-! Text in UTF-8 that may be damaged. Bytes that begin a character but do not
complete it are replaced together, as far as they could have belonged to one. -/

namespace Utf8

/-- What a first byte promises: its payload, how many bytes follow, and the
bounds of the next one, which exclude overlong forms and surrogates. -/
structure Lead where
  payload : Nat
  following : Nat
  least : UInt8 := 0x80
  greatest : UInt8 := 0xBF

def lead? (byte : UInt8) : Option Lead :=
  if byte < 0x80 then some { payload := byte.toNat, following := 0 }
  else if byte < 0xC2 then none
  else if byte < 0xE0 then some { payload := byte.toNat % 0x20, following := 1 }
  else if byte = 0xE0 then some { payload := 0x0, following := 2, least := 0xA0 }
  else if byte = 0xED then some { payload := 0xD, following := 2, greatest := 0x9F }
  else if byte < 0xF0 then some { payload := byte.toNat % 0x10, following := 2 }
  else if byte = 0xF0 then some { payload := 0, following := 3, least := 0x90 }
  else if byte < 0xF4 then some { payload := byte.toNat % 0x8, following := 3 }
  else if byte = 0xF4 then some { payload := 4, following := 3, greatest := 0x8F }
  else none

def replacement : Char :=
  '\uFFFD'

def follow (payload : Nat) (least greatest : UInt8) : Nat → List UInt8 → Char × Nat
  | 0, _ => (Char.ofNat payload, 0)
  | _ + 1, [] => (replacement, 0)
  | following + 1, byte :: rest =>
      if least ≤ byte && byte ≤ greatest then
        let (char, taken) :=
          follow (payload * 0x40 + byte.toNat % 0x40) 0x80 0xBF following rest
        (char, taken + 1)
      else
        (replacement, 0)

def chars : List UInt8 → List Char
  | [] => []
  | byte :: rest =>
      match lead? byte with
      | none => replacement :: chars rest
      | some lead =>
          let (char, taken) :=
            follow lead.payload lead.least lead.greatest lead.following rest
          char :: chars (rest.drop taken)
termination_by bytes => bytes.length
decreasing_by
  all_goals simp only [List.length_cons, List.length_drop]; omega

def decode (bytes : List UInt8) : String :=
  String.ofList (chars bytes)

end Utf8

end ChipEight
