namespace ChipEight

/-! The character set of old archives: ASCII below 128, and above it the letters,
frames and symbols of code page 437. -/

def CodePage.upperHalf : List Char :=
  ("ÇüéâäàåçêëèïîìÄÅ" ++ "ÉæÆôöòûùÿÖÜ¢£¥₧ƒ" ++ "áíóúñÑªº¿⌐¬½¼¡«»" ++
    "░▒▓│┤╡╢╖╕╣║╗╝╜╛┐" ++ "└┴┬├─┼╞╟╚╔╩╦╠═╬╧" ++ "╨╤╥╙╘╒╓╫╪┘┌█▄▌▐▀" ++
    "αßΓπΣσµτΦΘΩδ∞φε∩" ++ "≡±≥≤⌠⌡÷≈°∙·√ⁿ²■\u00a0").toList

def CodePage.char (byte : UInt8) : Char :=
  if byte < 0x80 then
    Char.ofNat byte.toNat
  else
    upperHalf.getD (byte.toNat - 0x80) '?'

def CodePage.decode (bytes : List UInt8) : String :=
  String.ofList (bytes.map char)

end ChipEight
