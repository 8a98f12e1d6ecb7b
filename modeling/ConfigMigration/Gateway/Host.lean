import ConfigMigration.Text.Digit

/-!
# Hosts

The host of a web address has one form: percent signs are resolved, characters in other shapes than those of ASCII
are given the plain shape, and numbers of several kinds become four decimal numbers with points between them.
-/

namespace ConfigMigration.Host

/-! ### Characters -/

/-- The ranges of code points, both ends included and in ascending order, that do not count in a host. -/
def ignoredRanges : List (Nat × Nat) :=
  [(0xAD, 0xAD), (0x34F, 0x34F), (0x115F, 0x1160), (0x17B4, 0x17B5), (0x180B, 0x180F), (0x200B, 0x200B),
   (0x2060, 0x2064), (0x206A, 0x206F), (0x3164, 0x3164), (0xFE00, 0xFE0F), (0xFEFF, 0xFEFF),
   (0xFFA0, 0xFFA0), (0x1BCA0, 0x1BCA3), (0x1D173, 0x1D17A), (0xE0100, 0xE01EF)]

/-- The ranges of code points, both ends included and in ascending order, of characters that stand for points and for
the digits and letters of numbers, each with the text of its first character.  The later ones of a range stand for the
characters that follow. -/
def foldedRanges : List (Nat × Nat × String) :=
  [(0xAA, 0xAA, "a"), (0xB2, 0xB3, "2"), (0xB9, 0xB9, "1"), (0x2E3, 0x2E3, "x"), (0x1D2C, 0x1D2C, "a"),
   (0x1D2E, 0x1D2E, "b"), (0x1D30, 0x1D31, "d"), (0x1D43, 0x1D43, "a"), (0x1D47, 0x1D47, "b"),
   (0x1D48, 0x1D49, "d"), (0x1D9C, 0x1D9C, "c"), (0x1DA0, 0x1DA0, "f"), (0x2070, 0x2070, "0"),
   (0x2074, 0x2079, "4"), (0x2080, 0x2089, "0"), (0x2090, 0x2090, "a"), (0x2091, 0x2091, "e"),
   (0x2093, 0x2093, "x"), (0x2102, 0x2102, "c"), (0x212C, 0x212D, "b"), (0x212F, 0x212F, "e"),
   (0x2130, 0x2131, "e"), (0x213B, 0x213B, "fax"), (0x2145, 0x2145, "d"), (0x2146, 0x2147, "d"),
   (0x2169, 0x2169, "x"), (0x216D, 0x216E, "c"), (0x2179, 0x2179, "x"), (0x217D, 0x217E, "c"),
   (0x2460, 0x2468, "1"), (0x2469, 0x2469, "10"), (0x246A, 0x246A, "11"), (0x246B, 0x246B, "12"),
   (0x246C, 0x246C, "13"), (0x246D, 0x246D, "14"), (0x246E, 0x246E, "15"), (0x246F, 0x246F, "16"),
   (0x2470, 0x2470, "17"), (0x2471, 0x2471, "18"), (0x2472, 0x2472, "19"), (0x2473, 0x2473, "20"),
   (0x24B6, 0x24BB, "a"), (0x24CD, 0x24CD, "x"), (0x24D0, 0x24D5, "a"), (0x24E7, 0x24E7, "x"),
   (0x24EA, 0x24EA, "0"), (0x3002, 0x3002, "."), (0x3251, 0x3251, "21"), (0x3252, 0x3252, "22"),
   (0x3253, 0x3253, "23"), (0x3254, 0x3254, "24"), (0x3255, 0x3255, "25"), (0x3256, 0x3256, "26"),
   (0x3257, 0x3257, "27"), (0x3258, 0x3258, "28"), (0x3259, 0x3259, "29"), (0x325A, 0x325A, "30"),
   (0x325B, 0x325B, "31"), (0x325C, 0x325C, "32"), (0x325D, 0x325D, "33"), (0x325E, 0x325E, "34"),
   (0x325F, 0x325F, "35"), (0x32B1, 0x32B1, "36"), (0x32B2, 0x32B2, "37"), (0x32B3, 0x32B3, "38"),
   (0x32B4, 0x32B4, "39"), (0x32B5, 0x32B5, "40"), (0x32B6, 0x32B6, "41"), (0x32B7, 0x32B7, "42"),
   (0x32B8, 0x32B8, "43"), (0x32B9, 0x32B9, "44"), (0x32BA, 0x32BA, "45"), (0x32BB, 0x32BB, "46"),
   (0x32BC, 0x32BC, "47"), (0x32BD, 0x32BD, "48"), (0x32BE, 0x32BE, "49"), (0x32BF, 0x32BF, "50"),
   (0x3372, 0x3372, "da"), (0x33C4, 0x33C4, "cc"), (0x33C5, 0x33C5, "cd"), (0x33C8, 0x33C8, "db"),
   (0xA7F2, 0xA7F2, "c"), (0xA7F3, 0xA7F3, "f"), (0xFB00, 0xFB00, "ff"), (0xFF0E, 0xFF0E, "."),
   (0xFF10, 0xFF19, "0"), (0xFF21, 0xFF26, "a"), (0xFF38, 0xFF38, "x"), (0xFF41, 0xFF46, "a"),
   (0xFF58, 0xFF58, "x"), (0xFF61, 0xFF61, "."), (0x1CCD6, 0x1CCDB, "a"), (0x1CCED, 0x1CCED, "x"),
   (0x1CCF0, 0x1CCF9, "0"), (0x1D400, 0x1D405, "a"), (0x1D417, 0x1D417, "x"), (0x1D41A, 0x1D41F, "a"),
   (0x1D431, 0x1D431, "x"), (0x1D434, 0x1D439, "a"), (0x1D44B, 0x1D44B, "x"), (0x1D44E, 0x1D453, "a"),
   (0x1D465, 0x1D465, "x"), (0x1D468, 0x1D46D, "a"), (0x1D47F, 0x1D47F, "x"), (0x1D482, 0x1D487, "a"),
   (0x1D499, 0x1D499, "x"), (0x1D49C, 0x1D49C, "a"), (0x1D49E, 0x1D49F, "c"), (0x1D4B3, 0x1D4B3, "x"),
   (0x1D4B6, 0x1D4B9, "a"), (0x1D4BB, 0x1D4BB, "f"), (0x1D4CD, 0x1D4CD, "x"), (0x1D4D0, 0x1D4D5, "a"),
   (0x1D4E7, 0x1D4E7, "x"), (0x1D4EA, 0x1D4EF, "a"), (0x1D501, 0x1D501, "x"), (0x1D504, 0x1D505, "a"),
   (0x1D507, 0x1D509, "d"), (0x1D51B, 0x1D51B, "x"), (0x1D51E, 0x1D523, "a"), (0x1D535, 0x1D535, "x"),
   (0x1D538, 0x1D539, "a"), (0x1D53B, 0x1D53D, "d"), (0x1D54F, 0x1D54F, "x"), (0x1D552, 0x1D557, "a"),
   (0x1D569, 0x1D569, "x"), (0x1D56C, 0x1D571, "a"), (0x1D583, 0x1D583, "x"), (0x1D586, 0x1D58B, "a"),
   (0x1D59D, 0x1D59D, "x"), (0x1D5A0, 0x1D5A5, "a"), (0x1D5B7, 0x1D5B7, "x"), (0x1D5BA, 0x1D5BF, "a"),
   (0x1D5D1, 0x1D5D1, "x"), (0x1D5D4, 0x1D5D9, "a"), (0x1D5EB, 0x1D5EB, "x"), (0x1D5EE, 0x1D5F3, "a"),
   (0x1D605, 0x1D605, "x"), (0x1D608, 0x1D60D, "a"), (0x1D61F, 0x1D61F, "x"), (0x1D622, 0x1D627, "a"),
   (0x1D639, 0x1D639, "x"), (0x1D63C, 0x1D641, "a"), (0x1D653, 0x1D653, "x"), (0x1D656, 0x1D65B, "a"),
   (0x1D66D, 0x1D66D, "x"), (0x1D670, 0x1D675, "a"), (0x1D687, 0x1D687, "x"), (0x1D68A, 0x1D68F, "a"),
   (0x1D6A1, 0x1D6A1, "x"), (0x1D7CE, 0x1D7D7, "0"), (0x1D7D8, 0x1D7E1, "0"), (0x1D7E2, 0x1D7EB, "0"),
   (0x1D7EC, 0x1D7F5, "0"), (0x1D7F6, 0x1D7FF, "0"), (0x1F12B, 0x1F12B, "c"), (0x1F12D, 0x1F12D, "cd"),
   (0x1F130, 0x1F135, "a"), (0x1F147, 0x1F147, "x"), (0x1FBF0, 0x1FBF9, "0")]

/-- The characters that a character of a host stands for.
Beyond ASCII only those are folded that can belong to a number. -/
def fold (c : Char) : List Char :=
  let n := c.toNat
  if n < 0x80 then [c.toLower]
  else if ignoredRanges.any fun range => range.1 ≤ n && n ≤ range.2 then []
  else
    match foldedRanges.find? fun range => range.1 ≤ n && n ≤ range.2.1 with
    | none => [c]
    | some (first, _, text) => text.toList.map fun d => Char.ofNat (d.toNat + (n - first))

/-- The byte that two hexadecimal digits at the front of a text spell. -/
def hexByte? : List UInt8 → Option UInt8
  | a :: b :: _ => (Text.number? 16 [Char.ofNat a.toNat, Char.ofNat b.toNat]).map Nat.toUInt8
  | _ => none

/-- The bytes of a text with percent signs, of which each one that two hexadecimal digits follow stands for a byte. -/
def percentDecode : List UInt8 → List UInt8
  | [] => []
  | c :: rest =>
    match if c = '%'.toUInt8 then hexByte? rest else none with
    | some b => b :: percentDecode (rest.drop 2)
    | none => c :: percentDecode rest
termination_by bytes => bytes.length

/-- The characters of ASCII that must not stand in a host. -/
def isForbidden (c : Char) : Bool :=
  c.toNat ≤ 0x20 || c = '\x7f' || "%#/:<>?@[\\]^|".toList.contains c

/-! ### Numbers -/

/-- The number of a part of a host: hexadecimal behind `0x`, octal behind `0`, decimal otherwise. -/
def part? : List Char → Option Nat
  | [] => none
  | '0' :: 'x' :: digits => Text.number? 16 digits
  | '0' :: digits => Text.number? 8 digits
  | digits => Text.number? 10 digits

/-- The number of a host whose parts are numbers: each part but the last one stands for a byte. -/
def number? : Nat → List Nat → Option Nat
  | _, [] => none
  | 0, _ => none
  | bytes + 1, [last] => if last < Nat.pow 256 (bytes + 1) then some last else none
  | bytes + 1, part :: rest => do
    guard (part < 256)
    return part * Nat.pow 256 bytes + (← number? bytes rest)

/-- The four decimal numbers of a host. -/
def dotted (n : Nat) : String :=
  ".".intercalate ([n / 0x1000000, n / 0x10000 % 256, n / 0x100 % 256, n % 256].map toString)

/-- Whether a part of a host asks for the host to be a number. -/
def isNumeric (part : List Char) : Bool :=
  (!part.isEmpty && part.all Char.isDigit) || (part? part).isSome

/-! ### Hosts -/

/-- The host of a name that has been folded.  A point at its end does not count. -/
def ofName? (name : List Char) : Option String :=
  let parts := name.splitOnP (· = '.')
  let parts := if parts.length > 1 && parts.getLast? = some [] then parts.dropLast else parts
  if parts.getLast?.any isNumeric then (parts.mapM part? >>= number? 4).map dotted
  else some (String.ofList name)

/-- The host that a text describes.  A host in brackets stands for itself. -/
def parse? (text : List Char) : Option String :=
  if text.head? = some '[' then some (String.ofList text).toLower
  else do
    let decoded ← String.fromUTF8? ⟨(percentDecode (String.ofList text).toUTF8.toList).toArray⟩
    let name := decoded.toList.flatMap fold
    if name.isEmpty || name.any isForbidden then none else ofName? name

end ConfigMigration.Host
