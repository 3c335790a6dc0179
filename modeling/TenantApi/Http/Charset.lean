import TenantApi.Bytes.Wide
import TenantApi.Http.ContentType
import TenantApi.Json.Reader
import TenantApi.Platform

/-!
Text of bodies. A content type may name a charset among its parameters; without one, or when its
name is unknown, text is UTF-8. Bytes that are no text become U+FFFD. Some charsets refuse all the
same: those that need a mark to tell their order, and names of things that are no charset of text.
Codecs that are not built in are those of the platform.
-/

namespace TenantApi

namespace Charset

inductive Refusal where
  | unmarked16
  | unmarked32
  /-- The charset that is there to refuse. -/
  | undefined
  /-- Nothing may stand for bytes that are no text. -/
  | irreplaceable
  /-- Turns bytes into bytes. -/
  | binary
  /-- Turns text into text. -/
  | textual
  | nullInName
  | parameters (fault : ContentType.Fault)
  | platform (fault : Platform.Fault)
  deriving DecidableEq, Repr

def Refusal.message : Refusal → String
  | .unmarked16 => "UTF-16 stream does not start with BOM"
  | .unmarked32 => "UTF-32 stream does not start with BOM"
  | .undefined => "undefined encoding"
  | .irreplaceable => "Unsupported error handling replace"
  | .binary => ""
  | .textual => "descriptor 'translate' for 'str' objects doesn't apply to a 'bytes' object"
  | .nullInName => "embedded null character"
  | .parameters (.mixedSegments true) =>
      "'<' not supported between instances of 'int' and 'NoneType'"
  | .parameters (.mixedSegments false) =>
      "'<' not supported between instances of 'NoneType' and 'int'"
  | .parameters (.tooManyDigits count) => Json.tooManyDigitsText count
  | .platform fault => fault.message

end Charset

inductive Charset where
  | utf8
  /-- UTF-8 without the mark at its start. -/
  | utf8Marked
  | ascii
  | latin1
  | windows1252
  /-- Units of two or four bytes; without an order, a mark decides. -/
  | utf16 (order : Option ByteOrder)
  | utf32 (order : Option ByteOrder)
  | refused (refusal : Charset.Refusal)
  /-- A name that is not built in, in normal form. -/
  | other (name : String)
  deriving DecidableEq, Repr

namespace Charset

variable [Platform]

def names : List (String × Charset) := [
  ("utf_8", .utf8), ("utf_8_sig", .utf8Marked), ("ascii", .ascii), ("latin_1", .latin1),
  ("cp1252", .windows1252), ("utf_16", .utf16 none), ("utf_16_be", .utf16 (some .big)),
  ("utf_16_le", .utf16 (some .little)), ("utf_32", .utf32 none),
  ("utf_32_be", .utf32 (some .big)), ("utf_32_le", .utf32 (some .little)),
  ("undefined", .refused .undefined), ("idna", .refused .irreplaceable),
  ("rot_13", .refused .textual), ("base64_codec", .refused .binary),
  ("bz2_codec", .refused .binary), ("hex_codec", .refused .binary),
  ("quopri_codec", .refused .binary), ("uu_codec", .refused .binary),
  ("zlib_codec", .refused .binary)
]

def aliases : List (String × Charset) := [
  ("u8", .utf8), ("utf", .utf8), ("utf8", .utf8), ("utf8_ucs2", .utf8), ("utf8_ucs4", .utf8),
  ("cp65001", .utf8),
  ("646", .ascii), ("ansi_x3.4_1968", .ascii), ("ansi_x3_4_1968", .ascii),
  ("ansi_x3.4_1986", .ascii), ("cp367", .ascii), ("csascii", .ascii), ("ibm367", .ascii),
  ("iso646_us", .ascii), ("iso_646.irv_1991", .ascii), ("iso_ir_6", .ascii), ("us", .ascii),
  ("us_ascii", .ascii),
  ("8859", .latin1), ("cp819", .latin1), ("csisolatin1", .latin1), ("ibm819", .latin1),
  ("iso8859", .latin1), ("iso8859_1", .latin1), ("iso_8859_1", .latin1),
  ("iso_8859_1_1987", .latin1), ("iso_ir_100", .latin1), ("l1", .latin1), ("latin", .latin1),
  ("latin1", .latin1),
  ("1252", .windows1252), ("windows_1252", .windows1252),
  ("u16", .utf16 none), ("utf16", .utf16 none), ("unicodebigunmarked", .utf16 (some .big)),
  ("utf_16be", .utf16 (some .big)), ("unicodelittleunmarked", .utf16 (some .little)),
  ("utf_16le", .utf16 (some .little)),
  ("u32", .utf32 none), ("utf32", .utf32 none), ("utf_32be", .utf32 (some .big)),
  ("utf_32le", .utf32 (some .little)),
  ("rot13", .refused .textual), ("base64", .refused .binary), ("base_64", .refused .binary),
  ("bz2", .refused .binary), ("hex", .refused .binary), ("quopri", .refused .binary),
  ("quoted_printable", .refused .binary), ("quotedprintable", .refused .binary),
  ("uu", .refused .binary), ("zip", .refused .binary), ("zlib", .refused .binary)
]

def normalName (name : List Char) : List Char :=
  let isKept (c : Char) : Bool := Text.isAsciiLetter c || Text.isAsciiDigit c || c = '.'
  let spaced := name.map fun c => if isKept c then c.toLower else '_'
  Text.join ['_'] ((Text.splitAt '_' spaced).filter (!·.isEmpty))

/-- The charset of a name; points in the name of an alias may stand for low lines. -/
def named (name : List Char) : Charset :=
  if name.contains '\x00' then .refused .nullInName
  else
    let normal := normalName name
    let spelled := String.ofList (normal.map fun c => if c = '.' then '_' else c)
    let normal := String.ofList normal
    (((aliases.lookup normal).or (aliases.lookup spelled)).or (names.lookup normal)).getD
      (.other normal)

def ofParameter (value : ContentType.Value) : Charset :=
  let name : Except Platform.Fault (List Char) := match value with
    | .plain name | .extended [] name => .ok name
    | .extended charset name => Platform.decodeParameter charset name
  match name with
  | .error fault => .refused (.platform fault)
  | .ok name => if Text.isAscii name then named name else .utf8

def ofContentType (contentType : Option String) : Charset :=
  match contentType with
  | none => .utf8
  | some contentType => match ContentType.parameter? contentType "charset" with
    | .error fault => .refused (.parameters fault)
    | .ok none => .utf8
    | .ok (some value) => ofParameter value

/-- What the bytes from 0x80 to 0x9f stand for; zero where they stand for nothing. -/
def windowsCodes : List Nat := [
  0x20ac, 0, 0x201a, 0x192, 0x201e, 0x2026, 0x2020, 0x2021, 0x2c6, 0x2030, 0x160, 0x2039, 0x152, 0,
  0x17d, 0, 0, 0x2018, 0x2019, 0x201c, 0x201d, 0x2022, 0x2013, 0x2014, 0x2dc, 0x2122, 0x161, 0x203a,
  0x153, 0, 0x17e, 0x178
]

def windowsChar (b : UInt8) : Char :=
  if 0x80 ≤ b && b < 0xa0 then
    let code := windowsCodes.getD (b.toNat - 0x80) 0
    if code = 0 then '\ufffd' else Char.ofNat code
  else Char.ofNat b.toNat

def byteOrder16? : Octets → Option (ByteOrder × Octets)
  | 0xfe :: 0xff :: rest => some (.big, rest)
  | 0xff :: 0xfe :: rest => some (.little, rest)
  | _ => none

def byteOrder32? : Octets → Option (ByteOrder × Octets)
  | 0x00 :: 0x00 :: 0xfe :: 0xff :: rest => some (.big, rest)
  | 0xff :: 0xfe :: 0x00 :: 0x00 :: rest => some (.little, rest)
  | _ => none

def unmarked : Octets → Octets
  | [] | [0xef] | [0xef, 0xbb] => []
  | bytes => Utf8.dropMark bytes

/-- The text of bytes in a charset that is built in, if it does not refuse. Without an order and
without a mark, only what is less than a unit has a text. -/
def decodeChars (charset : Charset) (bytes : Octets) : Except Refusal (List Char) :=
  match charset with
  | .utf8 | .other _ => .ok (Utf8.decodeLossy bytes)
  | .utf8Marked => .ok (Utf8.decodeLossy (unmarked bytes))
  | .ascii => .ok (bytes.map fun b => if b < 0x80 then Char.ofNat b.toNat else '\ufffd')
  | .latin1 => .ok (bytes.map fun b => Char.ofNat b.toNat)
  | .windows1252 => .ok (bytes.map windowsChar)
  | .utf16 (some order) => .ok (Wide.decode16Lossy order bytes)
  | .utf16 none => match byteOrder16? bytes with
    | some (order, rest) => .ok (Wide.decode16Lossy order rest)
    | none => if bytes.length < 2 then .ok (Wide.decode16Lossy .little bytes)
        else .error .unmarked16
  | .utf32 (some order) => .ok (Wide.decode32Lossy order bytes)
  | .utf32 none => match byteOrder32? bytes with
    | some (order, rest) => .ok (Wide.decode32Lossy order rest)
    | none => if bytes.length < 4 then .ok (Wide.decode32Lossy .little bytes)
        else .error .unmarked32
  | .refused refusal => .error refusal

def codec? (charset : Charset) : Option (Octets → Except Platform.Fault LooseText) :=
  match charset with
  | .other name => Platform.codec name
  | _ => none

def decode (charset : Charset) (bytes : Octets) : Except Refusal LooseText :=
  match charset.codec? with
  | some codec => (codec bytes).mapError .platform
  | none => (charset.decodeChars bytes).map fun text => String.ofList text

end Charset

end TenantApi
