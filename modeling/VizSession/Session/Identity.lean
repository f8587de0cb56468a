/-!
# Identifiers of sessions

A session is identified by sixteen random bytes, in which four bits tell the version and
two the variant. They are written as hexadecimal digits in five groups.
-/

namespace VizSession.Session.Identity

/-- The two digits of a byte. -/
def byteDigits (b : UInt8) : List Char :=
  [(b.toNat / 16).digitChar, (b.toNat % 16).digitChar]

/-- The bytes with version and variant written into them : the seventh byte says that the
others are random. -/
def mark (bytes : List UInt8) : List UInt8 :=
  (bytes.modify 6 fun b => b &&& 0x0f ||| 0x40).modify 8 fun b => b &&& 0x3f ||| 0x80

/-- The text of an identifier. Bytes that are missing count as zero. -/
def text (bytes : List UInt8) : String :=
  let ds := (mark ((List.range 16).map fun i => bytes.getD i 0)).flatMap byteDigits
  let groups :=
    [ds.take 8, (ds.drop 8).take 4, (ds.drop 12).take 4, (ds.drop 16).take 4, ds.drop 20]
  String.ofList (['-'].intercalate groups)

end VizSession.Session.Identity
