import EndpointDiscovery.Bytes.Base64
import EndpointDiscovery.Certificate.Basic
import EndpointDiscovery.Text.Split

/-!
# Certificates in text form

A block is a line that begins it, lines of base64 and a line that ends it; both
lines carry the label of the block.  Lines between blocks are passed over.
-/

namespace EndpointDiscovery.Pem

/-! ## Lines -/

structure Line where
  bytes : List UInt8
  isCut : Bool

def lineLimit : Nat := 254

def splitLine (input : List UInt8) : List UInt8 × List UInt8 :=
  let start := input.take lineLimit
  let length := (start.takeWhile (· ≠ 0x0A)).length
  (input.take (min (length + 1) start.length),
    input.drop (min (length + 1) start.length))

def stripLine (bytes : List UInt8) : List UInt8 :=
  (bytes.reverse.dropWhile fun byte => byte ≤ 0x20 || 0x80 ≤ byte).reverse

def linesWithin : Nat → List UInt8 → List Line
  | _, [] => []
  | 0, _ => []
  | fuel + 1, input =>
      let (line, rest) := splitLine input
      ⟨stripLine line, line.length = lineLimit && line.getLast? ≠ some 0x0A⟩ ::
        linesWithin fuel rest

def lines (input : List UInt8) : List Line :=
  linesWithin input.length input

def asciiBytes (text : String) : List UInt8 :=
  text.toList.map fun character => UInt8.ofNat character.toNat

def asciiText (bytes : List UInt8) : List Char :=
  bytes.map fun byte => Char.ofNat byte.toNat

def beginMark : List UInt8 := asciiBytes "-----BEGIN "

def endMark : List UInt8 := asciiBytes "-----END "

def closing : List UInt8 := asciiBytes "-----"

def label? (line : List UInt8) : Option (List UInt8) := do
  let rest ← Text.dropStart? beginMark line
  let reversed ← Text.dropStart? closing rest.reverse
  some reversed.reverse

/-! ## Blocks -/

structure Block where
  label : List UInt8
  header : List UInt8
  text : List UInt8

def Block.data? (block : Block) : Option (List UInt8) :=
  match Base64.stream? (asciiText block.text) with
  | some (first :: rest) => some (first :: rest)
  | _ => none

/-- What was read of a block: the lines before a blank line, if one came, and
the lines since. -/
structure Body where
  header? : Option (List UInt8) := none
  text : List UInt8 := []
  hasColon : Bool := false
  isShort : Bool := false
  isCut : Bool := false

namespace Body

def close? (body : Body) (label : List UInt8) : Option Block :=
  match body.header? with
  | some header => some ⟨label, header, body.text⟩
  | none => if body.hasColon then none else some ⟨label, [], body.text⟩

def addBlank? (body : Body) (line : Line) : Option Body :=
  if body.isCut then some { body with isCut := line.isCut }
  else if body.header?.isSome then none
  else some { body with header? := some body.text, text := [], isCut := line.isCut }

/-- After a blank line, lines have 64 characters, and only the last one
may have fewer. -/
def addText? (body : Body) (line : Line) : Option Body :=
  if body.isShort ∨ (body.header?.isSome ∧ 64 < line.bytes.length) then none
  else
    some { body with
      text := body.text ++ line.bytes ++ [0x0A]
      isShort := body.header?.isSome && line.bytes.length < 64
      isCut := line.isCut }

end Body

def closedBlock? (label : List UInt8) (body : Body) : List Line →
    Option (Block × List Line)
  | [] => none
  | line :: rest =>
      let body := { body with
        hasColon :=
          body.hasColon || (body.header?.isNone && line.bytes.contains 0x3A) }
      if line.bytes.isEmpty then
        (body.addBlank? line).bind (closedBlock? label · rest)
      else
        match Text.dropStart? endMark line.bytes with
        | some mark =>
            if mark = label ++ closing then
              (body.close? label).map (·, rest)
            else
              none
        | none => (body.addText? line).bind (closedBlock? label · rest)

inductive Reading (α : Type) where
  | nothing
  | broken
  | read (item : α) (rest : List Line)

def nextBlock : List Line → Reading Block
  | [] => .nothing
  | line :: rest =>
      match label? line.bytes with
      | none => nextBlock rest
      | some label =>
          match closedBlock? label {} rest with
          | none => .broken
          | some (block, rest) => .read block rest

/-! ## Certificates -/

def certificateLabels : List (List UInt8) :=
  ["CERTIFICATE", "X509 CERTIFICATE", "TRUSTED CERTIFICATE"].map asciiBytes

def nextCertificateWithin : Nat → List Line → Reading Certificate
  | 0, _ => .nothing
  | fuel + 1, lines =>
      match nextBlock lines with
      | .nothing => .nothing
      | .broken => .broken
      | .read block rest =>
          match block.data? with
          | none => .broken
          | some data =>
              if block.label ∈ certificateLabels then
                match Certificate.ofDer? data with
                | some certificate =>
                    if block.header.isEmpty then .read certificate rest else .broken
                | none => .broken
              else
                nextCertificateWithin fuel rest

/-- The first block that holds a certificate; the blocks before it
must be readable. -/
def nextCertificate (lines : List Line) : Reading Certificate :=
  nextCertificateWithin (lines.length + 1) lines

def bundleWithin? : Nat → List Line → Option (List Certificate)
  | 0, _ => some []
  | fuel + 1, lines =>
      match nextCertificate lines with
      | .nothing => some []
      | .broken => none
      | .read certificate rest => (bundleWithin? fuel rest).map (certificate :: ·)

def bundle? (input : List UInt8) : Option (List Certificate) :=
  bundleWithin? ((lines input).length + 1) (lines input)

def certificate? (input : List UInt8) : Option Certificate :=
  match nextCertificate (lines input) with
  | .read certificate _ => some certificate
  | _ => none

/-! ## Writing -/

def wrap : Nat → List Char → List Char
  | 0, _ => []
  | _, [] => []
  | fuel + 1, text => text.take 64 ++ '\n' :: wrap fuel (text.drop 64)

def encode (certificate : Certificate) : String :=
  let text := Base64.encode certificate.der
  "-----BEGIN CERTIFICATE-----\n" ++ String.ofList (wrap text.length text) ++
    "-----END CERTIFICATE-----\n"

end EndpointDiscovery.Pem
