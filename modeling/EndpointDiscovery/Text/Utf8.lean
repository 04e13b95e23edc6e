/-!
# UTF-8

Decoding is one automaton over bytes.  A sequence that breaks off or is not well
formed yields one `none`, and the byte that broke it is read again from the start.
The strict decoder refuses such sequences, the lenient one replaces each of them.
-/

namespace EndpointDiscovery.Text.Utf8

def encode (characters : List Char) : List UInt8 :=
  characters.flatMap String.utf8EncodeChar

def encodeString (text : String) : List UInt8 :=
  encode text.toList

/-- Where the automaton stands: before a character, or inside one with `missing + 1`
bytes to come, the next of them between `low` and `high`. -/
inductive Position where
  | start
  | inside (missing : Nat) (value : Nat) (low high : UInt8)
deriving DecidableEq, Repr

def enter (byte : UInt8) : List (Option Char) × Position :=
  if byte < 0x80 then ([some (Char.ofNat byte.toNat)], .start)
  else if byte < 0xC2 then ([none], .start)
  else if byte < 0xE0 then ([], .inside 0 (byte.toNat - 0xC0) 0x80 0xBF)
  else if byte = 0xE0 then ([], .inside 1 0 0xA0 0xBF)
  else if byte = 0xED then ([], .inside 1 13 0x80 0x9F)
  else if byte < 0xF0 then ([], .inside 1 (byte.toNat - 0xE0) 0x80 0xBF)
  else if byte = 0xF0 then ([], .inside 2 0 0x90 0xBF)
  else if byte < 0xF4 then ([], .inside 2 (byte.toNat - 0xF0) 0x80 0xBF)
  else if byte = 0xF4 then ([], .inside 2 4 0x80 0x8F)
  else ([none], .start)

def step : Position → UInt8 → List (Option Char) × Position
  | .start, byte => enter byte
  | .inside missing value low high, byte =>
      if low ≤ byte ∧ byte ≤ high then
        let next := value * 64 + (byte.toNat - 0x80)
        match missing with
        | 0 => ([some (Char.ofNat next)], .start)
        | fewer + 1 => ([], .inside fewer next 0x80 0xBF)
      else
        let (read, position) := enter byte
        (none :: read, position)

def scanFrom : Position → List UInt8 → List (Option Char)
  | .start, [] => []
  | .inside .., [] => [none]
  | position, byte :: rest =>
      let (read, next) := step position byte
      read ++ scanFrom next rest

/-- The characters of a byte sequence, with `none` for each malformed part. -/
def scan (bytes : List UInt8) : List (Option Char) :=
  scanFrom .start bytes

def decode? (bytes : List UInt8) : Option (List Char) :=
  (scan bytes).mapM id

/-- Malformed parts become the replacement character. -/
def decodeLenient (bytes : List UInt8) : List Char :=
  (scan bytes).map (·.getD '\uFFFD')

end EndpointDiscovery.Text.Utf8
