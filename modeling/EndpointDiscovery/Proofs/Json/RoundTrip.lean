import EndpointDiscovery.Json.Reader
import EndpointDiscovery.Json.Writer
import Mathlib.Data.List.TakeWhile

/-!
# JSON values read back

The text of a value is read as that value, whatever its texts hold.  Only
values that no text is written for are left out: fractions, and texts or
names that are none.
-/

namespace EndpointDiscovery.Json

inductive IsExact : Json → Prop where
  | null : IsExact .null
  | flag (value : Bool) : IsExact (.flag value)
  | number {value : JsonNumber} (h : value.integral = true) :
      IsExact (.number value)
  | text (value : String) : IsExact (.text (some value))
  | array {items : List Json} (h : ∀ item ∈ items, IsExact item) :
      IsExact (.array items)
  | object {members : List (Option String × Json)}
      (hnames : ∀ member ∈ members, member.1.isSome = true)
      (hvalues : ∀ member ∈ members, IsExact member.2) : IsExact (.object members)

namespace Reader

variable {rest : Rest}

/-! ## Texts -/

def pieceOf (character : Char) : Piece :=
  if character.toNat < 0x20 then .unit character.toNat else .plain character

theorem hexDigits_control : ∀ number < 0x20,
    hexDigits number =
      ['0', '0', (number / 16).digitChar, (number % 16).digitChar] := by
  decide

theorem hexDigit?_digitChar : ∀ digit < 16,
    hexDigit? digit.digitChar = some digit := by
  decide

theorem pieces?_quoteChar (character : Char) (input : Rest) :
    pieces? (quoteChar character ++ input) =
      (pieces? input).map fun (pieces, rest) =>
        (pieceOf character :: pieces, rest) := by
  by_cases hquote : character = '"'
  · subst hquote
    cases h : pieces? input <;> simp [quoteChar, pieces?, simpleEscape?, pieceOf, h]
  by_cases hslash : character = '\\'
  · subst hslash
    cases h : pieces? input <;> simp [quoteChar, pieces?, simpleEscape?, pieceOf, h]
  by_cases hcontrol : character.toNat < 0x20
  · have hhigh := hexDigit?_digitChar (character.toNat / 16) (by omega)
    have hlow := hexDigit?_digitChar (character.toNat % 16) (by omega)
    have hzero : hexDigit? '0' = some 0 := rfl
    have hvalue := Nat.div_add_mod' character.toNat 16
    rw [quoteChar, if_neg (by simp [hquote, hslash]), if_pos hcontrol,
      hexDigits_control _ hcontrol]
    simp only [List.cons_append, List.nil_append, pieces?, hzero, hhigh, hlow,
      pieceOf, if_pos hcontrol]
    cases pieces? input with
    | none => rfl
    | some value => simp [hvalue]
  · rw [quoteChar, if_neg (by simp [hquote, hslash]), if_neg hcontrol,
      List.singleton_append, pieceOf, if_neg hcontrol]
    simp [pieces?, hslash, hcontrol]

theorem pieces?_quoted (characters : List Char) (rest : Rest) :
    pieces? (characters.flatMap quoteChar ++ '"' :: rest) =
      some (characters.map pieceOf, rest) := by
  induction characters with
  | nil => rfl
  | cons character characters ih =>
      rw [List.flatMap_cons, List.append_assoc, pieces?_quoteChar, ih]
      rfl

theorem joinUnits?_control {units : List Nat} (h : ∀ unit ∈ units, unit < 0x20) :
    joinUnits? units = some (units.map Char.ofNat) := by
  fun_induction joinUnits? units <;>
    simp_all [isHighSurrogate, isLowSurrogate] <;> omega

theorem joinPieces?_pieceOf (characters : List Char) {pending : List Nat}
    (h : ∀ unit ∈ pending, unit < 0x20) :
    joinPieces? (characters.map pieceOf) pending =
      some (pending.map Char.ofNat ++ characters) := by
  induction characters generalizing pending with
  | nil => simpa [joinPieces?] using joinUnits?_control h
  | cons character characters ih =>
      rw [List.map_cons, pieceOf]
      split
      · rename_i hcontrol
        have hpending : ∀ unit ∈ pending ++ [character.toNat], unit < 0x20 := by
          intro unit hmem
          rcases List.mem_append.mp hmem with hmem | hmem
          · exact h unit hmem
          · rwa [List.mem_singleton.mp hmem]
        rw [joinPieces?, ih hpending]
        simp
      · rw [joinPieces?, joinUnits?_control h, ih (by simp)]
        simp

theorem text?_quoted (text : String) (rest : Rest) :
    text? (text.toList.flatMap quoteChar ++ '"' :: rest) =
      some (some text, rest) := by
  have hjoined : joinPieces? (text.toList.map pieceOf) [] = some text.toList :=
    joinPieces?_pieceOf text.toList (by simp)
  simp [text?, pieces?_quoted, hjoined]

/-! ## Numbers -/

def EndsValue (rest : Rest) : Prop :=
  ∀ character, rest.head? = some character → character ∈ [',', ']', '\x7d']

theorem isDigit_of_mem_toDigits {number : Nat} {digit : Char}
    (h : digit ∈ Nat.toDigits 10 number) : isDigit digit = true := by
  have hdigit := Nat.isDigit_of_mem_toDigits (by decide) (by decide) h
  simpa [isDigit, Char.isDigit, Char.le_def] using hdigit

theorem head?_toDigits {number : Nat} (h : number ≠ 0) :
    (Nat.toDigits 10 number).head? ≠ some '0' := by
  induction number using Nat.strongRecOn with
  | ind number ih =>
      rw [Nat.toDigits_eq_if (by decide)]
      split
      · rename_i hlt
        have hdigits : ∀ digit < 10, digit ≠ 0 → digit.digitChar ≠ '0' := by decide
        simpa using hdigits number hlt h
      · have hfirst := ih (number / 10) (by omega) (by omega)
        have hne : Nat.toDigits 10 (number / 10) ≠ [] := Nat.toDigits_ne_nil
        rwa [List.head?_append, List.head?_eq_some_head hne, Option.some_or,
          ← List.head?_eq_some_head hne]

theorem length_toDigits {number : Nat}
    (h : (Nat.toDigits 10 number).head? = some '0') :
    (Nat.toDigits 10 number).length = 1 := by
  obtain rfl : number = 0 := Decidable.byContradiction fun hne =>
    head?_toDigits hne h
  rfl

theorem numberTail?_of_endsValue (h : EndsValue rest) :
    numberTail? rest = some (false, rest) := by
  cases rest with
  | nil => rfl
  | cons character rest =>
      have hends := h character rfl
      simp only [List.mem_cons, List.not_mem_nil, or_false] at hends
      rcases hends with rfl | rfl | rfl <;> rfl

theorem EndsValue.not_digit (h : EndsValue rest) :
    ∀ character, rest.head? = some character → isDigit character = false := by
  intro character hhead
  have hends := h character hhead
  simp only [List.mem_cons, List.not_mem_nil, or_false] at hends
  rcases hends with rfl | rfl | rfl <;> rfl

theorem EndsValue.cutDigits (h : EndsValue rest) {digits : List Char}
    (hdigits : ∀ digit ∈ digits, isDigit digit = true) :
    (digits ++ rest).takeWhile isDigit = digits ∧
    (digits ++ rest).dropWhile isDigit = rest := by
  rw [List.takeWhile_append_of_pos hdigits, List.dropWhile_append_of_pos hdigits]
  cases rest with
  | nil => simp
  | cons character rest => simp [h.not_digit character rfl]

theorem digitsValue_toDigits (number : Nat) :
    digitsValue (Nat.toDigits 10 number) = number := by
  have hvalue : Nat.ofDigitChars 10 (Nat.toDigits 10 number) 0 = number :=
    Nat.ofDigitChars_toDigits (by decide) (by decide)
  simpa [Nat.ofDigitChars, digitsValue, Nat.mul_comm] using hvalue

theorem number?_numberText {value : JsonNumber} (hvalue : value.integral = true)
    (hrest : EndsValue rest) :
    number? ((numberText value).toList ++ rest) = some (value, rest) := by
  obtain ⟨negative, magnitude, integral⟩ := value
  obtain rfl : integral = true := hvalue
  have hdigits : ∀ digit ∈ Nat.toDigits 10 magnitude, isDigit digit = true :=
    fun digit hmem => isDigit_of_mem_toDigits hmem
  obtain ⟨htake, hdrop⟩ := hrest.cutDigits hdigits
  -- Without a sign the text begins with a digit.
  have hunsigned : ∀ tail, Nat.toDigits 10 magnitude ++ rest ≠ '-' :: tail := by
    obtain ⟨first, digits, hcons⟩ :=
      List.exists_cons_of_ne_nil (@Nat.toDigits_ne_nil magnitude 10)
    rw [hcons]
    rintro tail ⟨⟩
    simpa [isDigit] using hdigits '-' (by simp [hcons])
  cases negative <;>
    simpa [number?, numberText, htake, hdrop, numberTail?_of_endsValue hrest,
      digitsValue_toDigits] using length_toDigits

end Reader

/-! ## Written values -/

open Reader

variable {items : List Json} {members : List (Option String × Json)} {value : Json}

def written (value : Json) : List Char := value.toText.toList

def writtenMember (member : Option String × Json) : List Char :=
  '"' ::
  ((member.1.getD "").toList.flatMap quoteChar ++ '"' :: ':' :: member.2.written)

theorem toList_quote (text : String) :
    (quote text).toList = '"' :: (text.toList.flatMap quoteChar ++ ['"']) := by
  simp [quote]

theorem itemTexts_eq (items : List Json) : itemTexts items = items.map toText := by
  induction items with
  | nil => rfl
  | cons item items ih => rw [itemTexts, ih, List.map_cons]

theorem map_memberTexts (members : List (Option String × Json)) :
    (memberTexts members).map String.toList = members.map writtenMember := by
  induction members with
  | nil => rfl
  | cons member members ih =>
      rw [memberTexts, List.map_cons, ih, List.map_cons]
      simp [writtenMember, toList_quote, written]

theorem written_array (items : List Json) :
    written (.array items) = '[' ::
    (List.intercalate [','] (items.map written) ++ [']']) := by
  have hwritten : (items.map toText).map String.toList = items.map written :=
    List.map_map
  simp [written, toText, itemTexts_eq, String.toList_intercalate, hwritten]

theorem written_object (members : List (Option String × Json)) :
    written (.object members) =
      '\x7b' ::
      (List.intercalate [','] (members.map writtenMember) ++ ['\x7d']) := by
  simp [written, toText, map_memberTexts, String.toList_intercalate]

theorem written_text (text : String) :
    written (.text (some text)) = '"' ::
    (text.toList.flatMap quoteChar ++ ['"']) := by
  simp [written, toText, toList_quote]

theorem written_number (value : JsonNumber) :
    written (.number value) =
      (if value.negative then ['-'] else []) ++
      Nat.toDigits 10 value.magnitude := by
  rw [written, toText, numberText]
  cases value.negative <;> simp

theorem skipSpace_of_not_space {first : Char} (h : isSpace first = false)
    (rest : Rest) :
    skipSpace (first :: rest) = first :: rest := by
  simp [skipSpace, h]

theorem written_number_begins (value : JsonNumber) : ∃ first tail,
    written (.number value) = first :: tail ∧
    (first = '-' ∨ isDigit first = true) := by
  rw [written_number]
  cases value.negative with
  | true => exact ⟨_, _, rfl, .inl rfl⟩
  | false =>
      obtain ⟨first, tail, hcons⟩ :=
        List.exists_cons_of_ne_nil (@Nat.toDigits_ne_nil value.magnitude 10)
      exact ⟨first, tail, hcons,
        .inr (isDigit_of_mem_toDigits (by rw [hcons]; simp))⟩

theorem ne_of_begins_number {first mark : Char}
    (h : first = '-' ∨ isDigit first = true)
    (hmark : (mark = '-' || isDigit mark) = false) : first ≠ mark := by
  rintro rfl
  rcases h with rfl | h
  · contradiction
  · simp [h] at hmark

theorem IsExact.begins (h : value.IsExact) : ∃ first tail,
    value.written = first :: tail ∧
    isSpace first = false ∧ first ≠ ']' := by
  cases h with
  | null => exact ⟨_, _, rfl, by decide⟩
  | flag value => cases value <;> exact ⟨_, _, rfl, by decide⟩
  | @number value h =>
      obtain ⟨first, tail, heq, hfirst⟩ := written_number_begins value
      have hother : ∀ mark, (mark = '-' || isDigit mark) = false → first ≠ mark :=
        fun _ => ne_of_begins_number hfirst
      refine ⟨first, tail, heq, ?_, hother ']' (by decide)⟩
      simp [isSpace, hother ' ' (by decide), hother '\n' (by decide),
        hother '\t' (by decide), hother '\r' (by decide)]
  | text value => exact ⟨_, _, written_text value, by decide⟩
  | @array items h => exact ⟨_, _, written_array items, by decide⟩
  | @object members hnames hvalues =>
      exact ⟨_, _, written_object members, by decide⟩

theorem IsExact.skipSpace_written (h : value.IsExact) (rest : Rest) :
    skipSpace (value.written ++ rest) = value.written ++ rest := by
  obtain ⟨first, tail, heq, hspace, -⟩ := h.begins
  rw [heq, List.cons_append, skipSpace_of_not_space hspace]

/-- A value is read from its text whatever it stands in, with as much fuel as the
text is long. -/
def IsReadBack (value : Json) : Prop :=
  ∀ fuel rest, 2 * value.written.length ≤ fuel → EndsValue rest →
    value? fuel (value.written ++ rest) = some (value, rest)

theorem endsValue_cons {mark : Char} (h : mark ∈ [',', ']', '\x7d']) (rest : Rest) :
    EndsValue (mark :: rest) := by
  rintro character ⟨⟩
  exact h

theorem items?_comma {fuel : Nat} (h : value.IsReadBack)
    (hfuel : 2 * value.written.length ≤ fuel) (rest : Rest) :
    items? (fuel + 1) (value.written ++ ',' :: rest) =
      (items? fuel rest).map fun (items, rest) => (value :: items, rest) := by
  have hends : EndsValue (',' :: rest) := endsValue_cons (by decide) rest
  have hread := h fuel _ hfuel hends
  have hspace : skipSpace (',' :: rest) = ',' :: rest := rfl
  simp only [items?, hread, hspace, Option.bind_eq_bind, Option.bind_some]

theorem items?_close {fuel : Nat} (h : value.IsReadBack)
    (hfuel : 2 * value.written.length ≤ fuel) (rest : Rest) :
    items? (fuel + 1) (value.written ++ ']' :: rest) = some ([value], rest) := by
  have hends : EndsValue (']' :: rest) := endsValue_cons (by decide) rest
  have hread := h fuel _ hfuel hends
  have hspace : skipSpace (']' :: rest) = ']' :: rest := rfl
  simp only [items?, hread, hspace, Option.bind_eq_bind, Option.bind_some]

theorem items?_intercalate (h : ∀ item ∈ items, item.IsReadBack) (hne : items ≠ [])
    (fuel : Nat)
    (hfuel : 2 * (List.intercalate [','] (items.map written)).length + 1 ≤ fuel)
    (rest : Rest) :
    items? fuel (List.intercalate [','] (items.map written) ++ ']' :: rest) =
      some (items, rest) := by
  induction items generalizing fuel with
  | nil => contradiction
  | cons item items ih =>
      obtain ⟨fuel, rfl⟩ := Nat.exists_eq_add_of_le' (show 1 ≤ fuel by omega)
      rw [List.forall_mem_cons] at h
      cases items with
      | nil =>
          rw [List.map_singleton, List.intercalate_singleton] at hfuel ⊢
          exact items?_close h.1 (by omega) rest
      | cons next items =>
          rw [List.map_cons, List.map_cons, List.intercalate_cons_cons,
            ← List.map_cons] at hfuel ⊢
          rw [List.append_assoc, List.append_assoc, List.singleton_append]
          simp only [List.length_append, List.length_singleton] at hfuel
          rw [items?_comma h.1 (by omega),
            ih h.2 (List.cons_ne_nil _ _) fuel (by omega), Option.map_some]

theorem members?_comma {name : String} {fuel : Nat} (h : value.IsReadBack)
    (hfuel : 2 * (writtenMember (some name, value)).length ≤ fuel) (rest : Rest) :
    members? (fuel + 1) (writtenMember (some name, value) ++ ',' :: rest) =
      (members? fuel rest).map fun (members, rest) =>
        ((some name, value) :: members, rest) := by
  simp only [writtenMember, List.length_cons, List.length_append] at hfuel
  have hends : EndsValue (',' :: rest) := endsValue_cons (by decide) rest
  have hread := h fuel _ (by omega) hends
  have hquote : isSpace '"' = false := rfl
  have hcolon : isSpace ':' = false := rfl
  have hcomma : isSpace ',' = false := rfl
  simp [members?, writtenMember, skipSpace_of_not_space, hquote, hcolon, hcomma,
    text?_quoted, hread]

theorem members?_close {name : String} {fuel : Nat} (h : value.IsReadBack)
    (hfuel : 2 * (writtenMember (some name, value)).length ≤ fuel) (rest : Rest) :
    members? (fuel + 1) (writtenMember (some name, value) ++ '\x7d' :: rest) =
      some ([(some name, value)], rest) := by
  simp only [writtenMember, List.length_cons, List.length_append] at hfuel
  have hends : EndsValue ('\x7d' :: rest) := endsValue_cons (by decide) rest
  have hread := h fuel _ (by omega) hends
  have hquote : isSpace '"' = false := rfl
  have hcolon : isSpace ':' = false := rfl
  have hclose : isSpace '\x7d' = false := rfl
  simp [members?, writtenMember, skipSpace_of_not_space, hquote, hcolon, hclose,
    text?_quoted, hread]

theorem members?_intercalate (hnames : ∀ member ∈ members, member.1.isSome = true)
    (h : ∀ member ∈ members, member.2.IsReadBack) (hne : members ≠ []) (fuel : Nat)
    (hfuel :
      2 * (List.intercalate [','] (members.map writtenMember)).length + 1 ≤ fuel)
    (rest : Rest) :
    members? fuel (List.intercalate [','] (members.map writtenMember) ++
      '\x7d' :: rest) = some (members, rest) := by
  induction members generalizing fuel with
  | nil => contradiction
  | cons member members ih =>
      obtain ⟨fuel, rfl⟩ := Nat.exists_eq_add_of_le' (show 1 ≤ fuel by omega)
      obtain ⟨name, value⟩ := member
      rw [List.forall_mem_cons] at h hnames
      obtain ⟨name, rfl⟩ := Option.isSome_iff_exists.mp hnames.1
      have hvalue : value.IsReadBack := h.1
      cases members with
      | nil =>
          rw [List.map_singleton, List.intercalate_singleton] at hfuel ⊢
          exact members?_close hvalue (by omega) rest
      | cons next members =>
          rw [List.map_cons, List.map_cons, List.intercalate_cons_cons,
            ← List.map_cons] at hfuel ⊢
          rw [List.append_assoc, List.append_assoc, List.singleton_append]
          simp only [List.length_append, List.length_singleton] at hfuel
          rw [members?_comma hvalue (by omega),
            ih hnames.2 h.2 (List.cons_ne_nil _ _) fuel (by omega), Option.map_some]

theorem value?_number {number : JsonNumber} (h : number.integral = true)
    (hrest : EndsValue rest) (fuel : Nat) :
    value? (fuel + 1) (written (.number number) ++ rest) =
      some (.number number, rest) := by
  have hread : number? (written (.number number) ++ rest) = some (number, rest) :=
    number?_numberText h hrest
  obtain ⟨first, tail, heq, hfirst⟩ := written_number_begins number
  have hother : ∀ mark others, (mark = '-' || isDigit mark) = false →
      written (.number number) ++ rest ≠ mark :: others := by
    intro mark others hmark
    simp [heq, ne_of_begins_number hfirst hmark]
  rw [value?, (IsExact.number h).skipSpace_written]
  split <;>
    first
    | exact absurd ‹_› (hother _ _ (by decide))
    | rw [hread, Option.map_some]

theorem exists_intercalate_cons (text : List Char) (texts : List (List Char)) :
    ∃ others, List.intercalate [','] (text :: texts) = text ++ others := by
  cases texts with
  | nil => exact ⟨[], by simp⟩
  | cons next texts =>
      exact ⟨_, by rw [List.intercalate_cons_cons, List.append_assoc]⟩

theorem value?_items (hitems : ∀ item ∈ items, item.IsExact)
    (h : ∀ item ∈ items, item.IsReadBack) {fuel : Nat}
    (hfuel : 2 * (written (.array items)).length ≤ fuel + 1) (rest : Rest) :
    value? (fuel + 1) (written (.array items) ++ rest) =
      some (.array items, rest) := by
  rw [written_array] at hfuel ⊢
  rw [List.cons_append, List.append_assoc, List.singleton_append]
  cases items with
  | nil => rfl
  | cons item items =>
      simp only [List.length_cons, List.length_append] at hfuel
      have hread := items?_intercalate h (List.cons_ne_nil _ _) fuel (by omega) rest
      obtain ⟨first, tail, heq, hspace, hclose⟩ :=
        (hitems item List.mem_cons_self).begins
      obtain ⟨others, hothers⟩ :=
        exists_intercalate_cons item.written (items.map written)
      rw [List.map_cons, hothers, heq] at hread ⊢
      simp only [List.cons_append] at hread ⊢
      have hopen : isSpace '[' = false := rfl
      simpa [value?, skipSpace_of_not_space, hopen, hspace, hclose] using hread

theorem value?_members (hnames : ∀ member ∈ members, member.1.isSome = true)
    (h : ∀ member ∈ members, member.2.IsReadBack) {fuel : Nat}
    (hfuel : 2 * (written (.object members)).length ≤ fuel + 1) (rest : Rest) :
    value? (fuel + 1) (written (.object members) ++ rest) =
      some (.object members, rest) := by
  rw [written_object] at hfuel ⊢
  rw [List.cons_append, List.append_assoc, List.singleton_append]
  cases members with
  | nil => rfl
  | cons member members =>
      simp only [List.length_cons, List.length_append] at hfuel
      have hread :=
        members?_intercalate hnames h (List.cons_ne_nil _ _) fuel (by omega) rest
      obtain ⟨others, hothers⟩ :=
        exists_intercalate_cons (writtenMember member) (members.map writtenMember)
      rw [List.map_cons, hothers, writtenMember] at hread ⊢
      simp only [List.cons_append] at hread ⊢
      have hquote : isSpace '"' = false := rfl
      have hopen : isSpace '\x7b' = false := rfl
      simpa [value?, skipSpace_of_not_space, hquote, hopen] using hread

theorem IsExact.isReadBack (h : value.IsExact) : value.IsReadBack := by
  induction h with
  | null =>
      rintro (_ | fuel) rest hfuel hrest
      · contradiction
      · rfl
  | flag value =>
      rintro (_ | fuel) rest hfuel hrest
      · cases value <;> contradiction
      · cases value <;> rfl
  | @number value h =>
      rintro (_ | fuel) rest hfuel hrest
      · obtain ⟨first, tail, heq, -⟩ := written_number_begins value
        simp [heq] at hfuel
      · exact value?_number h hrest fuel
  | text value =>
      rintro (_ | fuel) rest hfuel hrest
      · simp [written_text] at hfuel
      · have hopen : isSpace '"' = false := rfl
        simp [written_text, value?, skipSpace_of_not_space, hopen, text?_quoted]
  | @array items h ih =>
      rintro (_ | fuel) rest hfuel hrest
      · simp [written_array] at hfuel
      · exact value?_items h ih hfuel rest
  | @object members hnames hvalues ih =>
      rintro (_ | fuel) rest hfuel hrest
      · simp [written_object] at hfuel
      · exact value?_members hnames ih hfuel rest

theorem parse?_toText (h : value.IsExact) : parse? value.toText = some value := by
  have hfuel : 2 * value.written.length ≤ 2 * value.toText.length + 2 := by
    rw [written, String.length_toList]
    omega
  have hread := h.isReadBack _ [] hfuel (by simp [EndsValue])
  rw [List.append_nil] at hread
  rw [parse?, ← written, hread]
  rfl

end EndpointDiscovery.Json
