import EndpointDiscovery.Certificate.Pem
import EndpointDiscovery.Proofs.Bytes.Base64RoundTrip
import EndpointDiscovery.Proofs.Text.Cut
import EndpointDiscovery.Proofs.Text.Utf8RoundTrip

/-!
# The text form of certificates read back

The text that is written for a certificate is read line by line as that certificate,
also without its last line feed.
-/

namespace EndpointDiscovery.Pem

variable {line rest input : List UInt8}

/-! ## Lines -/

/-- A line of printable characters that is short enough not to be cut, and that does
not end with a blank. -/
structure IsPlainLine (line : List UInt8) : Prop where
  short : line.length < lineLimit
  printable : ∀ byte ∈ line, 0x20 ≤ byte ∧ byte < 0x80
  last : ∀ byte, line.getLast? = some byte → 0x20 < byte

theorem IsPlainLine.takeWhile (h : IsPlainLine line) (rest : List UInt8) :
    (line ++ rest).takeWhile (· ≠ 0x0A) = line ++ rest.takeWhile (· ≠ 0x0A) := by
  refine List.takeWhile_append_of_pos fun byte hmem => ?_
  have hle := (h.printable byte hmem).1
  have hne : byte ≠ 0x0A := by
    rintro rfl
    exact absurd hle (by decide)
  simpa using hne

theorem IsPlainLine.splitLine_feed (h : IsPlainLine line) (rest : List UInt8) :
    splitLine (line ++ 0x0A :: rest) = (line ++ [0x0A], rest) := by
  have hshort := h.short
  have hstart : (line ++ 0x0A :: rest).take lineLimit =
      line ++ 0x0A :: rest.take (lineLimit - line.length - 1) := by
    obtain ⟨room, hroom⟩ := Nat.exists_eq_add_of_lt hshort
    rw [List.take_append, List.take_of_length_le (Nat.le_of_lt hshort), hroom,
      show line.length + room + 1 - line.length = room + 1 by omega,
          List.take_succ_cons,
      Nat.add_sub_cancel]
  have hlength :
      ((line ++ 0x0A :: rest.take (lineLimit - line.length - 1)).takeWhile
      (· ≠ 0x0A)).length = line.length := by
    rw [h.takeWhile]
    simp
  have hmin : min (line.length + 1)
      (line ++ 0x0A :: rest.take (lineLimit - line.length - 1)).length =
        (line ++ [0x0A]).length := by
    simp only [List.length_append, List.length_cons, List.length_nil]
    omega
  have happend : line ++ 0x0A :: rest = (line ++ [0x0A]) ++ rest := by simp
  simp only [splitLine, hstart, hlength, hmin]
  rw [happend, List.take_left, List.drop_left]

theorem IsPlainLine.splitLine_last (h : IsPlainLine line) :
    splitLine line = (line, []) := by
  have hstart : line.take lineLimit = line :=
    List.take_of_length_le (Nat.le_of_lt h.short)
  have hline : line.takeWhile (· ≠ 0x0A) = line := by
    simpa using h.takeWhile []
  simp only [splitLine, hstart, hline]
  rw [Nat.min_eq_right (Nat.le_succ _), List.take_length, List.drop_length]

theorem IsPlainLine.stripLine_append (h : IsPlainLine line) {blanks : List UInt8}
    (hblanks : ∀ byte ∈ blanks, byte ≤ 0x20) :
    stripLine (line ++ blanks) = line := by
  have hdropped :
      (line ++ blanks).reverse.dropWhile (fun byte => byte ≤ 0x20 || 0x80 ≤ byte) =
      line.reverse := by
    have hdrop : ∀ byte ∈ blanks.reverse,
        (byte ≤ 0x20 || 0x80 ≤ byte : Bool) = true := by
      intro byte hmem
      simp [hblanks byte (List.mem_reverse.mp hmem)]
    rw [List.reverse_append, List.dropWhile_append_of_pos hdrop]
    cases hreverse : line.reverse with
    | nil => rfl
    | cons last front =>
        have hlast : line.getLast? = some last := by
          rw [← List.head?_reverse, hreverse, List.head?_cons]
        have hmem := List.mem_of_mem_getLast? hlast
        have hlow := h.last last hlast
        have hhigh := (h.printable last hmem).2
        refine List.dropWhile_cons_of_neg ?_
        simp only [Bool.or_eq_true, decide_eq_true_eq, not_or, UInt8.not_le]
        exact ⟨hlow, hhigh⟩
  rw [stripLine, hdropped, List.reverse_reverse]

theorem length_splitLine_lt (h : input ≠ []) :
    (splitLine input).2.length < input.length := by
  have hpos := List.length_pos_iff.mpr h
  simp only [splitLine, List.length_drop, List.length_take, lineLimit]
  omega

def firstLine (input : List UInt8) : Line :=
  ⟨stripLine (splitLine input).1, (splitLine input).1.length = lineLimit &&
    (splitLine input).1.getLast? ≠ some 0x0A⟩

theorem linesWithin_succ (h : input ≠ []) (fuel : Nat) :
    linesWithin (fuel + 1) input = firstLine input ::
    linesWithin fuel (splitLine input).2 := by
  rw [linesWithin]
  · rfl
  · exact h

theorem linesWithin_eq {fuel : Nat} (h : input.length ≤ fuel) :
    linesWithin fuel input = lines input := by
  induction hlength :
    input.length using Nat.strongRecOn generalizing input fuel with
  | ind length ih =>
      subst hlength
      cases input with
      | nil => cases fuel <;> rfl
      | cons first input =>
          obtain ⟨fuel, rfl⟩ := Nat.exists_eq_add_of_le' (Nat.zero_lt_of_lt h)
          have hne := List.cons_ne_nil first input
          have hshort := length_splitLine_lt hne
          rw [List.length_cons] at h hshort
          rw [lines, List.length_cons, linesWithin_succ hne, linesWithin_succ hne,
            ih _ hshort (by omega) rfl, ih _ hshort (by omega) rfl]

theorem lines_eq_cons (h : input ≠ []) :
    lines input = firstLine input :: lines (splitLine input).2 := by
  obtain ⟨first, input, rfl⟩ := List.exists_cons_of_ne_nil h
  have hshort := length_splitLine_lt h
  rw [List.length_cons] at hshort
  rw [lines, List.length_cons, linesWithin_succ h, linesWithin_eq (by omega)]

theorem IsPlainLine.lines_feed (h : IsPlainLine line) (rest : List UInt8) :
    lines (line ++ 0x0A :: rest) = ⟨line, false⟩ :: lines rest := by
  rw [lines_eq_cons (by simp), firstLine, h.splitLine_feed,
    h.stripLine_append (by simp)]
  simp

theorem IsPlainLine.lines_last (h : IsPlainLine line) (hne : line ≠ []) :
    lines line = [⟨line, false⟩] := by
  have hstrip : stripLine line = line := by
    have hnone : ∀ byte ∈ ([] : List UInt8), byte ≤ 0x20 := by simp
    simpa using h.stripLine_append hnone
  rw [lines_eq_cons hne, firstLine, h.splitLine_last, hstrip]
  simp [Nat.ne_of_lt h.short, lines, linesWithin]

/-! ## Blocks -/

def feed (lines : List (List UInt8)) : List UInt8 :=
  lines.flatMap (· ++ [0x0A])

theorem dropStart?_endMark {text : List UInt8} (hne : text ≠ [])
    (h : text.head? ≠ some 0x2D) :
    Text.dropStart? endMark text = none := by
  have hmark : endMark = 0x2D :: endMark.tail := by decide +kernel
  obtain ⟨first, text, rfl⟩ := List.exists_cons_of_ne_nil hne
  rw [hmark, Text.dropStart?, if_neg fun heq => h (by rw [← heq]; rfl)]

structure IsTextLine (text : List UInt8) : Prop where
  ne_nil : text ≠ []
  colon : 0x3A ∉ text
  hyphen : text.head? ≠ some 0x2D

theorem IsTextLine.closedBlock?_cons {text : List UInt8} (h : IsTextLine text)
    (label before : List UInt8) (rest : List Line) :
    closedBlock? label { text := before } (⟨text, false⟩ :: rest) =
      closedBlock? label { text := before ++ (text ++ [0x0A]) } rest := by
  have hempty : text.isEmpty = false := by simp [h.ne_nil]
  rw [closedBlock?]
  simp [hempty, h.colon, dropStart?_endMark h.ne_nil h.hyphen, Body.addText?]

theorem closedBlock?_append (label : List UInt8) {texts : List (List UInt8)}
    (h : ∀ text ∈ texts, IsTextLine text) (before : List UInt8) (rest : List Line) :
    closedBlock? label { text := before } (texts.map (⟨·, false⟩) ++ rest) =
      closedBlock? label { text := before ++ feed texts } rest := by
  induction texts generalizing before with
  | nil => simp [feed]
  | cons text texts ih =>
      rw [List.forall_mem_cons] at h
      rw [List.map_cons, List.cons_append, h.1.closedBlock?_cons, ih h.2,
        List.append_assoc]
      rfl

def certificateLabel : List UInt8 := asciiBytes "CERTIFICATE"

def beginLine : List UInt8 := beginMark ++ certificateLabel ++ closing

def endLine : List UInt8 := endMark ++ certificateLabel ++ closing

theorem label?_beginLine : label? beginLine = some certificateLabel := by
  decide +kernel

theorem closedBlock?_endLine (text : List UInt8) :
    closedBlock? certificateLabel { text := text } [⟨endLine, false⟩] =
      some (⟨certificateLabel, [], text⟩, []) := by
  have hempty : endLine.isEmpty = false := by decide +kernel
  have hcolon : 0x3A ∉ endLine := by decide +kernel
  have hmark : Text.dropStart? endMark endLine =
      some (certificateLabel ++ closing) := by
    rw [Text.dropStart?_eq_some_iff, endLine, List.append_assoc]
  rw [closedBlock?]
  simp [hempty, hcolon, hmark, Body.close?]

theorem nextBlock_certificate {texts : List (List UInt8)}
    (h : ∀ text ∈ texts, IsTextLine text) :
    nextBlock
      (⟨beginLine, false⟩ :: (texts.map (⟨·, false⟩) ++ [⟨endLine, false⟩])) =
      .read ⟨certificateLabel, [], feed texts⟩ [] := by
  have hclosed := closedBlock?_append certificateLabel h [] [⟨endLine, false⟩]
  rw [List.nil_append, closedBlock?_endLine] at hclosed
  simp only [nextBlock, label?_beginLine, hclosed]

/-! ## Lines of base64 -/

def byteOf (character : Char) : UInt8 := UInt8.ofNat character.toNat

theorem byteOf_of_mem_encode (bytes : List UInt8) :
    ∀ character ∈ Base64.encode bytes,
    0x20 < byteOf character ∧ byteOf character < 0x80 ∧ byteOf character ≠ 0x3A ∧
      byteOf character ≠ 0x2D ∧ Char.ofNat (byteOf character).toNat = character :=
  Base64.forall_mem_encode (by decide +kernel) (by decide +kernel) bytes

structure IsPiece (text piece : List Char) : Prop where
  ne_nil : piece ≠ []
  short : piece.length ≤ 64
  subset : piece ⊆ text

theorem exists_wrap {fuel : Nat} {text : List Char} (h : text.length ≤ fuel) :
    ∃ pieces : List (List Char), wrap fuel text = pieces.flatMap (· ++ ['\n']) ∧
      pieces.flatten = text ∧ ∀ piece ∈ pieces, IsPiece text piece := by
  induction fuel generalizing text with
  | zero =>
      obtain rfl := List.eq_nil_of_length_eq_zero (Nat.le_zero.mp h)
      exact ⟨[], rfl, rfl, by simp⟩
  | succ fuel ih =>
      cases text with
      | nil => exact ⟨[], rfl, rfl, by simp⟩
      | cons first text =>
          have hrest : ((first :: text).drop 64).length ≤ fuel := by
            rw [List.length_cons] at h
            rw [List.length_drop, List.length_cons]
            omega
          obtain ⟨pieces, hwrap, hflatten, hpieces⟩ := ih hrest
          refine ⟨(first :: text).take 64 :: pieces, ?_, ?_, ?_⟩
          · rw [wrap, hwrap]
            · simp
            · simp
          · rw [List.flatten_cons, hflatten, List.take_append_drop]
          · rw [List.forall_mem_cons]
            refine ⟨⟨by simp, List.length_take_le _ _, List.take_subset _ _⟩,
              fun piece hmem => ?_⟩
            have hpiece := hpieces piece hmem
            exact ⟨hpiece.ne_nil, hpiece.short, fun _ hmem =>
              List.mem_of_mem_drop (hpiece.subset hmem)⟩

variable {bytes : List UInt8} {piece : List Char} {pieces : List (List Char)}

theorem forall_mem_pieces {text : List Char}
    (hpieces : ∀ piece ∈ pieces, IsPiece text piece) {holds : Char → Prop}
    (htext : ∀ character ∈ text, holds character) (hfeed : holds '\n') :
    ∀ character ∈ pieces.flatMap (· ++ ['\n']), holds character := by
  intro character hmem
  obtain ⟨piece, hpiece, hmem⟩ := List.mem_flatMap.mp hmem
  rcases List.mem_append.mp hmem with hmem | hmem
  · exact htext character ((hpieces piece hpiece).subset hmem)
  · rw [List.mem_singleton.mp hmem]
    exact hfeed

theorem map_byteOf_pieces (pieces : List (List Char)) :
    (pieces.flatMap (· ++ ['\n'])).map byteOf =
      feed (pieces.map (·.map byteOf)) := by
  rw [feed, List.flatMap_map, List.map_flatMap]
  exact List.flatMap_congr fun piece _ => List.map_append

theorem IsPiece.isTextLine (h : IsPiece (Base64.encode bytes) piece) :
    IsTextLine (piece.map byteOf) where
  ne_nil := by simpa using h.ne_nil
  colon := by
    intro hmem
    obtain ⟨character, hcharacter, heq⟩ := List.mem_map.mp hmem
    exact (byteOf_of_mem_encode bytes character (h.subset hcharacter)).2.2.1 heq
  hyphen := by
    intro hhead
    obtain ⟨character, hcharacter, heq⟩ :=
      List.mem_map.mp (List.mem_of_mem_head? hhead)
    exact (byteOf_of_mem_encode bytes character (h.subset hcharacter)).2.2.2.1 heq

theorem IsPiece.isPlainLine (h : IsPiece (Base64.encode bytes) piece) :
    IsPlainLine (piece.map byteOf) where
  short := by
    rw [List.length_map]
    exact Nat.lt_of_le_of_lt h.short (by decide)
  printable := by
    rw [List.forall_mem_map]
    intro character hmem
    obtain ⟨hlow, hhigh, -⟩ := byteOf_of_mem_encode bytes character (h.subset hmem)
    exact ⟨UInt8.le_of_lt hlow, hhigh⟩
  last := by
    intro byte hlast
    obtain ⟨character, hmem, rfl⟩ :=
      List.mem_map.mp (List.mem_of_mem_getLast? hlast)
    exact (byteOf_of_mem_encode bytes character (h.subset hmem)).1

theorem lines_feed_append {texts : List (List UInt8)}
    (h : ∀ text ∈ texts, IsPlainLine text) (rest : List UInt8) :
    lines (feed texts ++ rest) = texts.map (⟨·, false⟩) ++ lines rest := by
  induction texts with
  | nil => rfl
  | cons text texts ih =>
      rw [List.forall_mem_cons] at h
      have hfeed : feed (text :: texts) ++ rest =
          text ++ 0x0A :: (feed texts ++ rest) := by
        simp [feed]
      rw [hfeed, h.1.lines_feed, ih h.2]
      rfl

/-! ## Certificates -/

def core (certificate : Certificate) : List Char :=
  let text := Base64.encode certificate.der
  "-----BEGIN CERTIFICATE-----\n".toList ++
    (wrap text.length text ++ "-----END CERTIFICATE-----".toList)

theorem toList_encode (certificate : Certificate) :
    (encode certificate).toList = core certificate ++ ['\n'] := by
  have hend : "-----END CERTIFICATE-----\n".toList =
      "-----END CERTIFICATE-----".toList ++ ['\n'] := by decide +kernel
  have hwrap : ∀ text : List Char, (String.ofList text).toList = text :=
    fun _ => String.toList_ofList
  unfold encode core
  dsimp only
  rw [String.toList_append, String.toList_append, hwrap (wrap _ _), hend,
    List.append_assoc, List.append_assoc, List.append_assoc]

theorem isPlainLine_beginLine : IsPlainLine beginLine :=
  ⟨by decide +kernel, by decide +kernel, by decide +kernel⟩

theorem isPlainLine_endLine : IsPlainLine endLine :=
  ⟨by decide +kernel, by decide +kernel, by decide +kernel⟩

theorem asciiText_feed
    (hpieces : ∀ piece ∈ pieces, IsPiece (Base64.encode bytes) piece) :
    asciiText (feed (pieces.map (·.map byteOf))) =
      pieces.flatMap (· ++ ['\n']) := by
  have hback : ∀ character ∈ pieces.flatMap (· ++ ['\n']),
      Char.ofNat (byteOf character).toNat = character :=
    forall_mem_pieces hpieces (fun character hmem =>
      (byteOf_of_mem_encode bytes character hmem).2.2.2.2) (by decide)
  rw [← map_byteOf_pieces, asciiText, List.map_map]
  exact (List.map_congr_left hback).trans (List.map_id _)

theorem stream?_pieces
    (hpieces : ∀ piece ∈ pieces, IsPiece (Base64.encode bytes) piece)
    (hflatten : pieces.flatten = Base64.encode bytes) :
    Base64.stream? (pieces.flatMap (· ++ ['\n'])) = some bytes := by
  have hencoded : ∀ character ∈ Base64.encode bytes,
      character ∉ ['\t', '\n', '\r', ' '] :=
    Base64.forall_mem_encode (by decide) (by decide) bytes
  refine Base64.stream?_of_filter ?_ ?_
  · intro hmem
    exact forall_mem_pieces hpieces (Base64.ne_hyphen_of_mem_encode bytes)
      (by decide) _ hmem rfl
  · rw [List.filter_flatMap, ← hflatten, List.flatten_eq_flatMap]
    refine List.flatMap_congr fun piece hmem => ?_
    have hkept : piece.filter (· ∉ ['\t', '\n', '\r', ' ']) = piece := by
      rw [List.filter_eq_self]
      intro character hcharacter
      exact decide_eq_true
        (hencoded character ((hpieces piece hmem).subset hcharacter))
    rw [List.filter_append, hkept]
    simp

theorem data?_feed (hne : bytes ≠ [])
    (hpieces : ∀ piece ∈ pieces, IsPiece (Base64.encode bytes) piece)
    (hflatten : pieces.flatten = Base64.encode bytes) (label : List UInt8) :
    Block.data? ⟨label, [], feed (pieces.map (·.map byteOf))⟩ = some bytes := by
  obtain ⟨first, rest, rfl⟩ := List.exists_cons_of_ne_nil hne
  rw [Block.data?, asciiText_feed hpieces, stream?_pieces hpieces hflatten]

theorem encode_core {certificate : Certificate}
    (hwrap :
      wrap (Base64.encode certificate.der).length (Base64.encode certificate.der) =
      pieces.flatMap (· ++ ['\n']))
    (hpieces : ∀ piece ∈ pieces, IsPiece (Base64.encode certificate.der) piece) :
    Text.Utf8.encode (core certificate) =
      beginLine ++ 0x0A :: (feed (pieces.map (·.map byteOf)) ++ endLine) := by
  have hcore : core certificate = "-----BEGIN CERTIFICATE-----\n".toList ++
      (pieces.flatMap (· ++ ['\n']) ++ "-----END CERTIFICATE-----".toList) := by
    rw [← hwrap]
    rfl
  have hascii : ∀ character ∈ core certificate, character.toNat < 0x80 := by
    have htext : ∀ character ∈ pieces.flatMap (· ++ ['\n']),
        character.toNat < 0x80 :=
      forall_mem_pieces hpieces (Base64.forall_mem_encode (by decide) (by decide) _)
        (by decide)
    rw [hcore, List.forall_mem_append, List.forall_mem_append]
    exact ⟨by simp, htext, by simp⟩
  have hencode : Text.Utf8.encode (core certificate) =
      (core certificate).map byteOf :=
    Text.Utf8.encode_of_ascii hascii
  have hbegin : "-----BEGIN CERTIFICATE-----\n".toList.map byteOf =
      beginLine ++ [0x0A] := by
    decide +kernel
  have hend : "-----END CERTIFICATE-----".toList.map byteOf = endLine := by
    decide +kernel
  rw [hencode, hcore, List.map_append, List.map_append, map_byteOf_pieces,
    hbegin, hend, List.append_assoc]
  rfl

theorem certificate?_core {certificate : Certificate}
    (h : Certificate.ofDer? certificate.der = some certificate) :
    certificate? (Text.Utf8.encode (core certificate)) = some certificate := by
  -- The pieces of the base64 text are the lines between the first one and
  -- the last one.
  obtain ⟨pieces, hwrap, hflatten, hpieces⟩ :=
    exists_wrap (Nat.le_refl (Base64.encode certificate.der).length)
  have hplain : ∀ text ∈ pieces.map (·.map byteOf), IsPlainLine text := by
    rw [List.forall_mem_map]
    exact fun piece hmem => (hpieces piece hmem).isPlainLine
  have htext : ∀ text ∈ pieces.map (·.map byteOf), IsTextLine text := by
    rw [List.forall_mem_map]
    exact fun piece hmem => (hpieces piece hmem).isTextLine
  have hlines : lines (Text.Utf8.encode (core certificate)) = ⟨beginLine, false⟩ ::
      ((pieces.map (·.map byteOf)).map (⟨·, false⟩) ++ [⟨endLine, false⟩]) := by
    rw [encode_core hwrap hpieces, isPlainLine_beginLine.lines_feed,
      lines_feed_append hplain, isPlainLine_endLine.lines_last (by decide +kernel)]
  have hne : certificate.der ≠ [] := by simp [Certificate.der, Asn1.encode]
  have hdata := data?_feed hne hpieces hflatten certificateLabel
  have hlabel : certificateLabel ∈ certificateLabels := by decide +kernel
  rw [certificate?, nextCertificate, hlines, List.length_cons,
    nextCertificateWithin]
  simp only [nextBlock_certificate htext, hdata, hlabel, if_true, h,
    List.isEmpty_nil]

theorem exists_of_nextCertificateWithin {fuel : Nat} {lines rest : List Line}
    {certificate : Certificate}
    (h : nextCertificateWithin fuel lines = .read certificate rest) :
    ∃ bytes, Certificate.ofDer? bytes = some certificate := by
  fun_induction nextCertificateWithin fuel lines with
  | case1 => cases h
  | case2 => cases h
  | case3 => cases h
  | case4 => cases h
  | case5 _ _ _ _ _ data _ _ _ hread =>
      cases h
      exact ⟨data, hread⟩
  | case6 => cases h
  | case7 => cases h
  | case8 _ _ _ _ _ _ _ _ ih => exact ih h

theorem exists_of_certificate? {input : List UInt8} {certificate : Certificate}
    (h : certificate? input = some certificate) :
    ∃ bytes, Certificate.ofDer? bytes = some certificate := by
  unfold certificate? at h
  split at h
  · rename_i read rest hread
    cases h
    exact exists_of_nextCertificateWithin hread
  · cases h

end EndpointDiscovery.Pem
