import Slight.Acp.Client
import Slight.Support.Utf8

/-!
# Slight.Acp.Framing

The bytes under the lines: `FrameWriter` puts one newline after a frame, and
`FrameReader` reads up to a newline, bounds the line, strips its line ending and skips
it if nothing is left.

The bound is on the line with its ending.  What the writer writes is always within it,
but the carriage returns that others put in are not.
-/

namespace Slight

namespace Acp

open Support

/-- What both sides strip off the end of a line: `\n` and `\r`. -/
def isLineEnd (byte : UInt8) : Bool :=
  byte == 10 || byte == 13

def isLineEndChar (c : Char) : Bool :=
  c == '\n' || c == '\r'

namespace FrameReader

/-- The bytes up to a newline and with it, or to the end, and what is left. -/
def readLine : List UInt8 → List UInt8 × List UInt8
  | [] => ([], [])
  | byte :: rest =>
      if byte = 10 then ([byte], rest)
      else (byte :: (readLine rest).1, (readLine rest).2)

theorem readLine_append (input : List UInt8) :
    (readLine input).1 ++ (readLine input).2 = input := by
  induction input with
  | nil => rfl
  | cons byte rest ih =>
      rw [readLine]
      split
      · rfl
      · rw [List.cons_append, ih]

/-- The next frame that is not empty, and what is left to read. -/
def readFrame (input : List UInt8) : Except WireError (Option String) × List UInt8 :=
  if _ : (readLine input).1 = [] then (.ok none, (readLine input).2)
  else
    match fromUtf8? (readLine input).1 with
    -- `read_line` refuses bytes that are no text
    | none => (.error .io, (readLine input).2)
    | some line =>
        if maxFrameBytes < line.utf8ByteSize then
          (.error (.malformed ("frame exceeds " ++ toString maxFrameBytes ++ " bytes")),
            (readLine input).2)
        else if (trimmed line).isEmpty then readFrame (readLine input).2
        else (.ok (some (trimmed line)), (readLine input).2)
termination_by input.length
decreasing_by
  have hlength := congrArg List.length (readLine_append input)
  rw [List.length_append] at hlength
  have hpos := List.length_pos_of_ne_nil ‹_›
  omega

/-- Reading one frame after the other, and then the end of the stream. -/
def Reads : List UInt8 → List (List UInt8) → Prop
  | input, [] => readFrame input = (.ok none, [])
  | input, frame :: frames =>
      ∃ text rest, readFrame input = (.ok (some text), rest) ∧ utf8 text.toList = frame ∧
        Reads rest frames

end FrameReader

namespace FrameWriter

/-- Where the loop of `write_encoded` stops. -/
def bodyEnd (frame : List UInt8) : Nat → Nat
  | 0 => 0
  | last + 1 => if isLineEnd (frame.getD last 0) then bodyEnd frame last else last + 1

/-- The bytes that are written for a frame. -/
def writeEncoded (frame : List UInt8) : List UInt8 :=
  frame.take (bodyEnd frame frame.length) ++ [10]

end FrameWriter

/-- A frame without its trailing carriage returns and newlines. -/
def unterminated (frame : List UInt8) : List UInt8 :=
  frame.rdropWhile isLineEnd

theorem utf8_rdropWhile_lineEnd (chars : List Char) :
    unterminated (utf8 chars) = utf8 (chars.rdropWhile isLineEndChar) := by
  apply utf8_rdropWhile
  · intro byte hbyte
    rw [isLineEnd, Bool.or_eq_true, beq_iff_eq, beq_iff_eq] at hbyte
    rcases hbyte with rfl | rfl <;> decide
  · intro c
    rw [isLineEndChar, Bool.or_eq_true, beq_iff_eq, beq_iff_eq]
    constructor
    · rintro (rfl | rfl)
      · exact ⟨10, by decide, rfl⟩
      · exact ⟨13, by decide, rfl⟩
    · rintro ⟨byte, hencode, hend⟩
      rw [isLineEnd, Bool.or_eq_true, beq_iff_eq, beq_iff_eq] at hend
      rcases hend with rfl | rfl
      · exact .inl (utf8EncodeChar_injective hencode)
      · exact .inr (utf8EncodeChar_injective hencode)

/-! ## the writer -/

theorem take_bodyEnd (frame : List UInt8) (n : Nat) (hn : n ≤ frame.length) :
    frame.take (FrameWriter.bodyEnd frame n) = (frame.take n).rdropWhile isLineEnd := by
  induction n with
  | zero => rfl
  | succ last ih =>
      have hlast : last < frame.length := hn
      have htake : frame.take (last + 1) = frame.take last ++ [frame.getD last 0] := by
        rw [List.take_add_one, List.getD_eq_getElem?_getD, List.getElem?_eq_getElem hlast]
        rfl
      rw [FrameWriter.bodyEnd]
      split
      · next hend => rw [ih hlast.le, htake, List.rdropWhile_concat_pos _ _ _ hend]
      · next hend => rw [htake, List.rdropWhile_concat_neg _ _ _ hend]

theorem writeEncoded_eq (frame : List UInt8) :
    FrameWriter.writeEncoded frame = unterminated frame ++ [10] := by
  rw [FrameWriter.writeEncoded, take_bodyEnd frame frame.length le_rfl, List.take_length,
    unterminated]

/-! ## the reader -/

namespace FrameReader

theorem readLine_newline {body : List UInt8} (rest : List UInt8) (hbody : 10 ∉ body) :
    readLine (body ++ 10 :: rest) = (body ++ [10], rest) := by
  induction body with
  | nil => rfl
  | cons byte body ih =>
      rw [List.mem_cons, not_or] at hbody
      rw [List.cons_append, readLine, if_neg (Ne.symm hbody.1), ih hbody.2]
      rfl

theorem trimmed_newline {line : String} {body : List Char} (hline : line.toList = body ++ ['\n']) :
    trimmed line = String.ofList (body.rdropWhile isLineEndChar) := by
  rw [trimmed, hline, List.rdropWhile_concat_pos _ _ _ (by rfl)]
  rfl

theorem readFrame_nil : readFrame [] = (.ok none, []) := by
  rw [readFrame]
  rfl

/-- What a line that ends with a newline is read as. -/
theorem readFrame_line {body : List Char} (rest : List UInt8) (hbody : 10 ∉ utf8 body) :
    readFrame (utf8 body ++ 10 :: rest) =
      if maxFrameBytes < (utf8 body).length + 1 then
        (.error (.malformed ("frame exceeds " ++ toString maxFrameBytes ++ " bytes")), rest)
      else if body.rdropWhile isLineEndChar = [] then readFrame rest
      else (.ok (some (String.ofList (body.rdropWhile isLineEndChar))), rest) := by
  have hline : utf8 body ++ [10] = utf8 (body ++ ['\n']) := by
    rw [utf8_append]
    rfl
  rw [readFrame, readLine_newline rest hbody, dif_neg (by simp), hline, fromUtf8?_utf8]
  dsimp only
  rw [← length_utf8, ← hline, List.length_append, trimmed_newline (String.toList_ofList)]
  simp

end FrameReader

/-! ## the client reads the same lines -/

/-- A line of the stream: characters and a newline. -/
structure EndsLine (line : String) : Prop where
  line_eq : ∃ body, '\n' ∉ body ∧ line.toList = body ++ ['\n']

/-- The bytes of some lines. -/
def streamOf (lines : List String) : List UInt8 :=
  lines.flatMap fun line => utf8 line.toList

theorem newline_mem_utf8 {body : List Char} : 10 ∈ utf8 body ↔ '\n' ∈ body :=
  mem_utf8_iff (by decide) (by decide)

/-- **The lines of the client are the lines of the stream**: to read bytes is to read the
lines they hold. -/
theorem readFrame_streamOf (lines : List String) (hlines : ∀ line ∈ lines, EndsLine line) :
    FrameReader.readFrame (streamOf lines) =
      ((readFrame lines).1, streamOf (readFrame lines).2) := by
  induction lines with
  | nil =>
      rw [streamOf, List.flatMap_nil, FrameReader.readFrame_nil]
      rfl
  | cons line rest ih =>
      obtain ⟨body, hbody, hline⟩ := (hlines line List.mem_cons_self).line_eq
      have hstream : streamOf (line :: rest) = utf8 body ++ 10 :: streamOf rest := by
        rw [streamOf, List.flatMap_cons, hline, utf8_append, List.append_assoc]
        rfl
      have hsize : line.utf8ByteSize = (utf8 body).length + 1 := by
        rw [← String.ofList_toList (s := line), ← length_utf8, hline, utf8_append,
          List.length_append]
        rfl
      rw [hstream, FrameReader.readFrame_line _ (newline_mem_utf8.not.mpr hbody), readFrame, hsize,
        FrameReader.trimmed_newline hline]
      have hrest := ih fun other hother => hlines other (List.mem_cons_of_mem _ hother)
      by_cases hlong : maxFrameBytes < (utf8 body).length + 1
      · rw [if_pos hlong, if_pos hlong]
      · rw [if_neg hlong, if_neg hlong]
        by_cases hblank : body.rdropWhile isLineEndChar = []
        · rw [if_pos hblank, hblank, hrest]
          rfl
        · rw [if_neg hblank, if_neg (by simpa using hblank)]

/-! ## frames and streams -/

/-- A frame that may be written: text on one line, not empty once its end is stripped,
and below the bound. -/
structure IsFrame (frame : List UInt8) : Prop where
  isValidUtf8 : frame.toByteArray.IsValidUTF8
  noNewline : 10 ∉ frame
  full : unterminated frame ≠ []
  short : frame.length < maxFrameBytes

/-- A line of a stream: a frame as it was written, a frame whose line ends with `\r\n`,
or a line of carriage returns only. -/
inductive StreamLine where
  | written (frame : List UInt8)
  | crlf (frame : List UInt8)
  | blank (returns : Nat)

namespace StreamLine

def bytes : StreamLine → List UInt8
  | written frame => FrameWriter.writeEncoded frame
  | crlf frame => (FrameWriter.writeEncoded frame).dropLast ++ [13, 10]
  | blank returns => List.replicate returns 13 ++ [10]

def frame? : StreamLine → Option (List UInt8)
  | written frame | crlf frame => some frame
  | blank _ => none

/-- A line that others made is within the bound, its ending included. -/
def Fits : StreamLine → Prop
  | written _ => True
  | crlf frame => (crlf frame).bytes.length ≤ maxFrameBytes
  | blank returns => (blank returns).bytes.length ≤ maxFrameBytes

end StreamLine

/-- The frames that a stream holds. -/
def framesOf (lines : List StreamLine) : List (List UInt8) :=
  lines.filterMap StreamLine.frame?

theorem length_writeEncoded_le {frame : List UInt8} (hframe : IsFrame frame) :
    (FrameWriter.writeEncoded frame).length ≤ maxFrameBytes := by
  have hprefix := (List.rdropWhile_prefix isLineEnd (l := frame)).length_le
  rw [writeEncoded_eq, List.length_append, unterminated, List.length_singleton]
  have hshort := hframe.short
  omega

theorem StreamLine.fits_iff {line : StreamLine}
    (hframe : ∀ frame, line.frame? = some frame → IsFrame frame) :
    line.Fits ↔ line.bytes.length ≤ maxFrameBytes := by
  cases line with
  | written frame => exact iff_of_true trivial (length_writeEncoded_le (hframe frame rfl))
  | crlf frame => rfl
  | blank returns => rfl

/-- A stripped frame is the text of characters that do not end a line. -/
theorem IsFrame.exists_chars {frame : List UInt8} (h : IsFrame frame) :
    ∃ chars, unterminated frame = utf8 chars ∧ 10 ∉ utf8 chars ∧
      chars.rdropWhile isLineEndChar = chars := by
  obtain ⟨chars, rfl⟩ := exists_utf8_of_isValidUTF8 h.isValidUtf8
  have hchars := utf8_rdropWhile_lineEnd chars
  refine ⟨chars.rdropWhile isLineEndChar, hchars, ?_, List.rdropWhile_idempotent _ _⟩
  rw [← hchars]
  exact fun hmem => h.noNewline ((List.rdropWhile_prefix _ _).subset hmem)

/-- The characters before the newline of a line, and what is left of them. -/
theorem StreamLine.exists_body {line : StreamLine}
    (hframe : ∀ frame, line.frame? = some frame → IsFrame frame) :
    ∃ body, 10 ∉ utf8 body ∧ line.bytes = utf8 body ++ [10] ∧
      utf8 (body.rdropWhile isLineEndChar) = (line.frame?.map unterminated).getD [] := by
  cases line with
  | written frame =>
      obtain ⟨chars, hchars, hnewline, hend⟩ := (hframe frame rfl).exists_chars
      refine ⟨chars, hnewline, ?_, ?_⟩
      · rw [bytes, writeEncoded_eq, hchars]
      · rw [hend, frame?, Option.map_some, Option.getD_some, hchars]
  | crlf frame =>
      obtain ⟨chars, hchars, hnewline, hend⟩ := (hframe frame rfl).exists_chars
      refine ⟨chars ++ ['\r'], ?_, ?_, ?_⟩
      · rw [utf8_append, List.mem_append, not_or]
        exact ⟨hnewline, by decide⟩
      · rw [bytes, writeEncoded_eq, hchars, List.dropLast_concat, utf8_append, List.append_assoc]
        rfl
      · rw [List.rdropWhile_concat_pos _ _ _ (by rfl), hend, frame?, Option.map_some,
          Option.getD_some, hchars]
  | blank returns =>
      refine ⟨List.replicate returns '\r', ?_, ?_, ?_⟩
      · rw [newline_mem_utf8, List.mem_replicate]
        exact fun h => absurd h.2 (by decide)
      · rw [bytes, utf8_replicate (show String.utf8EncodeChar '\r' = [13] by decide)]
      · rw [List.rdropWhile_eq_nil_iff.mpr ?_]
        · rfl
        · intro c hc
          rw [List.eq_of_mem_replicate hc]
          rfl

namespace FrameReader

/-- A line that is too long ends the reading with an error. -/
theorem not_reads_of_long {line : StreamLine} {rest : List UInt8} {frames : List (List UInt8)}
    (hframe : ∀ frame, line.frame? = some frame → IsFrame frame)
    (hlong : maxFrameBytes < line.bytes.length) : ¬ Reads (line.bytes ++ rest) frames := by
  obtain ⟨body, hbody, hbytes, -⟩ := StreamLine.exists_body hframe
  rw [hbytes, List.length_append, List.length_singleton] at hlong
  have hread := readFrame_line rest hbody
  rw [if_pos hlong, List.append_cons, ← hbytes] at hread
  cases frames with
  | nil =>
      rw [Reads, hread]
      exact fun h => nomatch congrArg Prod.fst h
  | cons frame frames =>
      rw [Reads, hread]
      rintro ⟨text, left, h, -⟩
      exact nomatch congrArg Prod.fst h

/-- A line within the bound is read as the frame it holds, or skipped. -/
theorem reads_of_short {line : StreamLine} {rest : List UInt8} {frames : List (List UInt8)}
    (hframe : ∀ frame, line.frame? = some frame → IsFrame frame)
    (hshort : line.bytes.length ≤ maxFrameBytes) :
    Reads (line.bytes ++ rest) (line.frame?.toList.map unterminated ++ frames) ↔
      Reads rest frames := by
  obtain ⟨body, hbody, hbytes, hleft⟩ := StreamLine.exists_body hframe
  rw [hbytes, List.length_append, List.length_singleton] at hshort
  have hread := readFrame_line rest hbody
  rw [if_neg (by omega), List.append_cons, ← hbytes] at hread
  cases hline : line.frame? with
  | none =>
      rw [hline, Option.map_none, Option.getD_none, utf8_eq_nil] at hleft
      rw [if_pos hleft] at hread
      cases frames <;> simp [Reads, hread]
  | some frame =>
      rw [hline, Option.map_some, Option.getD_some] at hleft
      have hfull : body.rdropWhile isLineEndChar ≠ [] := by
        intro hempty
        rw [hempty] at hleft
        exact (hframe frame hline).full hleft.symm
      rw [if_neg hfull] at hread
      simp [Reads, hread, hleft]

end FrameReader

theorem reads_framesOf_iff (lines : List StreamLine)
    (hframes : ∀ frame ∈ framesOf lines, IsFrame frame) :
    FrameReader.Reads (lines.flatMap StreamLine.bytes) ((framesOf lines).map unterminated) ↔
      ∀ line ∈ lines, line.Fits := by
  induction lines with
  | nil => exact iff_of_true FrameReader.readFrame_nil (fun _ h => absurd h List.not_mem_nil)
  | cons line lines ih =>
      have hframe : ∀ frame, line.frame? = some frame → IsFrame frame := fun frame h =>
        hframes frame (List.mem_filterMap.mpr ⟨line, List.mem_cons_self, h⟩)
      have hrest : ∀ frame ∈ framesOf lines, IsFrame frame := by
        intro frame hmem
        obtain ⟨other, hother, h⟩ := List.mem_filterMap.mp hmem
        exact hframes frame (List.mem_filterMap.mpr ⟨other, List.mem_cons_of_mem _ hother, h⟩)
      have hfirst : framesOf (line :: lines) = line.frame?.toList ++ framesOf lines := by
        rw [framesOf, List.filterMap_cons]
        cases line.frame? <;> rfl
      rw [List.flatMap_cons, hfirst, List.map_append, List.forall_mem_cons,
        StreamLine.fits_iff hframe]
      by_cases hshort : line.bytes.length ≤ maxFrameBytes
      · rw [FrameReader.reads_of_short hframe hshort, ih hrest, and_iff_right hshort]
      · rw [not_le] at hshort
        exact iff_of_false (FrameReader.not_reads_of_long hframe hshort)
          fun h => hshort.not_ge h.1

/-- **Framing loses nothing**: what the writer writes for some frames is read as these
frames, each without its trailing carriage returns and newlines, and then the stream is
at its end.  Blank lines between them and `\r\n` for their ends change nothing exactly
when each of these lines, its ending included, is within the bound. -/
theorem framing_lossless (frames : List (List UInt8))
    (hframes : ∀ frame ∈ frames, IsFrame frame) :
    FrameReader.Reads (frames.flatMap FrameWriter.writeEncoded) (frames.map unterminated) ∧
    ∀ lines, framesOf lines = frames →
      (FrameReader.Reads (lines.flatMap StreamLine.bytes) (frames.map unterminated) ↔
        ∀ line ∈ lines, line.Fits) := by
  refine ⟨?_, fun lines hlines => ?_⟩
  · have hwritten : framesOf (frames.map .written) = frames := by
      rw [framesOf, List.filterMap_map]
      exact List.filterMap_some
    have hread := (reads_framesOf_iff (frames.map .written) (hwritten.symm ▸ hframes)).mpr
    rw [hwritten, List.flatMap_map] at hread
    apply hread
    intro line hline
    obtain ⟨frame, -, rfl⟩ := List.mem_map.mp hline
    trivial
  · rw [← hlines] at hframes ⊢
    exact reads_framesOf_iff lines hframes

theorem isValidUtf8_utf8 (chars : List Char) : (utf8 chars).toByteArray.IsValidUTF8 := by
  rw [toByteArray_utf8]
  exact String.isValidUTF8 _

theorem framing_lossless_sample :
    FrameReader.Reads ([utf8 ['{', '}', '\r'], utf8 ['é']].flatMap FrameWriter.writeEncoded)
      [utf8 ['{', '}'], utf8 ['é']] ∧
    FrameReader.Reads
      ([.blank 1, .crlf (utf8 ['{', '}', '\r']), .blank 0, .written (utf8 ['é'])].flatMap
        StreamLine.bytes)
      [utf8 ['{', '}'], utf8 ['é']] := by
  have hframes : ∀ frame ∈ [utf8 ['{', '}', '\r'], utf8 ['é']], IsFrame frame := by
    simp only [List.forall_mem_cons]
    refine ⟨⟨isValidUtf8_utf8 _, by decide, by decide, by decide⟩,
      ⟨isValidUtf8_utf8 _, by decide, by decide, by decide⟩, by simp⟩
  obtain ⟨hwritten, hlines⟩ := framing_lossless _ hframes
  refine ⟨hwritten, (hlines _ rfl).mpr ?_⟩
  simp only [List.forall_mem_cons, StreamLine.Fits]
  refine ⟨by decide, by decide, by decide, trivial, by simp⟩

/-- Frames of one character, repeated. -/
theorem isFrame_replicate {n : Nat} (hpos : 0 < n) (hn : n < maxFrameBytes) :
    IsFrame (List.replicate n 97) := by
  constructor
  · rw [← utf8_replicate (show String.utf8EncodeChar 'a' = [97] by decide) n]
    exact isValidUtf8_utf8 _
  · rw [List.mem_replicate]
    exact fun h => absurd h.2 (by decide)
  · rw [unterminated, Ne, List.rdropWhile_eq_nil_iff]
    intro h
    exact absurd (h 97 (List.mem_replicate.mpr ⟨hpos.ne', rfl⟩)) (by decide)
  · rw [List.length_replicate]
    exact hn

theorem unterminated_replicate (n : Nat) :
    unterminated (List.replicate n 97) = List.replicate n 97 := by
  rw [unterminated, List.rdropWhile_eq_self_iff]
  intro hne
  rw [List.getLast_replicate]
  decide

theorem not_reads_crlf {frame : List UInt8} {frames : List (List UInt8)} (hframe : IsFrame frame)
    (hlong : maxFrameBytes < (unterminated frame).length + 2) :
    ¬ FrameReader.Reads ([.crlf frame].flatMap StreamLine.bytes) frames := by
  rw [List.flatMap_cons]
  apply FrameReader.not_reads_of_long
  · intro other h
    cases h
    exact hframe
  · rw [StreamLine.bytes, writeEncoded_eq, List.dropLast_concat, List.length_append]
    exact hlong

theorem not_reads_blank {returns : Nat} {frames : List (List UInt8)}
    (hlong : maxFrameBytes ≤ returns) :
    ¬ FrameReader.Reads ([.blank returns].flatMap StreamLine.bytes) frames := by
  rw [List.flatMap_cons]
  apply FrameReader.not_reads_of_long
  · intro frame h
    contradiction
  · rw [StreamLine.bytes, List.length_append, List.length_replicate, List.length_singleton]
    omega

/-- The reader refuses a frame below the bound if its line ends with `\r\n`, and a line
of carriage returns. -/
theorem long_ending_refused :
    IsFrame (List.replicate (maxFrameBytes - 1) 97) ∧
    ¬ FrameReader.Reads
      ([.crlf (List.replicate (maxFrameBytes - 1) 97)].flatMap StreamLine.bytes)
      [unterminated (List.replicate (maxFrameBytes - 1) 97)] ∧
    ¬ FrameReader.Reads ([.blank maxFrameBytes].flatMap StreamLine.bytes) [] := by
  have hframe := isFrame_replicate (n := maxFrameBytes - 1) (by decide) (by decide)
  refine ⟨hframe, not_reads_crlf hframe ?_, not_reads_blank le_rfl⟩
  rw [unterminated_replicate, List.length_replicate]
  decide

end Acp

end Slight
