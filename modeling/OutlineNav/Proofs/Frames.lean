import OutlineNav.Proofs.Decimals
import OutlineNav.Proofs.Encoding
import OutlineNav.Rpc.Frame

/-!
# Frames in sync

A reader that meets a frame takes exactly its bytes off the stream, whatever the body holds: header
lines are cut at line feeds, of which the encoding of a header line has only the one at its end, and
behind the blank line the length alone decides where the next frame begins. So what is wrong with
one body is an answer to that frame, and the frames behind it are read as if nothing had happened
(`readAll_wires`).
-/

namespace OutlineNav.Rpc

open Text (encodeUtf8 trimmed)

/-! ## Lines of bytes -/

theorem splitLine_of_not_mem {front rest : List UInt8} (h : lineFeed ∉ front) :
    splitLine (front ++ lineFeed :: rest) = (front ++ [lineFeed], rest) := by
  induction front with
  | nil => simp [splitLine]
  | cons b front ih =>
      have hb : b ≠ lineFeed := fun heq => h (heq ▸ List.mem_cons_self)
      have hfront : lineFeed ∉ front := fun hmem => h (List.mem_cons_of_mem b hmem)
      rw [List.cons_append, splitLine, if_neg hb, ih hfront]
      rfl

theorem lineFeed_not_mem_encodeUtf8 {cs : List Char} (h : '\n' ∉ cs) :
    lineFeed ∉ encodeUtf8 cs := by
  intro hmem
  obtain ⟨c, hc, hb⟩ := List.mem_flatMap.mp hmem
  have hfeed : c.toNat = 10 := Text.eq_of_mem_encode (by decide) hb
  have : c = '\n' := Char.toNat_inj.mp hfeed
  exact h (this ▸ hc)

/-! ## Headers -/

def lineEnd : List Char := ['\r', '\n']

theorem isBlank_of_mem_lineEnd {c : Char} (h : c ∈ lineEnd) : Text.isBlank c = true := by
  simp only [lineEnd, List.mem_cons, List.not_mem_nil, or_false] at h
  rcases h with rfl | rfl <;> rfl

/-- The bytes of a header line. -/
def headerLine (header : List Char) : List UInt8 := encodeUtf8 (header ++ lineEnd)

/-- A header that says nothing about the length. -/
structure IsPlain (header : List Char) : Prop where
  noFeed : '\n' ∉ header
  notBlank : trimmed header ≠ []
  noLength : ¬ lengthHeader <+: trimmed header

theorem headerLine_eq (header : List Char) :
    headerLine header = encodeUtf8 (header ++ ['\r']) ++ [lineFeed] := by
  have hend : header ++ lineEnd = (header ++ ['\r']) ++ ['\n'] := by simp [lineEnd]
  rw [headerLine, hend, Text.encodeUtf8_append]
  rfl

theorem splitLine_headerLine {header : List Char} (h : '\n' ∉ header) (rest : List UInt8) :
    splitLine (headerLine header ++ rest) = (headerLine header, rest) := by
  rw [headerLine_eq, List.append_assoc]
  exact splitLine_of_not_mem (lineFeed_not_mem_encodeUtf8 (by simpa using h))

/-- Where the next line is a header line, it alone decides what happens to it. -/
theorem readHeaders_headerLine {header : List Char} (h : '\n' ∉ header) (length? : Option Nat)
    (rest : List UInt8) : readHeaders length? (headerLine header ++ rest) =
      if trimmed header = [] then
        match length? with
        | some n => (.ok n, rest)
        | none => (.error .noLength, rest)
      else
        match headerLength? (trimmed header) with
        | none => readHeaders length? rest
        | some (.ok n) => readHeaders (some n) rest
        | some (.error e) => (.error (.badLength e), rest) := by
  have hsplit := splitLine_headerLine h rest
  have hdecode : Text.decodeUtf8 (headerLine header) = .ok (header ++ lineEnd) :=
    Text.decodeUtf8_encodeUtf8 _
  have htrim : Text.trimEndChars (Text.trimStartChars (header ++ lineEnd)) = trimmed header :=
    Text.trimmed_append_blank fun _ => isBlank_of_mem_lineEnd
  cases hbytes : headerLine header ++ rest with
  | nil =>
      -- A header line is not empty: it decodes to a text with a line end.
      rw [hbytes] at hsplit
      have : headerLine header = [] := (Prod.mk.inj hsplit).1.symm
      rw [this] at hdecode
      simp [lineEnd, Text.decodeUtf8, Text.decodeUtf8From] at hdecode
  | cons b bytes =>
      rw [hbytes] at hsplit
      have hread := readHeaders.eq_def length? (b :: bytes)
      simp only [hsplit, hdecode, htrim] at hread
      exact hread

theorem readHeaders_plain {header : List Char} (h : IsPlain header) (length? : Option Nat)
    (rest : List UInt8) :
    readHeaders length? (headerLine header ++ rest) = readHeaders length? rest := by
  have hlength : headerLength? (trimmed header) = none := by
    rw [headerLength?, if_neg]
    simpa [List.isPrefixOf_iff_prefix] using h.noLength
  rw [readHeaders_headerLine h.noFeed, if_neg h.notBlank, hlength]

theorem readHeaders_plains {headers : List (List Char)} (h : ∀ header ∈ headers, IsPlain header)
    (length? : Option Nat) (rest : List UInt8) :
    readHeaders length? (headers.flatMap headerLine ++ rest) = readHeaders length? rest := by
  induction headers with
  | nil => rfl
  | cons header headers ih =>
      obtain ⟨hheader, hheaders⟩ := List.forall_mem_cons.mp h
      rw [List.flatMap_cons, List.append_assoc, readHeaders_plain hheader, ih hheaders]

theorem readHeaders_blank (n : Nat) (rest : List UInt8) :
    readHeaders (some n) (headerLine [] ++ rest) = (.ok n, rest) := by
  have hblank : trimmed [] = [] := rfl
  rw [readHeaders_headerLine (by simp), if_pos hblank]

/-- The header that gives a length. -/
def lengthLine (n : Nat) : List Char := lengthHeader ++ ' ' :: (toString n).toList

theorem trimmed_lengthLine (n : Nat) : trimmed (lengthLine n) = lengthLine n := by
  have hstart : Text.trimStartChars (lengthLine n) = lengthLine n :=
    Text.trimStartChars_of_head (by decide)
  have hsplit : lengthLine n = (lengthHeader ++ [' ']) ++ (toString n).toList := by
    simp [lengthLine]
  rw [trimmed, hstart, hsplit]
  exact Text.trimEndChars_append_toString _ n

theorem headerLength?_lengthLine {n : Nat} (h : n < UInt64.size) :
    headerLength? (lengthLine n) = some (.ok n) := by
  have hdrop : (lengthLine n).drop lengthHeader.length = ' ' :: (toString n).toList :=
    List.drop_left
  have hvalue := Text.trimmed_blank_toString n
  have hprefix : lengthHeader.isPrefixOf (lengthLine n) = true :=
    List.isPrefixOf_iff_prefix.mpr (List.prefix_append _ _)
  rw [Text.trimmed] at hvalue
  simp only [headerLength?, if_pos hprefix, hdrop, hvalue, Text.unsigned_toString h]

theorem newline_not_mem_lengthLine (n : Nat) : '\n' ∉ lengthLine n := by
  intro hmem
  rcases List.mem_append.mp hmem with hmem | hmem
  · exact absurd hmem (by decide)
  · rw [List.mem_cons, Text.toList_toString] at hmem
    rcases hmem with hmem | hmem
    · exact absurd hmem (by decide)
    · exact absurd (Nat.isDigit_of_mem_toDigits (by decide) (by decide) hmem) (by decide)

theorem readHeaders_length {n : Nat} (h : n < UInt64.size) (length? : Option Nat)
    (rest : List UInt8) :
    readHeaders length? (headerLine (lengthLine n) ++ rest) = readHeaders (some n) rest := by
  have hblank : lengthLine n ≠ [] := by simp [lengthLine]
  rw [readHeaders_headerLine (newline_not_mem_lengthLine n), trimmed_lengthLine, if_neg hblank,
    headerLength?_lengthLine h]

/-! ## Frames -/

/-- A frame, with further headers in front of the one that gives the length and behind it. -/
structure Frame where
  before : List (List Char)
  after : List (List Char)
  body : List UInt8
  plain : ∀ header ∈ before ++ after, IsPlain header
  fits : body.length < UInt64.size

/-- The bytes that a frame travels as. -/
def Frame.wire (f : Frame) : List UInt8 :=
  f.before.flatMap headerLine ++ (headerLine (lengthLine f.body.length) ++
    (f.after.flatMap headerLine ++ (headerLine [] ++ f.body)))

/-- The frame that is written around a body. -/
def Frame.bare (body : List UInt8) (fits : body.length < UInt64.size) : Frame :=
  ⟨[], [], body, by simp, fits⟩

theorem frame_eq (body : List UInt8) :
    frame body = headerLine (lengthLine body.length) ++ (headerLine [] ++ body) := by
  have hhead : lengthHeader ++ ' ' :: (toString body.length).toList ++ ['\r', '\n', '\r', '\n'] =
      (lengthLine body.length ++ lineEnd) ++ lineEnd := by simp [lengthLine, lineEnd]
  rw [frame, hhead, Text.encodeUtf8_append, List.append_assoc]
  rfl

theorem wire_bare {body : List UInt8} (fits : body.length < UInt64.size) :
    (Frame.bare body fits).wire = frame body :=
  (frame_eq body).symm

/-- The next message of a stream that starts with a frame is what its body holds, and the stream
goes on behind the frame. -/
theorem readMessage_wire (f : Frame) (rest : List UInt8) :
    readMessage (f.wire ++ rest) = (readBody f.body, rest) := by
  obtain ⟨hbefore, hafter⟩ := List.forall_mem_append.mp f.plain
  have hheaders : readHeaders none (f.wire ++ rest) = (.ok f.body.length, f.body ++ rest) := by
    simp only [Frame.wire, List.append_assoc]
    rw [readHeaders_plains hbefore, readHeaders_length f.fits, readHeaders_plains hafter,
      readHeaders_blank]
  rw [readMessage, hheaders]
  have hlength : ¬ (f.body ++ rest).length < f.body.length := by simp
  simp only [hlength, if_false, List.take_left, List.drop_left]

theorem readMessage_nil : readMessage [] = (.error .closed, []) := by
  rw [readMessage, readHeaders]

/-! ## Answers -/

/-- What a reader owes for a body: the message that its text is, or an error that is not about the
end of the stream. -/
inductive Owed (body : List UInt8) : Except FrameError Message → Prop
  | message {text : List Char} {m : Message} (hbody : body = encodeUtf8 text)
      (hparse : Message.parse text = .ok m) : Owed body (.ok m)
  | notMessage {text : List Char} {e : MessageError} (hbody : body = encodeUtf8 text)
      (hparse : Message.parse text = .error e) : Owed body (.error (.badMessage e))
  | notText {e : Text.Utf8Error} (hbody : ∀ text, body ≠ encodeUtf8 text) :
      Owed body (.error (.bodyEncoding e))

theorem owed_readBody (body : List UInt8) : Owed body (readBody body) := by
  rw [readBody]
  cases hdecode : Text.decodeUtf8 body with
  | error e =>
      refine .notText fun text hbody => ?_
      rw [(Text.decodeUtf8_eq_ok_iff _ _).mpr hbody] at hdecode
      cases hdecode
  | ok text =>
      have hbody := (Text.decodeUtf8_eq_ok_iff _ _).mp hdecode
      dsimp only
      cases hparse : Message.parse text with
      | error e => exact .notMessage hbody hparse
      | ok m => exact .message hbody hparse

theorem isEnd_of_owed {body : List UInt8} {e : FrameError} (h : Owed body (.error e)) :
    e.isEnd = false := by
  cases h <;> rfl

/-- Reading frames one after the other gives an answer for each, and then the end. -/
theorem readAll_wires (frames : List Frame) {limit : Nat} (h : frames.length < limit) :
    readAll limit (frames.flatMap Frame.wire) =
      frames.map (readBody ·.body) ++ [.error .closed] := by
  induction frames generalizing limit with
  | nil =>
      obtain ⟨limit, rfl⟩ := Nat.exists_eq_add_one_of_ne_zero (by omega : limit ≠ 0)
      simp [readAll, readMessage_nil, FrameError.isEnd]
  | cons f frames ih =>
      obtain ⟨limit, rfl⟩ := Nat.exists_eq_add_one_of_ne_zero (by omega : limit ≠ 0)
      have hrest := @ih limit (by simpa using h)
      rw [List.flatMap_cons, readAll, readMessage_wire]
      cases hread : readBody f.body with
      | error e =>
          have hend := isEnd_of_owed (hread ▸ owed_readBody f.body)
          simp [hend, hrest, hread]
      | ok m => simp [hrest, hread]

end OutlineNav.Rpc
