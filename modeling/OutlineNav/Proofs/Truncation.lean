import OutlineNav.Proofs.MessageTexts
import OutlineNav.Proofs.Nesting

/-!
# Streams that are cut

A stream may end anywhere: in the name of a header, in the digits of a length, between the two
characters of a line end, in the middle of a character of a body. Wherever a frame is cut, what is
there of it is read as an error and nothing is left (`readMessage_take`). If the cut is in the line
that gives the length, the headers do not end, so a length that has lost digits is never used. Half
of the blank line behind it counts as the whole, but then the body is missing. So a stream gives the
messages that are there as a whole, and then errors (`readAll_take`).

A reader that goes on reaches the end of any bytes: each time it takes a byte at least or tells that
the stream has ended (`readMessage_progress`).
-/

namespace OutlineNav.Rpc

open Text (encodeUtf8)

/-- The result tells that the stream has ended. -/
def ended : Except FrameError Message → Bool
  | .ok _ => false
  | .error e => e.isEnd

/-! ## Progress -/

theorem splitLine_suffix (bytes : List UInt8) : (splitLine bytes).2 <:+ bytes :=
  ⟨_, splitLine_append bytes⟩

theorem readHeaders_suffix (length? : Option Nat) (bytes : List UInt8) :
    (readHeaders length? bytes).2 <:+ bytes := by
  fun_induction readHeaders length? bytes <;>
    grind [splitLine_suffix, List.IsSuffix.trans, List.suffix_refl]

/-- Headers take a byte at least, unless the stream has ended. -/
theorem readHeaders_progress (length? : Option Nat) (bytes : List UInt8) :
    readHeaders length? bytes = (.error .closed, []) ∨
      (readHeaders length? bytes).2.length < bytes.length ∧
        ∀ e, (readHeaders length? bytes).1 = .error e → e.isEnd = false := by
  fun_induction readHeaders length? bytes <;> grind [length_splitLine_lt, FrameError.isEnd]

theorem readMessage_suffix (bytes : List UInt8) : (readMessage bytes).2 <:+ bytes := by
  have h := readHeaders_suffix none bytes
  rw [readMessage]
  split
  · rename_i heq
    rwa [heq] at h
  · rename_i heq
    rw [heq] at h
    split
    · exact List.nil_suffix
    · exact (List.drop_suffix _ _).trans h

theorem ended_readBody (body : List UInt8) : ended (readBody body) = false := by
  cases hread : readBody body with
  | ok m => rfl
  | error e => exact isEnd_of_owed (hread ▸ owed_readBody body)

/-- A message takes a byte at least; the end of the stream leaves none. -/
theorem readMessage_progress (bytes : List UInt8) :
    if ended (readMessage bytes).1 then (readMessage bytes).2 = []
    else (readMessage bytes).2.length < bytes.length := by
  have h := readHeaders_progress none bytes
  rw [readMessage]
  split
  · rename_i e rest heq
    rw [heq] at h
    rcases h with h | ⟨hlt, hend⟩
    · cases h
      rfl
    · have he : ended (.error e) = false := hend e rfl
      simpa [he] using hlt
  · rename_i n rest heq
    rw [heq] at h
    obtain ⟨hlt, -⟩ := h.resolve_left (by simp)
    split
    · rfl
    · rw [ended_readBody, if_neg Bool.false_ne_true]
      exact Nat.lt_of_le_of_lt (List.length_drop ▸ Nat.sub_le ..) hlt

theorem readAll_succ (limit : Nat) (bytes : List UInt8) : readAll (limit + 1) bytes =
    (readMessage bytes).1 ::
      if ended (readMessage bytes).1 then [] else readAll limit (readMessage bytes).2 := by
  rw [readAll]
  split
  · rename_i e rest heq
    rw [heq]
    rfl
  · rename_i m rest heq
    rw [heq]
    rfl

/-- A reader that goes on reaches the end of the stream, which is the last thing that it tells. -/
theorem exists_readAll {limit : Nat} {bytes : List UInt8} (h : bytes.length < limit) :
    ∃ rs r, readAll limit bytes = rs ++ [r] ∧ rs.length ≤ bytes.length ∧
      (∀ r ∈ rs, ended r = false) ∧ ended r = true := by
  induction limit generalizing bytes with
  | zero => omega
  | succ limit ih =>
      have hprogress := readMessage_progress bytes
      rw [readAll_succ]
      cases hend : ended (readMessage bytes).1 with
      | true => exact ⟨[], _, rfl, Nat.zero_le _, by simp, hend⟩
      | false =>
          rw [hend, if_neg Bool.false_ne_true] at hprogress
          obtain ⟨rs, r, hrs, hle, hgo, hr⟩ := @ih (readMessage bytes).2 (by omega)
          refine ⟨(readMessage bytes).1 :: rs, r, ?_, ?_, List.forall_mem_cons.mpr ⟨hend, hgo⟩, hr⟩
          · rw [if_neg Bool.false_ne_true, hrs]
            rfl
          · rw [List.length_cons]
            omega

/-! ## Frames that are cut -/

theorem splitLine_last {piece : List UInt8} (h : lineFeed ∉ piece) :
    splitLine piece = (piece, []) := by
  induction piece with
  | nil => rfl
  | cons b piece ih =>
      rw [List.mem_cons, not_or] at h
      rw [splitLine, if_neg (Ne.symm h.1), ih h.2]

theorem readHeaders_nil (length? : Option Nat) :
    readHeaders length? [] = (.error .closed, []) := by
  rw [readHeaders]

/-- A last line that no line feed ends gives no length: the stream has ended where the next one
would begin. -/
theorem readHeaders_last {piece : List UInt8} (h : lineFeed ∉ piece) :
    ∃ e, readHeaders none piece = (.error e, []) := by
  cases piece with
  | nil => exact ⟨_, readHeaders_nil none⟩
  | cons b piece =>
      rw [readHeaders, splitLine_last h]
      split
      · exact ⟨_, rfl⟩
      · dsimp only
        split
        · exact ⟨_, rfl⟩
        · split
          · exact ⟨_, readHeaders_nil none⟩
          · exact ⟨_, readHeaders_nil _⟩
          · exact ⟨_, rfl⟩

/-- No message is empty. -/
theorem exists_readBody_nil : ∃ e, readBody [] = .error e := by
  have hvalue : ∃ e, Json.readValue Json.depthLimit [] = .error e := by
    rw [Json.readValue.eq_def]
    exact ⟨_, rfl⟩
  obtain ⟨e, he⟩ := hvalue
  have hparse : Message.parse [] = .error (.grammar [] e) := by
    rw [Message.parse, Json.parse, he]
    rfl
  refine ⟨.badMessage (.grammar [] e), ?_⟩
  show (Message.parse []).mapError FrameError.badMessage = _
  rw [hparse]
  rfl

theorem readHeaders_take_headerLine {header : List Char} (h : '\n' ∉ header) {k : Nat}
    (hk : k < (headerLine header).length) :
    ∃ e, readHeaders none ((headerLine header).take k) = (.error e, []) := by
  rw [headerLine_eq] at hk ⊢
  have hfront : k ≤ (encodeUtf8 (header ++ ['\r'])).length := by
    rw [List.length_append, List.length_singleton] at hk
    omega
  have hfeed : lineFeed ∉ encodeUtf8 (header ++ ['\r']) :=
    lineFeed_not_mem_encodeUtf8 (by simpa using h)
  rw [List.take_append_of_le_length hfront]
  exact readHeaders_last fun hmem => hfeed (List.mem_of_mem_take hmem)

/-- Behind a length half of the blank line closes the headers as the whole does. -/
theorem readHeaders_take_blank (n : Nat) (body : List UInt8) (k : Nat) :
    readHeaders (some n) ((headerLine [] ++ body).take k) = (.error .closed, []) ∨
      readHeaders (some n) ((headerLine [] ++ body).take k) = (.ok n, body.take (k - 2)) := by
  have hblank : headerLine [] = [0x0D, lineFeed] := by decide
  rcases k with _ | _ | k
  · exact .inl (by rw [List.take_zero, readHeaders_nil])
  · right
    rw [hblank, List.cons_append, List.take_succ_cons, List.take_zero, readHeaders]
    rfl
  · right
    have htake : (headerLine [] ++ body).take (k + 2) = headerLine [] ++ body.take k := by
      simp [hblank]
    rw [htake, readHeaders_blank]
    rfl

/-- A frame that is cut is an error, and nothing is left behind it. -/
theorem readMessage_take {body : List UInt8} (fits : body.length < UInt64.size) {k : Nat}
    (hk : k < (frame body).length) : ∃ e, readMessage ((frame body).take k) = (.error e, []) := by
  have hlength := readHeaders_length fits none
  have hinside {j : Nat} :=
    @readHeaders_take_headerLine _ (newline_not_mem_lengthLine body.length) j
  rw [frame_eq] at hk ⊢
  generalize headerLine (lengthLine body.length) = line at hlength hinside hk ⊢
  by_cases hline : k < line.length
  · obtain ⟨e, he⟩ := hinside hline
    exact ⟨e, by rw [List.take_append_of_le_length (Nat.le_of_lt hline), readMessage, he]⟩
  · obtain ⟨j, rfl⟩ := Nat.exists_eq_add_of_le (Nat.le_of_not_lt hline)
    rw [List.take_length_add_append, readMessage, hlength]
    obtain hclosed | hheaders := readHeaders_take_blank body.length body j
    · exact ⟨.closed, by rw [hclosed]⟩
    · rw [hheaders]
      dsimp only
      split
      · exact ⟨.cutShort, rfl⟩
      · -- all of the body is there although the frame is not: it is empty
        rename_i hwhole
        have hempty : body = [] := by
          have hblank : (headerLine []).length = 2 := by decide
          simp only [List.length_append, hblank, List.length_take] at hk hwhole
          exact List.eq_nil_of_length_eq_zero (by omega)
        obtain ⟨e, he⟩ := exists_readBody_nil
        exact ⟨e, by simp [hempty, he]⟩

/-! ## Streams that are cut -/

/-- The messages whose frames are there as a whole where the stream is cut after `cut` bytes. -/
def wholeBefore (cut : Nat) : List Message → List Message
  | [] => []
  | m :: ms =>
    if m.wire.length ≤ cut then m :: wholeBefore (cut - m.wire.length) ms else []

theorem readAll_of_error {piece : List UInt8} {e : FrameError}
    (h : readMessage piece = (.error e, [])) {limit : Nat} (hlimit : piece.length < limit) :
    ∃ errs last, readAll limit piece = (errs ++ [last]).map .error ∧ last.isEnd = true := by
  obtain ⟨limit, rfl⟩ := Nat.exists_eq_add_one_of_ne_zero (by omega : limit ≠ 0)
  have hprogress := readMessage_progress piece
  rw [readAll_succ, h]
  rw [h] at hprogress
  cases hend : e.isEnd with
  | true => exact ⟨[], e, by simp [ended, hend], hend⟩
  | false =>
      -- something has been consumed, so the limit lets the end be read
      simp only [ended, hend, Bool.false_eq_true, if_false, List.length_nil] at hprogress ⊢
      obtain ⟨limit, rfl⟩ := Nat.exists_eq_add_one_of_ne_zero (by omega : limit ≠ 0)
      refine ⟨[e], .closed, ?_, rfl⟩
      rw [readAll_succ, readMessage_nil]
      rfl

theorem readMessage_whole {m : Message} (fits : m.body.length < UInt64.size) (rest : List UInt8) :
    readMessage (m.wire ++ rest) = (readBody m.body, rest) := by
  rw [Message.wire, ← wire_bare fits]
  exact readMessage_wire _ rest

/-- A stream that is cut gives what the frames that are there as a whole hold, and then errors. -/
theorem readAll_take {ms : List Message} (fits : ∀ m ∈ ms, m.body.length < UInt64.size)
    {cut limit : Nat} (hlimit : ((ms.flatMap Message.wire).take cut).length < limit) :
    ∃ errs last, readAll limit ((ms.flatMap Message.wire).take cut) =
      (wholeBefore cut ms).map (readBody ·.body) ++ (errs ++ [last]).map .error ∧
        last.isEnd = true := by
  induction ms generalizing cut limit with
  | nil =>
      rw [List.flatMap_nil, List.take_nil] at hlimit ⊢
      exact readAll_of_error readMessage_nil hlimit
  | cons m ms ih =>
      obtain ⟨hm, hms⟩ := List.forall_mem_cons.mp fits
      rw [List.flatMap_cons] at hlimit ⊢
      rw [wholeBefore]
      split
      · rename_i hwhole
        obtain ⟨cut, rfl⟩ := Nat.exists_eq_add_of_le hwhole
        obtain ⟨limit, rfl⟩ := Nat.exists_eq_add_one_of_ne_zero (by omega : limit ≠ 0)
        rw [List.take_length_add_append] at hlimit ⊢
        have hprogress :=
          readMessage_progress (m.wire ++ (ms.flatMap Message.wire).take cut)
        rw [readMessage_whole hm, ended_readBody, if_neg Bool.false_ne_true] at hprogress
        dsimp only at hprogress
        obtain ⟨errs, last, herrs, hlast⟩ := @ih hms cut limit (by omega)
        refine ⟨errs, last, ?_, hlast⟩
        rw [readAll_succ, readMessage_whole hm, ended_readBody, if_neg Bool.false_ne_true, herrs,
          Nat.add_sub_cancel_left]
        rfl
      · rename_i hcut
        have hk : cut < m.wire.length := Nat.lt_of_not_le hcut
        rw [List.take_append_of_le_length (Nat.le_of_lt hk)] at hlimit ⊢
        obtain ⟨e, he⟩ := readMessage_take hm hk
        exact readAll_of_error he hlimit

/-! ## Messages that are there -/

/-- A message that a program can hold and write: `IsSendable` but for how deep its values nest. -/
structure Message.IsHeld (m : Message) : Prop where
  writable : ∃ depth, m.toJson.IsWritable depth
  ordered : ∀ v ∈ m.payloads, v.ordered = v
  coded : ∀ f, m.failure? = some f → f.IsCoded
  fits : m.body.length < UInt64.size

namespace Message.IsHeld

variable {m : Message} (h : m.IsHeld)

include h

theorem readBody_of_writable (hdeep : m.toJson.IsWritable Json.depthLimit) :
    readBody m.body = .ok m.pruned :=
  IsSendable.readBody_body ⟨hdeep, h.ordered, h.coded, h.fits⟩

theorem readBody_of_not_writable (hdeep : ¬ m.toJson.IsWritable Json.depthLimit) :
    ∃ e, readBody m.body = .error (.badMessage e) := by
  obtain ⟨depth, hwritable⟩ := h.writable
  obtain ⟨e, he⟩ := Json.exists_parse_error hwritable hdeep
  refine ⟨.grammar m.toJson.compact.toList e, ?_⟩
  have hparse : Message.parse m.toJson.compact.toList =
      .error (.grammar m.toJson.compact.toList e) := by
    rw [parse, he]
    rfl
  rw [readBody, body, Text.decodeUtf8_encodeUtf8]
  simp only [hparse]
  rfl

end Message.IsHeld

/-- Reading is safe where a stream is cut. From every byte string a reader takes a byte at a time at
least and so reaches its end. Of a stream of messages that is cut it reads those that are there as a
whole, in order, and no other one; all that it tells after them are errors, the last of which is the
end. What it reads of a message is the message, unless its values nest too deep: in the place of
such a one stands an error. -/
theorem truncated_reads :
    (∀ bytes, (readMessage bytes).2 <:+ bytes ∧
      if ended (readMessage bytes).1 then (readMessage bytes).2 = []
      else (readMessage bytes).2.length < bytes.length) ∧
    (∀ bytes limit, bytes.length < limit → ∃ rs r, readAll limit bytes = rs ++ [r] ∧
      rs.length ≤ bytes.length ∧ (∀ r ∈ rs, ended r = false) ∧ ended r = true) ∧
    (∀ (ms : List Message) (cut limit : Nat), (∀ m ∈ ms, m.body.length < UInt64.size) →
      ((ms.flatMap Message.wire).take cut).length < limit →
      ∃ errs last, readAll limit ((ms.flatMap Message.wire).take cut) =
        (wholeBefore cut ms).map (readBody ·.body) ++ (errs ++ [last]).map .error ∧
          last.isEnd = true) ∧
    ∀ m : Message, m.IsHeld →
      (m.toJson.IsWritable Json.depthLimit → readBody m.body = .ok m.pruned) ∧
      (¬ m.toJson.IsWritable Json.depthLimit → ∃ e, readBody m.body = .error (.badMessage e)) :=
  ⟨fun bytes => ⟨readMessage_suffix bytes, readMessage_progress bytes⟩,
    fun _ _ hlimit => exists_readAll hlimit,
    fun _ _ _ fits hlimit => readAll_take fits hlimit,
    fun _ h => ⟨h.readBody_of_writable, h.readBody_of_not_writable⟩⟩

theorem Message.IsSendable.isHeld {m : Message} (h : m.IsSendable) : m.IsHeld :=
  ⟨⟨_, h.writable⟩, h.ordered, h.coded, h.fits⟩

/-- The cut is behind the first digit of the length of the second message. -/
theorem truncated_reads_sample : ∃ errs last,
    readAll 98 (([Message.request sampleRequest, .response sampleResponse].flatMap
      Message.wire).take 97) =
        .ok (.request { sampleRequest with params := none }) :: (errs ++ [last]).map .error ∧
      last.isEnd = true := by
  obtain ⟨-, -, hcut, hheld⟩ := truncated_reads
  have hfits : ∀ m ∈ [Message.request sampleRequest, .response sampleResponse],
      m.body.length < UInt64.size := by
    simpa using ⟨isSendable_sampleRequest.fits, isSendable_sampleResponse.fits⟩
  obtain ⟨errs, last, herrs, hlast⟩ :=
    hcut _ 97 98 hfits (Nat.lt_succ_of_le (List.length_take_le ..))
  refine ⟨errs, last, ?_, hlast⟩
  have hwhole : wholeBefore 97 [Message.request sampleRequest, .response sampleResponse] =
      [.request sampleRequest] := by decide +kernel
  have hread := (hheld _ isSendable_sampleRequest.isHeld).1 isSendable_sampleRequest.writable
  rw [herrs, hwhole, List.map_singleton, hread]
  rfl

def deepNotification : Notification := ⟨"2.0", "m", some (Json.nested 126)⟩

theorem isWritable_deepNotification {depth : Nat} :
    (Message.notification deepNotification).toJson.IsWritable depth ↔ 128 < depth := by
  simp only [Message.toJson, Notification.toJson_eq, Notification.written, deepNotification]
  simp [Json.present, Json.IsWritable, Json.AreMembersWritable, Json.isWritable_nested]
  omega

theorem length_compact_three (k l m : String) (s t : String) (v : Json) :
    (Json.compact (.obj [(k, .str s), (l, .str t), (m, v)])).toList.length =
      (Json.quote k).toList.length + (Json.quote s).toList.length +
        ((Json.quote l).toList.length + (Json.quote t).toList.length) +
          ((Json.quote m).toList.length + v.compact.toList.length) + 7 := by
  simp only [Json.compact, Json.compactMembers, String.toList_append, List.length_append]
  simp
  omega

theorem fits_deepNotification :
    (Message.notification deepNotification).body.length < UInt64.size := by
  have hversion : (Json.quote "jsonrpc").toList.length + (Json.quote "2.0").toList.length = 14 := by
    decide +kernel
  have hmethod : (Json.quote "method").toList.length + (Json.quote "m").toList.length = 11 := by
    decide +kernel
  have hparams : (Json.quote "params").toList.length = 8 := by decide +kernel
  have htext : (Message.notification deepNotification).toJson.compact.toList.length = 294 := by
    refine (length_compact_three "jsonrpc" "method" "params" "2.0" "m" (Json.nested 126)).trans ?_
    rw [hversion, hmethod, hparams, Json.length_compact_nested]
  have hbody :=
    Text.length_encodeUtf8_le (Message.notification deepNotification).toJson.compact.toList
  rw [htext] at hbody
  exact Nat.lt_of_le_of_lt hbody (by decide)

theorem isHeld_deepNotification : (Message.notification deepNotification).IsHeld where
  writable := ⟨129, isWritable_deepNotification.mpr (by decide)⟩
  ordered := by
    intro v hv
    obtain rfl : v = Json.nested 126 := by
      simpa [Message.payloads, deepNotification] using hv
    exact Json.ordered_nested 126
  coded := by
    intro f hf
    cases hf
  fits := fits_deepNotification

/-- What is read of a message need not be that message: where it nests too deep there is an error in
its place, and a member that is `null` is absent. -/
theorem message_not_read_back :
    ((Message.notification deepNotification).IsHeld ∧ ∃ e,
      readAll 2 ([Message.notification deepNotification].flatMap Message.wire) =
        [.error (.badMessage e), .error .closed]) ∧
    (Message.request sampleRequest).IsHeld ∧
      readAll 2 ([Message.request sampleRequest].flatMap Message.wire) =
        [.ok (.request { sampleRequest with params := none }), .error .closed] := by
  refine ⟨⟨isHeld_deepNotification, ?_⟩, isSendable_sampleRequest.isHeld, ?_⟩
  · obtain ⟨e, he⟩ := isHeld_deepNotification.readBody_of_not_writable
      fun hdeep => absurd (isWritable_deepNotification.mp hdeep) (by decide)
    refine ⟨e, ?_⟩
    rw [List.flatMap_singleton, ← List.append_nil (Message.wire _), readAll_succ,
      readMessage_whole isHeld_deepNotification.fits, he]
    dsimp only
    rw [if_neg (by simp [ended, FrameError.isEnd]), readAll_succ, readMessage_nil]
    rfl
  · exact readAll_messages (by simpa using isSendable_sampleRequest) (by decide)

end OutlineNav.Rpc
