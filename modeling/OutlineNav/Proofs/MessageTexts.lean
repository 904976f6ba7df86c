import OutlineNav.Proofs.Frames
import OutlineNav.Proofs.Members
import OutlineNav.Proofs.ValueTexts

/-!
# Messages on the wire

A message that was written is read back as the same message, and a stream of messages as the same
stream (`frames_in_sync`). The text of a message writes its members in the order of their
declaration and the value that it is read into has them in the order of their keys, so a member is
looked up by its key and nothing depends on the order (`lookup?_ordered_present`). A request is told
by its identifier and its method, and a response by its identifier alone, which is why a response
writes one even where it has none.

`Message.IsSendable` collects what is asked of a message. That its values nest less than the reader
allows is needed: the writer writes deeper ones, and the reader refuses their texts. Nothing is
asked of the texts in a message, nor of a length beyond what a counter holds.
-/

namespace OutlineNav

namespace Json

/-! ## Members in the order of their keys -/

theorem lookup?_insertMember (name key : String) (v : Json) (ms : List (String × Json)) :
    Named.lookup? name (insertMember key v ms) =
      if key = name then some v else Named.lookup? name ms := by
  induction ms with
  | nil => rfl
  | cons m ms ih =>
      obtain ⟨k, w⟩ := m
      rw [insertMember]
      split
      · rfl
      · split
        · subst key
          simp only [Named.lookup?]
          split <;> rfl
        · rename_i hne
          simp only [Named.lookup?, ih]
          split
          · rename_i hk
            subst hk
            rw [if_neg hne]
          · rfl

/-- Where no key stands twice, putting the members in order changes no member. -/
theorem lookup?_sortMembers {name : String} {ms : List (String × Json)}
    (h : (ms.map (·.1)).Nodup) : Named.lookup? name (sortMembers ms) = Named.lookup? name ms := by
  -- Over the members that stand in order already, which the later ones come before.
  have hfold : ∀ sorted, Named.lookup? name
      (ms.foldl (fun sorted m => insertMember m.1 m.2 sorted) sorted) =
        (Named.lookup? name ms).or (Named.lookup? name sorted) := by
    induction ms with
    | nil => intro sorted; rfl
    | cons m ms ih =>
        obtain ⟨k, v⟩ := m
        obtain ⟨hk, hms⟩ := List.nodup_cons.mp h
        intro sorted
        rw [List.foldl_cons, ih hms, lookup?_insertMember, Named.lookup?]
        split
        · rename_i hname
          rw [lookup?_of_not_mem (hname ▸ hk)]
          rfl
        · rfl
  refine (hfold []).trans ?_
  rw [Named.lookup?, Option.or_none]

theorem lookup?_orderedMembers (name : String) (ms : List (String × Json)) :
    Named.lookup? name (orderedMembers ms) = (Named.lookup? name ms).map ordered := by
  induction ms with
  | nil => rfl
  | cons m ms ih =>
      obtain ⟨k, w⟩ := m
      simp only [orderedMembers, Named.lookup?, ih]
      split <;> rfl

theorem map_fst_orderedMembers (ms : List (String × Json)) :
    (orderedMembers ms).map (·.1) = ms.map (·.1) := by
  induction ms with
  | nil => rfl
  | cons m ms ih => simp [orderedMembers, ih]

/-- A record that is written as an object and read back has the members that it was written with. -/
theorem lookup?_ordered_present {ms : List (String × Option Json)} (h : (ms.map (·.1)).Nodup)
    (name : String) : Named.lookup? name (sortMembers (orderedMembers (present ms))) =
      (Named.lookup? name ms).join.map ordered := by
  have hnodup : ((orderedMembers (present ms)).map (·.1)).Nodup := by
    rw [map_fst_orderedMembers]
    exact (map_fst_present_sublist ms).nodup h
  rw [lookup?_sortMembers hnodup, lookup?_orderedMembers, lookup?_present h]

end Json

namespace Rpc

open Json

/-! ## Messages read back -/

/-- A member that may be absent and is `null` counts as absent. -/
def dropNull : Option Json → Option Json
  | some .null => none
  | v? => v?

theorem decode_id (id : RequestId) : RequestId.decode id.toJson.ordered = .ok id := by
  cases id with
  | number n =>
      have h : (0 : Int) ≤ n.toNat ∧ (n.toNat : Int) < UInt64.size :=
        ⟨Int.natCast_nonneg _, Int.ofNat_lt.mpr n.toNat_lt_size⟩
      rw [RequestId.toJson, nat, ordered, RequestId.decode, if_pos h]
      simp
  | text s => rfl

section

variable {α : Type} {ms : List (String × Option Json)} (hms : (ms.map (·.1)).Nodup) (key : String)

include hms

/-- A member that was written is read by its decoder. -/
theorem member?_written (d : Decoder α) :
    Decoder.member? d key (sortMembers (orderedMembers (present ms))) =
      match (Named.lookup? key ms).join with
      | some v => (d v.ordered).map some
      | none => .ok none := by
  rw [Decoder.member?, lookup?_ordered_present hms]
  cases (Named.lookup? key ms).join <;> rfl

/-- A member that may be absent or `null`. -/
theorem optional_written (d : Decoder α) :
    Decoder.optional d key (sortMembers (orderedMembers (present ms))) =
      match dropNull ((Named.lookup? key ms).join.map ordered) with
      | some v => (d v).map some
      | none => .ok none := by
  rw [Decoder.optional, member?_written hms]
  cases (Named.lookup? key ms).join with
  | none => rfl
  | some v =>
      simp only [Option.map_some]
      cases v.ordered with
      | null => rfl
      | _ =>
          simp only [Decoder.nullable, dropNull]
          cases d _ <;> rfl

theorem get?_written : (Json.ordered (.obj (present ms))).get? key =
    (Named.lookup? key ms).join.map ordered := by
  rw [ordered]
  exact lookup?_ordered_present hms key

end

/-! ### Requests -/

/-- The members of a request as it is written. -/
def Request.written (r : Request) : List (String × Option Json) :=
  [("jsonrpc", some (.str r.version)), ("id", some r.id.toJson), ("method", some (.str r.method)),
    ("params", r.params)]

theorem Request.toJson_eq (r : Request) : r.toJson = .obj (present r.written) := rfl

theorem Request.nodup_written (r : Request) : (r.written.map (·.1)).Nodup := by
  show ["jsonrpc", "id", "method", "params"].Nodup
  decide

theorem decode_request (r : Request) : Request.decode r.toJson.ordered =
    .ok { r with params := dropNull (r.params.map ordered) } := by
  rw [Request.toJson_eq, ordered, Request.decode, Decoder.record]
  simp only [member?_written r.nodup_written, optional_written r.nodup_written]
  simp only [Request.written, Named.lookup?, String.reduceEq, if_true, if_false, Option.join_some,
    decode_id]
  cases dropNull (r.params.map ordered) <;> rfl

/-! ### Notifications -/

/-- The members of a notification as it is written. -/
def Notification.written (n : Notification) : List (String × Option Json) :=
  [("jsonrpc", some (.str n.version)), ("method", some (.str n.method)), ("params", n.params)]

theorem Notification.toJson_eq (n : Notification) : n.toJson = .obj (present n.written) := rfl

theorem Notification.nodup_written (n : Notification) : (n.written.map (·.1)).Nodup := by
  show ["jsonrpc", "method", "params"].Nodup
  decide

theorem decode_notification (n : Notification) : Notification.decode n.toJson.ordered =
    .ok { n with params := dropNull (n.params.map ordered) } := by
  rw [Notification.toJson_eq, ordered, Notification.decode, Decoder.record]
  simp only [member?_written n.nodup_written, optional_written n.nodup_written]
  simp only [Notification.written, Named.lookup?, String.reduceEq, if_true, if_false,
    Option.join_some]
  cases dropNull (n.params.map ordered) <;> rfl

/-! ### Failures -/

/-- The members of a failure as it is written. -/
def Failure.written (f : Failure) : List (String × Option Json) :=
  [("code", some (.int f.code)), ("message", some (.str f.message)), ("data", f.data)]

theorem Failure.toJson_eq (f : Failure) : f.toJson = .obj (present f.written) := rfl

theorem Failure.nodup_written (f : Failure) : (f.written.map (·.1)).Nodup := by
  show ["code", "message", "data"].Nodup
  decide

/-- The code of a failure has thirty-two bits. -/
def Failure.IsCoded (f : Failure) : Prop := -0x80000000 ≤ f.code ∧ f.code ≤ 0x7FFFFFFF

theorem decode_failure {f : Failure} (h : f.IsCoded) : Failure.decode f.toJson.ordered =
    .ok { f with data := dropNull (f.data.map ordered) } := by
  have hcode : Decoder.i32 (Json.ordered (.int f.code)) = .ok f.code := by
    rw [ordered, Decoder.i32, Decoder.integer]
    exact if_pos h
  rw [Failure.toJson_eq, ordered, Failure.decode, Decoder.record]
  simp only [member?_written f.nodup_written, optional_written f.nodup_written]
  simp only [Failure.written, Named.lookup?, String.reduceEq, if_true, if_false, Option.join_some,
    hcode]
  cases dropNull (f.data.map ordered) <;> rfl

/-! ### Responses -/

/-- The members of a response as it is written. -/
def Response.written (r : Response) : List (String × Option Json) :=
  [("jsonrpc", some (.str r.version)), ("id", some (ofOption RequestId.toJson r.id)),
    ("result", r.result), ("error", r.failure.map Failure.toJson)]

theorem Response.toJson_eq (r : Response) : r.toJson = .obj (present r.written) := rfl

theorem Response.nodup_written (r : Response) : (r.written.map (·.1)).Nodup := by
  show ["jsonrpc", "id", "result", "error"].Nodup
  decide

/-- The identifier is always written, and a `null` one reads back as none. -/
theorem optional_id (r : Response) : Decoder.optional RequestId.decode "id"
    (sortMembers (orderedMembers (present r.written))) = .ok r.id := by
  rw [optional_written r.nodup_written]
  obtain ⟨version, id, result, failure⟩ := r
  cases id with
  | none => rfl
  | some id =>
      have hread := decode_id id
      cases id with
      | number n => exact congrArg (Except.map some) hread
      | text s => rfl

theorem optional_failure {r : Response} (h : ∀ f, r.failure = some f → f.IsCoded) :
    Decoder.optional Failure.decode "error" (sortMembers (orderedMembers (present r.written))) =
      .ok (r.failure.map fun f => { f with data := dropNull (f.data.map ordered) }) := by
  rw [optional_written r.nodup_written]
  obtain ⟨version, id, result, failure⟩ := r
  cases failure with
  | none => rfl
  | some f => exact congrArg (Except.map some) (decode_failure (h f rfl))

theorem decode_response {r : Response} (h : ∀ f, r.failure = some f → f.IsCoded) :
    Response.decode r.toJson.ordered = .ok { r with
      result := dropNull (r.result.map ordered)
      failure := r.failure.map fun f => { f with data := dropNull (f.data.map ordered) } } := by
  rw [Response.toJson_eq, ordered, Response.decode, Decoder.record]
  simp only [optional_id, optional_failure h]
  simp only [member?_written r.nodup_written, optional_written r.nodup_written]
  simp only [Response.written, Named.lookup?, String.reduceEq, if_true, if_false,
    Option.join_some]
  cases dropNull (r.result.map ordered) <;> rfl

/-! ## Classification -/

namespace Message

/-- The values that somebody else has put into a message. -/
def payloads : Message → List Json
  | .request r => r.params.toList
  | .response r => r.result.toList ++ (r.failure.bind (·.data)).toList
  | .notification n => n.params.toList

def failure? : Message → Option Failure
  | .response r => r.failure
  | .request _ | .notification _ => none

/-- The message without the members that may as well be absent. -/
def pruned : Message → Message
  | .request r => .request { r with params := dropNull r.params }
  | .response r => .response { r with
      result := dropNull r.result
      failure := r.failure.map fun f => { f with data := dropNull f.data } }
  | .notification n => .notification { n with params := dropNull n.params }

/-- A message that a program can hold and a text can carry. -/
structure IsSendable (m : Message) : Prop where
  writable : m.toJson.IsWritable depthLimit
  /-- Its objects are as objects are built, in ascending order of their keys. -/
  ordered : ∀ v ∈ m.payloads, v.ordered = v
  coded : ∀ f, m.failure? = some f → f.IsCoded
  fits : m.body.length < UInt64.size

theorem map_ordered {v? : Option Json} (h : ∀ v ∈ v?.toList, v.ordered = v) :
    v?.map Json.ordered = v? := by
  cases v? with
  | none => rfl
  | some v => exact congrArg some (h v (by simp))

/-- What was written is told by its members and read into the same message. -/
theorem ofJson_ordered {m : Message} (hordered : ∀ v ∈ m.payloads, v.ordered = v)
    (hcoded : ∀ f, m.failure? = some f → f.IsCoded) : ofJson m.toJson.ordered = .ok m.pruned := by
  cases m with
  | request r =>
      have hid : (r.toJson.ordered.get? "id").isSome = true := by
        rw [Request.toJson_eq, get?_written r.nodup_written]
        rfl
      have hmethod : (r.toJson.ordered.get? "method").isSome = true := by
        rw [Request.toJson_eq, get?_written r.nodup_written]
        rfl
      rw [toJson, ofJson, hid, hmethod]
      simp only [decode_request, map_ordered hordered]
      rfl
  | response r =>
      have hid : (r.toJson.ordered.get? "id").isSome = true := by
        rw [Response.toJson_eq, get?_written r.nodup_written]
        rfl
      have hmethod : (r.toJson.ordered.get? "method").isSome = false := by
        rw [Response.toJson_eq, get?_written r.nodup_written]
        rfl
      have hresult : r.result.map Json.ordered = r.result :=
        map_ordered fun v hv => hordered v (List.mem_append_left _ hv)
      have hfailure :
          r.failure.map (fun f => { f with data := dropNull (f.data.map Json.ordered) }) =
            r.failure.map fun f => { f with data := dropNull f.data } := by
        refine Option.map_congr fun f hf => ?_
        rw [map_ordered fun v hv => hordered v (List.mem_append_right _ ?_)]
        rw [Option.mem_def.mp hf]
        exact hv
      rw [toJson, ofJson, hid, hmethod]
      simp only [decode_response hcoded, hresult, hfailure]
      rfl
  | notification n =>
      have hid : (n.toJson.ordered.get? "id").isSome = false := by
        rw [Notification.toJson_eq, get?_written n.nodup_written]
        rfl
      have hmethod : (n.toJson.ordered.get? "method").isSome = true := by
        rw [Notification.toJson_eq, get?_written n.nodup_written]
        rfl
      rw [toJson, ofJson, hid, hmethod]
      simp only [decode_notification, map_ordered hordered]
      rfl

/-- A message that was written is read from its body. -/
theorem IsSendable.readBody_body {m : Message} (h : m.IsSendable) :
    readBody m.body = .ok m.pruned := by
  have hparse : Message.parse m.toJson.compact.toList = .ok m.pruned := by
    rw [parse, parse_compact h.writable]
    exact ofJson_ordered h.ordered h.coded
  rw [readBody, body, Text.decodeUtf8_encodeUtf8]
  simp only [hparse]
  rfl

end Message

/-! ## Streams -/

/-- Messages travel in frames without further headers. -/
theorem exists_frames {ms : List Message} (h : ∀ m ∈ ms, m.body.length < UInt64.size) :
    ∃ frames : List Frame, frames.map (·.body) = ms.map (·.body) ∧
      frames.flatMap Frame.wire = ms.flatMap Message.wire := by
  induction ms with
  | nil => exact ⟨[], rfl, rfl⟩
  | cons m ms ih =>
      obtain ⟨hm, hms⟩ := List.forall_mem_cons.mp h
      obtain ⟨frames, hbodies, hwires⟩ := ih hms
      refine ⟨Frame.bare m.body hm :: frames, ?_, ?_⟩
      · rw [List.map_cons, List.map_cons, hbodies]
        rfl
      · rw [List.flatMap_cons, List.flatMap_cons, hwires, wire_bare]
        rfl

theorem readAll_messages {ms : List Message} (h : ∀ m ∈ ms, m.IsSendable) {limit : Nat}
    (hlimit : ms.length < limit) : readAll limit (ms.flatMap Message.wire) =
      ms.map (fun m => .ok m.pruned) ++ [.error .closed] := by
  obtain ⟨frames, hbodies, hwires⟩ := exists_frames fun m hm => (h m hm).fits
  have hlength : frames.length = ms.length := by simpa using congrArg List.length hbodies
  have hanswers : frames.map (readBody ·.body) = ms.map fun m => .ok m.pruned := by
    have hread := congrArg (List.map readBody) hbodies
    rw [List.map_map, List.map_map] at hread
    refine hread.trans (List.map_congr_left fun m hm => ?_)
    exact (h m hm).readBody_body
  rw [← hwires, readAll_wires frames (hlength ▸ hlimit), hanswers]

/-- Frames stay in sync: a stream of frames gives one answer for each, what its body asks for and
never an end of the stream, and then the end of the stream. So what was written as messages is read
back as the same messages. -/
theorem frames_in_sync :
    (∀ (frames : List Frame) (limit : Nat), frames.length < limit →
      readAll limit (frames.flatMap Frame.wire) =
        frames.map (readBody ·.body) ++ [.error .closed]) ∧
    (∀ body, Owed body (readBody body)) ∧
    (∀ body e, readBody body = .error e → e.isEnd = false) ∧
    (∀ (ms : List Message) (limit : Nat), (∀ m ∈ ms, m.IsSendable) → ms.length < limit →
      readAll limit (ms.flatMap Message.wire) =
        ms.map (fun m => .ok m.pruned) ++ [.error .closed]) :=
  ⟨fun frames _ hlimit => readAll_wires frames hlimit, owed_readBody,
    fun body _ he => isEnd_of_owed (he ▸ owed_readBody body),
    fun _ _ h hlimit => readAll_messages h hlimit⟩

/-- A frame with a header on either side of the length, and a body that is no text. -/
def strangeFrame : Frame where
  before := ["Content-Type: bytes".toList]
  after := [" X: Content-Length: 9".toList]
  body := [0xFF, 0x0A]
  plain := by
    intro header hheader
    simp only [List.cons_append, List.nil_append, List.mem_cons, List.not_mem_nil, or_false]
      at hheader
    rcases hheader with rfl | rfl
    · exact ⟨by decide, by decide, by decide⟩
    · exact ⟨by decide, by decide, by decide⟩
  fits := by decide

def sampleRequest : Request := ⟨"2.0", .number 7, "shutdown", some .null⟩

def sampleResponse : Response :=
  ⟨"2.0", some (.text "a"), none, some ⟨-32601, "no", some (.arr [.int 1, .str "\n"])⟩⟩

theorem isSendable_sampleRequest : (Message.request sampleRequest).IsSendable where
  writable := by
    simp [Message.toJson, Request.toJson_eq, Request.written, sampleRequest, present,
      RequestId.toJson, nat, IsWritable, AreMembersWritable, depthLimit]
  ordered := by
    intro v hv
    obtain rfl : v = .null := by simpa [Message.payloads, sampleRequest] using hv
    rfl
  coded := by
    intro f hf
    cases hf
  fits := by decide +kernel

theorem isSendable_sampleResponse : (Message.response sampleResponse).IsSendable where
  writable := by
    simp [Message.toJson, Response.toJson_eq, Response.written, Failure.toJson_eq, Failure.written,
      sampleResponse, present, ofOption, RequestId.toJson, IsWritable, AreMembersWritable,
      AreItemsWritable, depthLimit]
  ordered := by
    intro v hv
    obtain rfl : v = .arr [.int 1, .str "\n"] := by
      simpa [Message.payloads, sampleResponse] using hv
    rfl
  coded := by
    intro f hf
    cases hf
    exact ⟨by decide, by decide⟩
  fits := by decide +kernel

theorem frames_in_sync_sample :
    readAll 2 ([strangeFrame].flatMap Frame.wire) =
      [.error (.bodyEncoding ⟨0, some 1⟩), .error .closed] ∧
    readAll 3 ([Message.request sampleRequest, .response sampleResponse].flatMap Message.wire) =
      [.ok (.request { sampleRequest with params := none }), .ok (.response sampleResponse),
        .error .closed] := by
  obtain ⟨hframes, -, -, hmessages⟩ := frames_in_sync
  refine ⟨hframes [strangeFrame] 2 (by decide), hmessages _ 3 ?_ (by decide)⟩
  intro m hm
  simp only [List.mem_cons, List.not_mem_nil, or_false] at hm
  rcases hm with rfl | rfl
  · exact isSendable_sampleRequest
  · exact isSendable_sampleResponse

end Rpc

end OutlineNav
