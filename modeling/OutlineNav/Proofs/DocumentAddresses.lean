import OutlineNav.Document.Uri
import OutlineNav.Proofs.DocumentCalls
import OutlineNav.Proofs.Encoding

/-!
# Document addresses

An address is readable text (`AddressText`): plain characters stand for themselves, and everything
else is in percent form. A percent form begins with a character that is not plain, so reading an
address back never takes the one for the other, and gives the UTF-8 bytes of the path
(`percentDecode?_encode`). Paths with the same address are therefore the same (`ofPath_injective`).

The client remembers under the address of a document what became of the notifications about it. What
it remembers of one document is made up of the calls about this document alone, whatever other
documents are asked for in between (`get?_performAll`).
-/

namespace OutlineNav

variable {κ σ : Type}

namespace Uri

/-! ## The text of an address -/

/-- A character that an address may have as it is. -/
def IsPlain (c : Char) : Prop :=
  c ∈ ['/', '.', '-', '_', '~'] ∨ ('a' ≤ c ∧ c ≤ 'z') ∨ ('A' ≤ c ∧ c ≤ 'Z') ∨ ('0' ≤ c ∧ c ≤ '9')

/-- A hexadecimal digit in upper case. -/
def IsHexDigit (c : Char) : Prop := c ∈ "0123456789ABCDEF".toList

/-- What an address may look like after its scheme. -/
inductive AddressText : List Char → Prop
  | nil : AddressText []
  | plain {c : Char} {rest : List Char} : IsPlain c → AddressText rest → AddressText (c :: rest)
  | percent {a b : Char} {rest : List Char} :
      IsHexDigit a → IsHexDigit b → AddressText rest → AddressText ('%' :: a :: b :: rest)

theorem isPlain_of_isSafe {c : Char} (h : isSafe c = true) : IsPlain c := by
  unfold isSafe Char.isAlphanum Char.isAlpha Char.isUpper Char.isLower Char.isDigit at h
  simp only [Bool.or_eq_true, Bool.and_eq_true, beq_iff_eq, decide_eq_true_eq] at h
  simp only [IsPlain, List.mem_cons, List.not_mem_nil, or_false, Char.le_def]
  tauto

theorem isHexDigit_hexDigit {n : Nat} (h : n < 16) : IsHexDigit (hexDigit n) := by
  have hall : ∀ k : Fin 16, hexDigit k ∈ "0123456789ABCDEF".toList := by decide
  exact hall ⟨n, h⟩

theorem hexValue?_hexDigit {n : Nat} (h : n < 16) : hexValue? (hexDigit n) = some n := by
  have hall : ∀ k : Fin 16, hexValue? (hexDigit k) = some k.val := by decide
  exact hall ⟨n, h⟩

/-- The two digits of a byte. -/
theorem digits_lt (b : UInt8) : b.toNat / 16 < 16 ∧ b.toNat % 16 < 16 := by
  have := b.toNat_lt
  omega

theorem AddressText.percentBytes (bytes : List UInt8) {rest : List Char} (h : AddressText rest) :
    AddressText (bytes.flatMap percentByte ++ rest) := by
  induction bytes with
  | nil => exact h
  | cons b bytes ih =>
    exact .percent (isHexDigit_hexDigit (digits_lt b).1) (isHexDigit_hexDigit (digits_lt b).2) ih

theorem AddressText.encode (path : List Char) : AddressText (encode path) := by
  induction path with
  | nil => exact .nil
  | cons c path ih =>
    rw [Uri.encode, List.flatMap_cons, encodeChar]
    split
    · next hsafe => exact .plain (isPlain_of_isSafe hsafe) ih
    · exact ih.percentBytes _

example : ofPath "/tmp/my project/a b.cpp" = "file:///tmp/my%20project/a%20b.cpp" := by decide

/-! ## Reading back -/

/-- A character that is not the percent sign stands for itself. -/
theorem percentDecode?_cons_of_ne {c : Char} (h : c ≠ '%') (rest : List Char) :
    percentDecode? (c :: rest) = (percentDecode? rest).map (String.utf8EncodeChar c ++ ·) := by
  rw [percentDecode?]
  · rw [bne_iff_ne.mpr h, Option.map_eq_bind]
    rfl
  · rintro a b rest' rfl
    exact absurd rfl h

theorem percentDecode?_percentByte (b : UInt8) (rest : List Char) :
    percentDecode? (percentByte b ++ rest) = (percentDecode? rest).map (b :: ·) := by
  have hvalue : UInt8.ofNat (b.toNat / 16 * 16 + b.toNat % 16) = b := by
    rw [Nat.div_add_mod', UInt8.ofNat_toNat]
  change percentDecode? ('%' :: hexDigit (b.toNat / 16) :: hexDigit (b.toNat % 16) :: rest) = _
  rw [percentDecode?, hexValue?_hexDigit (digits_lt b).1, hexValue?_hexDigit (digits_lt b).2]
  change (percentDecode? rest).bind (fun bytes => some (_ :: bytes)) = _
  rw [hvalue, Option.map_eq_bind]
  rfl

theorem percentDecode?_percentBytes (bytes : List UInt8) (rest : List Char) :
    percentDecode? (bytes.flatMap percentByte ++ rest) =
      (percentDecode? rest).map (bytes ++ ·) := by
  induction bytes with
  | nil => simp
  | cons b bytes ih =>
    rw [List.flatMap_cons, List.append_assoc, percentDecode?_percentByte, ih, Option.map_map]
    rfl

theorem percentDecode?_encodeChar (c : Char) (rest : List Char) :
    percentDecode? (encodeChar c ++ rest) =
      (percentDecode? rest).map (String.utf8EncodeChar c ++ ·) := by
  rw [encodeChar]
  split
  · next hsafe =>
    have hne : c ≠ '%' := by
      rintro rfl
      revert hsafe
      decide
    exact percentDecode?_cons_of_ne hne rest
  · exact percentDecode?_percentBytes _ rest

theorem percentDecode?_encode (path : List Char) :
    percentDecode? (encode path) = some (Text.encodeUtf8 path) := by
  induction path with
  | nil => rfl
  | cons c path ih =>
    rw [encode, List.flatMap_cons, percentDecode?_encodeChar]
    change (percentDecode? (encode path)).map _ = _
    rw [ih]
    rfl

theorem ofPath_injective : Function.Injective ofPath := by
  intro path path' h
  have htext : encode path.toList = encode path'.toList :=
    List.append_cancel_left (String.ofList_injective h)
  have hbytes := congrArg percentDecode? htext
  rw [percentDecode?_encode, percentDecode?_encode, Option.some_inj] at hbytes
  have hchars := congrArg Text.decodeUtf8 hbytes
  rw [Text.decodeUtf8_encodeUtf8, Text.decodeUtf8_encodeUtf8, Except.ok.injEq] at hchars
  exact String.toList_injective hchars

end Uri

/-! ## What is remembered of a document -/

namespace DocumentCall

/-- The document that a call is about. -/
def document : DocumentCall → String
  | sync uri _ => uri
  | close uri => uri

/-- The call about the document at a path, made with the address of the document. -/
def addressed : DocumentCall → DocumentCall
  | sync path text => sync (Uri.ofPath path) text
  | close path => close (Uri.ofPath path)

/-- A call made with an address is about the same document as the call made with its path. -/
theorem document_addressed_eq_iff (call : DocumentCall) (path : String) :
    call.addressed.document = Uri.ofPath path ↔ call.document = path := by
  cases call <;> exact Uri.ofPath_injective.eq_iff

end DocumentCall

/-- What is remembered of a document after a call about it that ended with `result`. -/
def OpenDocument.afterCall (digest : String → UInt64) (before : Option OpenDocument) :
    DocumentCall × Except ServiceError Unit → Option OpenDocument
  | (.sync _ text, result) =>
    match before with
    | none => if result.isOk then some ⟨1, digest text⟩ else none
    | some d => if d.digest = digest text then some d else some ⟨d.version + 1, digest text⟩
  | (.close _, _) => none

theorem OpenDocument.afterCall_addressed (digest : String → UInt64) (before : Option OpenDocument)
    (call : DocumentCall) (result : Except ServiceError Unit) :
    OpenDocument.afterCall digest before (call.addressed, result) =
      OpenDocument.afterCall digest before (call, result) := by
  cases call <;> rfl

namespace Connection

open Exchange

variable {digest : String → UInt64} {p : Server.Processes (StateM σ) κ}

/-- A call changes what is remembered by at most one event, written if and only if the call
succeeds. -/
theorem documents_perform (call : DocumentCall) (c : Connection κ) (w : σ) :
    (exec (call.perform digest p) c w).2.1.client.documents =
      match call.event? digest c.client with
      | none => c.client.documents
      | some event =>
        c.client.documents.afterEvent digest (exec (call.perform digest p) c w).1.isOk event := by
  cases hevent : call.event? digest c.client with
  | none => rw [exec_perform_of_none hevent]
  | some event =>
    rw [exec_perform_of_some hevent, exec_tell]
    cases hprocess : c.process with
    | none =>
      rw [exec_send_none hprocess]
      rfl
    | some process =>
      rw [exec_send_some hprocess]
      rcases (p.write process _).run w with ⟨_ | _, _⟩ <;> rfl

/-- What one call leaves remembered of the document that it is about. -/
theorem get?_perform_self (call : DocumentCall) (c : Connection κ) (w : σ) :
    (exec (call.perform digest p) c w).2.1.client.documents.get? call.document =
      OpenDocument.afterCall digest (c.client.documents.get? call.document)
        (call, (exec (call.perform digest p) c w).1) := by
  rw [documents_perform]
  generalize (exec (call.perform digest p) c w).1 = result
  cases call with
  | sync uri text =>
    rw [DocumentCall.event?, OpenDocuments.event?, DocumentCall.document]
    cases hget : c.client.documents.get? uri with
    | none =>
      dsimp only [OpenDocuments.afterEvent, OpenDocument.afterCall]
      split
      · exact Table.get?_insert_self _ _ _
      · exact hget
    | some d =>
      dsimp only [OpenDocument.afterCall]
      by_cases hsame : d.digest = digest text
      · rw [if_pos hsame, if_pos hsame]
        exact hget
      · rw [if_neg hsame, if_neg hsame]
        exact Table.get?_insert_self _ _ _
  | close uri =>
    rw [DocumentCall.event?, OpenDocuments.closing?, DocumentCall.document, Table.contains]
    cases hget : c.client.documents.get? uri with
    | none => exact hget
    | some d => exact Table.get?_erase_self _ _

/-- A call leaves what is remembered of any other document as it was. -/
theorem get?_perform_of_ne {call : DocumentCall} {uri : String} (h : uri ≠ call.document)
    (c : Connection κ) (w : σ) :
    (exec (call.perform digest p) c w).2.1.client.documents.get? uri =
      c.client.documents.get? uri := by
  rw [documents_perform]
  cases call with
  | sync uri' text =>
    rw [DocumentCall.event?, OpenDocuments.event?]
    cases c.client.documents.get? uri' with
    | none =>
      dsimp only [OpenDocuments.afterEvent]
      split
      · exact Table.get?_insert_ne _ h _
      · rfl
    | some d =>
      dsimp only
      by_cases hsame : d.digest = digest text
      · rw [if_pos hsame]
      · rw [if_neg hsame]
        exact Table.get?_insert_ne _ h _
  | close uri' =>
    rw [DocumentCall.event?, OpenDocuments.closing?]
    cases c.client.documents.contains uri' with
    | false => rfl
    | true => exact Table.get?_erase_ne _ h

/-- What is remembered of a document after many calls is made up of the calls about it. -/
theorem get?_performAll (calls : List DocumentCall) (c : Connection κ) (w : σ) (uri : String) :
    let run := performAll digest p calls c w
    run.2.1.client.documents.get? uri =
      ((calls.zip run.1).filter (·.1.document = uri)).foldl (OpenDocument.afterCall digest)
        (c.client.documents.get? uri) := by
  induction calls generalizing c w with
  | nil => rfl
  | cons call calls ih =>
    have hrest := ih (exec (call.perform digest p) c w).2.1 (exec (call.perform digest p) c w).2.2
    simp only [performAll, List.zip_cons_cons, List.filter_cons]
    rw [hrest]
    by_cases huri : call.document = uri
    · rw [if_pos (decide_eq_true huri), List.foldl_cons, ← huri, get?_perform_self]
    · rw [if_neg (ne_true_of_eq_false (decide_eq_false huri)), get?_perform_of_ne (Ne.symm huri)]

end Connection

/-- **Addresses are faithful.** The address of a document is its scheme and a text of plain
characters and percent forms that reads back as the UTF-8 bytes of the path. So no two paths have
one address, and what a client remembers of a document, after calls about any documents, is what the
calls about this one make of what was remembered of it before. -/
theorem file_addresses_faithful :
    (∀ path : String, ∃ text, (Uri.ofPath path).toList = "file://".toList ++ text ∧
      Uri.AddressText text ∧
      Uri.percentDecode? text = some (Text.encodeUtf8 path.toList)) ∧
    Function.Injective Uri.ofPath ∧
    ∀ (digest : String → UInt64) (p : Server.Processes (StateM σ) κ) (calls : List DocumentCall)
      (c : Connection κ) (w : σ) (path : String),
      let run := Connection.performAll digest p (calls.map DocumentCall.addressed) c w
      run.2.1.client.documents.get? (Uri.ofPath path) =
        ((calls.zip run.1).filter (·.1.document = path)).foldl (OpenDocument.afterCall digest)
          (c.client.documents.get? (Uri.ofPath path)) := by
  refine ⟨fun path => ?_, Uri.ofPath_injective, fun digest p calls c w path => ?_⟩
  · exact ⟨Uri.encode path.toList, String.toList_ofList, .encode _, Uri.percentDecode?_encode _⟩
  · intro run
    have hrun := @Connection.get?_performAll κ σ digest p (calls.map DocumentCall.addressed) c w
      (Uri.ofPath path)
    dsimp only at hrun
    rw [hrun, List.zip_map_left, List.filter_map, List.foldl_map]
    simp only [Prod.map, id, OpenDocument.afterCall_addressed, Function.comp_def,
      DocumentCall.document_addressed_eq_iff]
    rfl

end OutlineNav
