import OutlineNav.Proofs.Members
import OutlineNav.Symbol.Codec

/-!
# Records of symbols

What the members of a record are read as: words, positions and ranges as what was written
(`Range.decode_toJson`), and a symbol as the symbol that its members tell (`ofMembers_of_members`),
in either form of symbol trees. The children of a symbol are read first, and from the same members
(`childrenMember_eq`). Both forms write the same members (`Symbol.fields`), and differ in what
stands for the kind and in when a detail or the children are left out (`readTree_fields`).
-/

namespace OutlineNav

open Json
open Json.Decoder

/-! ## Positions and ranges -/

theorem Json.Decoder.u32_word (n : UInt32) : u32 (.word n) = .ok n := by
  have hlt := n.toNat_lt
  have hfits : (0 : Int) ≤ n.toNat ∧ (n.toNat : Int) ≤ UInt32.size - 1 := by
    rw [UInt32.size]
    omega
  rw [u32, word, integer, if_pos hfits]
  exact congrArg Except.ok (UInt32.ofNat_toNat (x := n))

theorem Position.decode_toJson (p : Position) : Position.decode p.toJson = .ok p := by
  simp only [Position.toJson, Position.decode, record, member?, Named.lookup?, String.reduceEq,
    if_true, if_false, u32_word]
  rfl

theorem Range.decode_toJson (r : Range) : Range.decode r.toJson = .ok r := by
  simp only [Range.toJson, Range.decode, record, member?, Named.lookup?, String.reduceEq,
    if_true, if_false, Position.decode_toJson]
  rfl

/-! ## Symbols -/

namespace Symbol

variable {form : SymbolForm} {ms : List (String × Json)}

theorem childrenMember_eq (form : SymbolForm) (ms : List (String × Json)) :
    childrenMember form ms = (member? (readChildren form) "children" ms).map (·.getD []) := by
  induction ms with
  | nil => rfl
  | cons m rest ih =>
      obtain ⟨k, v⟩ := m
      rw [childrenMember, ih, member?, member?, Named.lookup?]
      by_cases h : k = "children"
      · rw [if_pos h, if_pos h]
        show _ = ((readChildren form v).map some).map (·.getD [])
        cases readChildren form v <;> rfl
      · rw [if_neg h, if_neg h]

theorem ofMembers_of_members {name : String} {detail? : Option String} {kind : SymbolKind}
    {range selectionRange : Range} (hdetail : member? form.detail "detail" ms = .ok detail?)
    (hkind : member? form.kind "kind" ms = .ok (some kind))
    (hname : member? string "name" ms = .ok (some name))
    (hrange : member? Range.decode "range" ms = .ok (some range))
    (hselection : member? Range.decode "selectionRange" ms = .ok (some selectionRange))
    (children : List Symbol) :
    ofMembers form (.ok children) ms =
      .ok ⟨name, detail?.getD "", kind, range, selectionRange, children⟩ := by
  rw [ofMembers, hdetail, hkind, hname, hrange, hselection]
  rfl

/-- The members of a written symbol, in the order of their keys. -/
def fields (children? detail? : Option Json) (kind : Json) (name : String)
    (range selectionRange : Range) : List (String × Option Json) :=
  [("children", children?), ("detail", detail?), ("kind", some kind), ("name", some (.str name)),
    ("range", some range.toJson), ("selectionRange", some selectionRange.toJson)]

theorem nodup_fields (children? detail? : Option Json) (kind : Json) (name : String)
    (range selectionRange : Range) :
    ((fields children? detail? kind name range selectionRange).map (·.1)).Nodup := by
  show ["children", "detail", "kind", "name", "range", "selectionRange"].Nodup
  decide

/-- A written symbol is read back if its children, its detail and its kind are. -/
theorem readTree_fields {children? detail? : Option Json} {kindJson : Json} {children : List Symbol}
    {text? : Option String} {kind : SymbolKind}
    (hchildren : (children?.mapM (readChildren form)).map (·.getD []) = .ok children)
    (hdetail : detail?.mapM form.detail = .ok text?) (hkind : form.kind kindJson = .ok kind)
    (name : String) (range selectionRange : Range) :
    readTree form (.obj (present (fields children? detail? kindJson name range selectionRange))) =
      .ok ⟨name, text?.getD "", kind, range, selectionRange, children⟩ := by
  have hnodup := nodup_fields children? detail? kindJson name range selectionRange
  rw [readTree, childrenMember_eq, member?_present hnodup (i := 0) rfl, hchildren]
  exact ofMembers_of_members ((member?_present hnodup (i := 1) rfl _).trans hdetail)
    (member?_present_some hnodup (i := 2) rfl hkind) (member?_present_some hnodup (i := 3) rfl rfl)
    (member?_present_some hnodup (i := 4) rfl (Range.decode_toJson _))
    (member?_present_some hnodup (i := 5) rfl (Range.decode_toJson _)) children

end Symbol

end OutlineNav
