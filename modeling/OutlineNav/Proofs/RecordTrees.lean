import Mathlib.Logic.Function.Defs
import OutlineNav.Proofs.SymbolRecords

/-!
# Symbols in record form

A symbol in record form has its kind by name, and its detail and its children where it has any. The
twenty-six names are different, and what is left out is read as what was left out, at every symbol
of the tree; so a tree of any depth is read back as itself (`Symbol.record_form_faithful`).
-/

namespace OutlineNav

open Json
open Json.Decoder

theorem Json.Decoder.variant_str {α : Type} {named : String → Option α} {known : List String}
    {name : String} {a : α} (h : named name = some a) :
    variant named known (.str name) = .ok a := by
  simp only [variant, h]

/-! ## Kinds by name -/

namespace SymbolKind

theorem ofName?_name (kind : SymbolKind) : ofName? kind.name = some kind := by
  cases kind <;> rfl

theorem name_injective : Function.Injective name := by
  intro a b h
  have ha := ofName?_name a
  rw [h, ofName?_name] at ha
  exact (Option.some.inj ha).symm

theorem decode_name (kind : SymbolKind) : decode (.str kind.name) = .ok kind :=
  variant_str kind.ofName?_name

end SymbolKind

namespace Symbol

/-! ## Members -/

/-- What is written for the children, if there are any. -/
def childrenField? (children : List Symbol) : Option Json :=
  if children.isEmpty then none else some (.arr (forestToJson children))

/-- What is written for a detail, if it is not empty. -/
def detailField? (detail : String) : Option Json :=
  if detail.isEmpty then none else some (.str detail)

theorem toJson_eq (s : Symbol) : s.toJson = .obj (present (fields (childrenField? s.children)
    (detailField? s.detail) (.str s.kind.name) s.name s.range s.selectionRange)) := by
  cases s; rfl

theorem detailField?_of_ne {detail : String} (h : detail ≠ "") :
    detailField? detail = some (.str detail) := by
  rw [detailField?, if_neg (mt String.isEmpty_iff.mp h)]

theorem isSome_childrenField? (children : List Symbol) :
    (childrenField? children).isSome ↔ children ≠ [] := by
  cases children with
  | nil => exact iff_of_false Bool.false_ne_true fun h => h rfl
  | cons s rest => exact iff_of_true rfl (List.cons_ne_nil s rest)

theorem isSome_detailField? (detail : String) : (detailField? detail).isSome ↔ detail ≠ "" := by
  obtain rfl | hne := Decidable.em (detail = "")
  · exact iff_of_false Bool.false_ne_true fun h => h rfl
  · rw [detailField?_of_ne hne]
    exact iff_of_true rfl hne

/-- The members of a symbol: children if there are any, a detail if it is not empty, and four that
every symbol has. -/
theorem isSome_get?_toJson (s : Symbol) (key : String) : (s.toJson.get? key).isSome ↔
    key = "children" ∧ s.children ≠ [] ∨ key = "detail" ∧ s.detail ≠ "" ∨
      key ∈ ["kind", "name", "range", "selectionRange"] := by
  rw [toJson_eq, get?, isSome_lookup?_present (nodup_fields ..), ← isSome_childrenField?,
    ← isSome_detailField?, Option.isSome_iff_exists, Option.isSome_iff_exists]
  simp only [fields, List.mem_cons, Prod.mk.injEq, List.not_mem_nil, or_false, exists_or,
    exists_and_left, Option.some.injEq, exists_eq, and_true, eq_comm]

/-! ## Reading back -/

theorem exists_mapM_detailField? (detail : String) : ∃ text? : Option String,
    (detailField? detail).mapM SymbolForm.record.detail = .ok text? ∧ text?.getD "" = detail := by
  obtain rfl | hne := Decidable.em (detail = "")
  · exact ⟨none, rfl, rfl⟩
  · rw [detailField?_of_ne hne]
    exact ⟨some detail, rfl, rfl⟩

theorem mapM_childrenField? {children : List Symbol}
    (h : readForest .record (forestToJson children) = .ok children) :
    ((childrenField? children).mapM (readChildren .record)).map (·.getD []) = .ok children := by
  cases children with
  | nil => rfl
  | cons s rest =>
      have hread : readChildren .record (.arr (forestToJson (s :: rest))) = .ok (s :: rest) := h
      have hfield : childrenField? (s :: rest) = some (.arr (forestToJson (s :: rest))) := rfl
      rw [hfield, Option.mapM_some, hread]
      rfl

theorem readTree_of_children {s : Symbol}
    (h : readForest .record (forestToJson s.children) = .ok s.children) :
    readTree .record s.toJson = .ok s := by
  obtain ⟨text?, hdetail, htext⟩ := exists_mapM_detailField? s.detail
  have hkind : SymbolForm.record.kind (.str s.kind.name) = .ok s.kind := s.kind.decode_name
  rw [toJson_eq, readTree_fields (mapM_childrenField? h) hdetail hkind, htext]
  cases s
  rfl

theorem readForest_forestToJson (forest : List Symbol) :
    readForest .record (forestToJson forest) = .ok forest := by
  induction forest using forest_induction with
  | nil => rfl
  | cons s rest ihchildren ihrest =>
      rw [forestToJson, readForest, readTree_of_children ihchildren, ihrest]
      rfl

theorem decode_toJson (s : Symbol) : decode s.toJson = .ok s :=
  readTree_of_children (readForest_forestToJson s.children)

/-- **Record form.** Every symbol and every list of symbols is read back from its record form, with
all that it holds. A record has the members of a symbol, without an empty detail and without
children if there are none, and its kind by a name that no other kind has. -/
theorem record_form_faithful :
    (∀ s : Symbol, decode s.toJson = .ok s) ∧
    (∀ forest : List Symbol, decodeForest .record (.arr (forestToJson forest)) = .ok forest) ∧
    (∀ (s : Symbol) (key : String), (s.toJson.get? key).isSome ↔
      key = "children" ∧ s.children ≠ [] ∨ key = "detail" ∧ s.detail ≠ "" ∨
        key ∈ ["kind", "name", "range", "selectionRange"]) ∧
    (∀ s : Symbol, s.toJson.get? "kind" = some (.str s.kind.name)) ∧
    Function.Injective SymbolKind.name := by
  refine ⟨decode_toJson, readForest_forestToJson, isSome_get?_toJson, fun s => ?_,
    SymbolKind.name_injective⟩
  rw [toJson_eq, get?, lookup?_present (nodup_fields ..)]
  rfl

end Symbol

end OutlineNav
