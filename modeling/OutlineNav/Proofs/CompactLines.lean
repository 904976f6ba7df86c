import OutlineNav.Json.Printer
import OutlineNav.Proofs.Grammar

/-!
# Values on one line

A value that is written without blanks has no line end in its text, whatever it is: texts in it have
their line ends escaped, and numbers are made of digits and signs. So an answer takes exactly one
line.
-/

namespace OutlineNav

/-- The text stays on one line. -/
def OnOneLine (text : List Char) : Prop := '\n' ∉ text

instance (text : List Char) : Decidable (OnOneLine text) :=
  inferInstanceAs (Decidable ('\n' ∉ text))

namespace OnOneLine

variable {s t : List Char}

theorem nil : OnOneLine [] := List.not_mem_nil

theorem append (hs : OnOneLine s) (ht : OnOneLine t) : OnOneLine (s ++ t) := by
  rw [OnOneLine, List.mem_append, not_or]
  exact ⟨hs, ht⟩

theorem cons {c : Char} (hc : c ≠ '\n') (ht : OnOneLine t) : OnOneLine (c :: t) := by
  rw [OnOneLine, List.mem_cons, not_or]
  exact ⟨hc.symm, ht⟩

theorem of_subset (h : OnOneLine t) (hsub : s ⊆ t) : OnOneLine s := fun hmem => h (hsub hmem)

theorem replicate {c : Char} (hc : c ≠ '\n') (n : Nat) : OnOneLine (List.replicate n c) :=
  fun hmem => hc (List.eq_of_mem_replicate hmem).symm

theorem toDigits (n : Nat) : OnOneLine (Nat.toDigits 10 n) := fun hmem =>
  absurd (Nat.isDigit_of_mem_toDigits (by decide) (by decide) hmem) (by decide)

theorem toString_int (n : Int) : OnOneLine (toString n).toList := by
  cases n with
  | ofNat n =>
    have htext : (toString (Int.ofNat n)).toList = Nat.toDigits 10 n := Text.toList_toString n
    rw [htext]
    exact toDigits n
  | negSucc n =>
    have htext : (toString (Int.negSucc n)).toList = '-' :: Nat.toDigits 10 (n + 1) := by
      rw [← Text.toList_toString]
      exact String.toList_append
    rw [htext]
    exact cons (by decide) (toDigits (n + 1))

end OnOneLine

/-! ## Numbers -/

theorem Double.Decimal.onOneLine_text (x : Decimal) : OnOneLine x.text.toList := by
  have hdigits : OnOneLine (Nat.toDigits 10 x.digits) := .toDigits x.digits
  have hscale (point : Int) :
      OnOneLine ((if point < 1 then [] else ['+']) ++ (toString (point - 1)).toList) := by
    refine .append ?_ (.toString_int _)
    split <;> decide
  rw [text, String.toList_ofList]
  dsimp only
  split
  · exact (hdigits.append (.replicate (by decide) _)).append (by decide)
  split
  · exact ((hdigits.of_subset (List.take_subset _ _)).append (by decide)).append
      (hdigits.of_subset (List.drop_subset _ _))
  split
  · exact (OnOneLine.append (by decide) (.replicate (by decide) _)).append hdigits
  · split
    · next d hd =>
      rw [hd] at hdigits
      exact (hdigits.append (t := ['e']) (by decide)).append (hscale _)
    · next d rest _ hd =>
      rw [hd] at hdigits
      have hfront : OnOneLine [d] :=
        hdigits.of_subset (List.cons_subset_cons d (List.nil_subset rest))
      have hrest : OnOneLine rest := hdigits.of_subset (List.subset_cons_self d rest)
      exact (((hfront.append (t := ['.']) (by decide)).append hrest).append (by decide)).append
        (hscale _)
    · exact .nil

theorem Json.onOneLine_floatText (d : Double) : OnOneLine (floatText d).toList := by
  rw [floatText, Double.text?]
  split
  · rw [Option.getD_some, String.toList_append]
    refine .append ?_ ?_
    · split <;> decide
    · split
      · decide
      · exact Double.Decimal.onOneLine_text _
  · decide

/-! ## Texts -/

namespace Json

theorem onOneLine_escapeChar (c : Char) : OnOneLine (escapeChar c).toList := by
  rw [escapeChar]
  split
  · decide
  split
  · decide
  split
  · decide
  next hc =>
  split
  · decide
  split
  · decide
  split
  · decide
  split
  · decide
  split
  · rw [String.toList_append, String.toList_ofList (l := [_, _])]
    have hdigit : ∀ k : Fin 16, Nat.digitChar k ≠ '\n' := by decide
    have hhigh : c.toNat / 16 < 16 := by omega
    have hlow : c.toNat % 16 < 16 := by omega
    exact .append (by decide) (.cons (hdigit ⟨_, hhigh⟩) (.cons (hdigit ⟨_, hlow⟩) .nil))
  · rw [Char.toString, String.toList_singleton]
    exact .cons hc .nil

theorem onOneLine_quote (s : String) : OnOneLine (quote s).toList := by
  have hchars : OnOneLine (s.toList.flatMap fun c => (escapeChar c).toList) := by
    intro hmem
    obtain ⟨c, -, hc⟩ := List.mem_flatMap.mp hmem
    exact onOneLine_escapeChar c hc
  rw [toList_quote]
  exact (OnOneLine.cons (by decide) hchars).append (by decide)

/-! ## Values -/

mutual

theorem onOneLine_compact (v : Json) : OnOneLine v.compact.toList := by
  cases v with
  | null => decide
  | bool b => cases b <;> decide
  | int n => exact .toString_int n
  | float d => exact onOneLine_floatText d
  | str s => exact onOneLine_quote s
  | arr items =>
    rw [compact, String.toList_append, String.toList_append]
    exact (OnOneLine.append (by decide) (onOneLine_compactItems items)).append (by decide)
  | obj members =>
    rw [compact, String.toList_append, String.toList_append]
    exact (OnOneLine.append (by decide) (onOneLine_compactMembers members)).append (by decide)

theorem onOneLine_compactItems (items : List Json) : OnOneLine (compactItems items).toList := by
  cases items with
  | nil => exact .nil
  | cons v items =>
    have hv := onOneLine_compact v
    cases items with
    | nil => exact hv
    | cons w items =>
      rw [compactItems, String.toList_append, String.toList_append]
      · exact (hv.append (by decide)).append (onOneLine_compactItems (w :: items))
      · exact List.cons_ne_nil w items

theorem onOneLine_compactMembers (members : List (String × Json)) :
    OnOneLine (compactMembers members).toList := by
  cases members with
  | nil => exact .nil
  | cons m members =>
    obtain ⟨k, v⟩ := m
    have hfirst : OnOneLine (quote k ++ ":" ++ compact v).toList := by
      rw [String.toList_append, String.toList_append]
      exact ((onOneLine_quote k).append (by decide)).append (onOneLine_compact v)
    cases members with
    | nil => exact hfirst
    | cons w members =>
      rw [compactMembers, String.toList_append, String.toList_append]
      · exact (hfirst.append (by decide)).append (onOneLine_compactMembers (w :: members))
      · exact List.cons_ne_nil w members

end

end Json

end OutlineNav
