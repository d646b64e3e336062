import SqlTree.Vocabulary.Expression
import SqlTree.Vocabulary.Query

/-!
# Tables of values

The two tables of an enumeration agree with its list of values, and so with each other: the code and
the symbol in one row of the list stand for the value in that row (`Vocabulary.resolve?_eq_of_row`),
and there are no other codes or symbols. The code of a value stands for that value and for no other.

A vocabulary is lawful by a look at each row of its tables; what follows from that is shown for all
of them at once.
-/

namespace SqlTree

open Vocabulary

/-- The tables of a vocabulary are those of its list of values, which is complete and short. -/
class LawfulVocabulary (ε : Type) [Vocabulary ε] [BEq ε] : Prop where
  /-- A code stands for the value at that place of the list, -/
  ofCode?_natCast : ∀ n : Nat, (ofCode? n : Option ε) = entries[n]?.map Prod.fst
  /-- and nothing has a negative code. -/
  ofCode?_negSucc : ∀ n : Nat, (ofCode? (.negSucc n) : Option ε) = none
  /-- A symbol stands for the value that is listed with it, -/
  ofSymbol?_of_mem : ∀ row ∈ (entries : List (ε × String)), ofSymbol? row.2 = some row.1
  /-- and nothing has a symbol that is not listed. -/
  ofSymbol?_of_notMem : ∀ symbol, symbol ∉ (entries : List (ε × String)).map Prod.snd →
    (ofSymbol? symbol : Option ε) = none
  /-- Each value is the one with its code. -/
  resolve?_code : ∀ value : ε, resolve? (.code (code value)) = some value
  length_entries : (entries : List (ε × String)).length ≤ 16

attribute [simp] LawfulVocabulary.resolve?_code

instance : LawfulVocabulary SetOperation where
  ofCode?_natCast := by rintro (_ | _ | _ | _ | n) <;> rfl
  ofCode?_negSucc _ := rfl
  ofSymbol?_of_mem := by decide
  ofSymbol?_of_notMem symbol missing := by
    simp only [ofSymbol?]
    split <;> simp_all [entries]
  resolve?_code := by rintro (_ | _) <;> rfl
  length_entries := by decide

instance : LawfulVocabulary JoinType where
  ofCode?_natCast := by rintro (_ | _ | _ | _ | n) <;> rfl
  ofCode?_negSucc _ := rfl
  ofSymbol?_of_mem := by decide
  ofSymbol?_of_notMem symbol missing := by
    simp only [ofSymbol?]
    split <;> simp_all [entries]
  resolve?_code := by rintro (_ | _) <;> rfl
  length_entries := by decide

instance : LawfulVocabulary SubLinkType where
  ofCode?_natCast := by rintro (_ | _ | _ | _ | _ | _ | _ | _ | n) <;> rfl
  ofCode?_negSucc _ := rfl
  ofSymbol?_of_mem := by decide
  ofSymbol?_of_notMem symbol missing := by
    simp only [ofSymbol?]
    split <;> simp_all [entries]
  resolve?_code := by rintro (_ | _) <;> rfl
  length_entries := by decide

instance : LawfulVocabulary SortByDir where
  ofCode?_natCast := by rintro (_ | _ | _ | _ | n) <;> rfl
  ofCode?_negSucc _ := rfl
  ofSymbol?_of_mem := by decide
  ofSymbol?_of_notMem symbol missing := by
    simp only [ofSymbol?]
    split <;> simp_all [entries]
  resolve?_code := by rintro (_ | _) <;> rfl
  length_entries := by decide

instance : LawfulVocabulary SortByNulls where
  ofCode?_natCast := by rintro (_ | _ | _ | n) <;> rfl
  ofCode?_negSucc _ := rfl
  ofSymbol?_of_mem := by decide
  ofSymbol?_of_notMem symbol missing := by
    simp only [ofSymbol?]
    split <;> simp_all [entries]
  resolve?_code := by rintro (_ | _) <;> rfl
  length_entries := by decide

instance : LawfulVocabulary OnCommitAction where
  ofCode?_natCast := by rintro (_ | _ | _ | _ | n) <;> rfl
  ofCode?_negSucc _ := rfl
  ofSymbol?_of_mem := by decide
  ofSymbol?_of_notMem symbol missing := by
    simp only [ofSymbol?]
    split <;> simp_all [entries]
  resolve?_code := by rintro (_ | _) <;> rfl
  length_entries := by decide

instance : LawfulVocabulary BoolExprType where
  ofCode?_natCast := by rintro (_ | _ | _ | n) <;> rfl
  ofCode?_negSucc _ := rfl
  ofSymbol?_of_mem := by decide
  ofSymbol?_of_notMem symbol missing := by
    simp only [ofSymbol?]
    split <;> simp_all [entries]
  resolve?_code := by rintro (_ | _) <;> rfl
  length_entries := by decide

instance : LawfulVocabulary NullTestType where
  ofCode?_natCast := by rintro (_ | _ | n) <;> rfl
  ofCode?_negSucc _ := rfl
  ofSymbol?_of_mem := by decide
  ofSymbol?_of_notMem symbol missing := by
    simp only [ofSymbol?]
    split <;> simp_all [entries]
  resolve?_code := by rintro (_ | _) <;> rfl
  length_entries := by decide

instance : LawfulVocabulary BoolTestType where
  ofCode?_natCast := by rintro (_ | _ | _ | _ | _ | _ | n) <;> rfl
  ofCode?_negSucc _ := rfl
  ofSymbol?_of_mem := by decide
  ofSymbol?_of_notMem symbol missing := by
    simp only [ofSymbol?]
    split <;> simp_all [entries]
  resolve?_code := by rintro (_ | _) <;> rfl
  length_entries := by decide

instance : LawfulVocabulary CoercionForm where
  ofCode?_natCast := by rintro (_ | _ | _ | _ | n) <;> rfl
  ofCode?_negSucc _ := rfl
  ofSymbol?_of_mem := by decide
  ofSymbol?_of_notMem symbol missing := by
    simp only [ofSymbol?]
    split <;> simp_all [entries]
  resolve?_code := by rintro (_ | _) <;> rfl
  length_entries := by decide

instance : LawfulVocabulary AExprKind where
  ofCode?_natCast := by
    rintro (_ | _ | _ | _ | _ | _ | _ | _ | _ | _ | _ | _ | _ | _ | _ | _ | n) <;> rfl
  ofCode?_negSucc _ := rfl
  ofSymbol?_of_mem := by decide
  ofSymbol?_of_notMem symbol missing := by
    simp only [ofSymbol?]
    split <;> simp_all [entries]
  resolve?_code := by rintro (_ | _) <;> rfl
  length_entries := by decide

instance : LawfulVocabulary MinMaxOp where
  ofCode?_natCast := by rintro (_ | _ | n) <;> rfl
  ofCode?_negSucc _ := rfl
  ofSymbol?_of_mem := by decide
  ofSymbol?_of_notMem symbol missing := by
    simp only [ofSymbol?]
    split <;> simp_all [entries]
  resolve?_code := by rintro (_ | _) <;> rfl
  length_entries := by decide

instance : LawfulVocabulary SqlValueFunctionOp where
  ofCode?_natCast := by
    rintro (_ | _ | _ | _ | _ | _ | _ | _ | _ | _ | _ | _ | _ | _ | _ | n) <;> rfl
  ofCode?_negSucc _ := rfl
  ofSymbol?_of_mem := by decide
  ofSymbol?_of_notMem symbol missing := by
    simp only [ofSymbol?]
    split <;> simp_all [entries]
  resolve?_code := by rintro (_ | _) <;> rfl
  length_entries := by decide

namespace Vocabulary

variable {ε : Type} [Vocabulary ε] [BEq ε] [LawfulVocabulary ε]

/-- The code and the symbol in a row of the list stand for the same value, the one in that row. -/
theorem resolve?_eq_of_row {n : Nat} {value : ε} {symbol : String}
    (row : entries[n]? = some (value, symbol)) :
    resolve? (ε := ε) (.code n) = resolve? (.symbol symbol) := by
  have byCode : resolve? (ε := ε) (.code n) = some value := by
    rw [resolve?, LawfulVocabulary.ofCode?_natCast, row]
    rfl
  have bySymbol : resolve? (ε := ε) (.symbol symbol) = some value :=
    LawfulVocabulary.ofSymbol?_of_mem _ (List.mem_of_getElem? row)
  rw [byCode, bySymbol]

/-- No vocabulary has more than sixteen values after its first. -/
theorem code_bounds (value : ε) : 0 ≤ code value ∧ code value ≤ 16 := by
  have le : (entries : List (ε × String)).findIdx (fun entry => entry.1 == value) ≤
      (entries : List (ε × String)).length := List.findIdx_le_length
  have small : (entries : List (ε × String)).length ≤ 16 := LawfulVocabulary.length_entries
  unfold code
  omega

/-- No two values have the same code. -/
theorem eq_of_code_eq {v w : ε} (h : code v = code w) : v = w := by
  have found := LawfulVocabulary.resolve?_code v
  rw [h, LawfulVocabulary.resolve?_code] at found
  exact (Option.some.inj found).symm

end Vocabulary

end SqlTree
