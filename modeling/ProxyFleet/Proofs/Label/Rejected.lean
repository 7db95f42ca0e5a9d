import ProxyFleet.Label.Tree

/-!
Which labels describe no blocks at all: those with a name that is no path or with a value that is a
template and cannot be read. What the functions do and what the data is makes no difference, only
which functions there are.
-/

namespace ProxyFleet

namespace Template

def Functions.SameNames (fs fs' : Functions) : Prop := ∀ name, fs.defines name = fs'.defines name

section SameNames

variable {fs fs' : Functions} (h : fs.SameNames fs')
include h

theorem assemble_congr (outer : List Partial) (current : Partial) (chained : Bool) (ls : Lexemes) :
    assemble fs outer current chained ls = assemble fs' outer current chained ls := by
  induction ls generalizing outer current chained with
  | closed last after => rfl
  | broken e => rfl
  | next l rest ih => simp only [assemble, h _, ih]

theorem action_congr (c : Cursor) : action fs c = action fs' c := by
  simp only [action, assemble_congr h]

theorem nodes_congr (c : Cursor) : nodes fs c = nodes fs' c := by
  have haction (c : Cursor) : action fs c = action fs' c := action_congr h c
  fun_induction nodes fs c <;> grind [nodes]

/-- Whether a template can be read depends on the names of functions only. -/
theorem parse_congr (text : String) : parse fs text = parse fs' text := nodes_congr h _

end SameNames

end Template

namespace Label

open Template (Functions)

def Unreadable (fs : Functions) (label value : String) : Prop :=
  (∃ fault, path? label = .error fault) ∨
    isTemplate value = true ∧ ∃ e, Template.parse fs value = .error e

theorem Unreadable.congr {fs fs' : Functions} (h : fs.SameNames fs') {label value : String} :
    Unreadable fs label value ↔ Unreadable fs' label value := by
  rw [Unreadable, Unreadable, Template.parse_congr h]

variable {fs : Functions} (data : Json)

/-- A template that can be read always has a text. -/
theorem exists_expand_error_iff {value : String} :
    (∃ e, expand fs data value = .error e) ↔
      isTemplate value = true ∧ ∃ e, Template.parse fs value = .error e := by
  unfold expand
  cases isTemplate value with
  | false => simp
  | true =>
    cases Template.parse fs value with
    | error e => simp
    | ok nodes =>
      simp only [if_true]
      split <;> simp

theorem exists_plant_error_iff (branches : List Branch) {label value : String} :
    (∃ e, plant fs data branches label value = .error e) ↔ Unreadable fs label value := by
  unfold plant Unreadable
  cases path? label with
  | error fault => simp
  | ok path =>
    rw [← exists_expand_error_iff data]
    cases expand fs data value <;> simp

theorem exists_plantAll_error_iff {labels : List (String × String)} (branches : List Branch) :
    (∃ e, plantAll fs data labels branches = .error e) ↔
      ∃ entry ∈ labels, Unreadable fs entry.1 entry.2 := by
  induction labels generalizing branches with
  | nil => simp [plantAll]
  | cons entry rest ih =>
    simp only [List.mem_cons, exists_eq_or_imp]
    rw [← exists_plant_error_iff data branches, plantAll]
    cases plant fs data branches entry.1 entry.2 with
    | error e => simp
    | ok grown => simp [ih]

/-- Labels describe no blocks if and only if one of them cannot be read. -/
theorem exists_blocks_error_iff {labels : Keyed String} :
    (∃ e, blocks fs data labels = .error e) ↔
      ∃ entry ∈ labels.entries, Unreadable fs entry.1 entry.2 := by
  rw [← exists_plantAll_error_iff data [], blocks]
  cases plantAll fs data labels.entries [] <;> simp [Except.map]

end Label

end ProxyFleet
