import GatewayClient.Text.Basic
import Mathlib.Data.List.DropRight
import Mathlib.Data.List.TakeWhile

/-!
# GatewayClient.Proofs.Text.Trimming

What dropping characters at the ends of a text leaves. At the back it can be done by several rules
in turn: each of them sees only what the one before has left, but a wider rule at the end makes up
for all of them (`rdropWhile_rdropWhile`). A text that is cut at a separator is cut at the first
one.
-/

namespace GatewayClient.Text

variable {α : Type*} {p q : α → Bool} {xs ys : List α} {x : α}

/-! ## dropping at the back -/

/-- What is left does not end in what is dropped. -/
theorem last_rdropWhile (last : (xs.rdropWhile p).getLast? = some x) : p x = false := by
  obtain ⟨full, rfl⟩ := List.mem_getLast?_eq_getLast last
  simpa using List.rdropWhile_last_not p xs full

/-- Nothing is dropped exactly if the last element, where there is one, is none that is. -/
theorem rdropWhile_eq_self : xs.rdropWhile p = xs ↔ ∀ x, xs.getLast? = some x → p x = false := by
  rw [List.rdropWhile_eq_self_iff]
  refine ⟨fun own x last => ?_, fun own full => ?_⟩
  · obtain ⟨full, rfl⟩ := List.mem_getLast?_eq_getLast last
    simpa using own full
  · simpa using own _ (List.getLast?_eq_some_getLast full)

theorem rdropWhile_append_of_pos (all : ∀ y ∈ ys, p y = true) :
    (xs ++ ys).rdropWhile p = xs.rdropWhile p := by
  rw [List.rdropWhile, List.reverse_append, List.dropWhile_append_of_pos (by simpa using all),
    List.rdropWhile]

/-- What a rule drops at the back, a wider rule drops as well. -/
theorem rdropWhile_rdropWhile (wider : ∀ x, p x = true → q x = true) (xs : List α) :
    (xs.rdropWhile p).rdropWhile q = xs.rdropWhile q := by
  have dropped : ∀ y ∈ xs.rtakeWhile p, q y = true := fun y member =>
    wider y (List.mem_rtakeWhile_imp member)
  conv => rhs; rw [← List.rdropWhile_append_rtakeWhile (p := p) (l := xs)]
  rw [rdropWhile_append_of_pos dropped]

/-! ## cutting at a separator -/

section separators

variable [BEq α] [LawfulBEq α]

theorem bne_of_not_mem (bare : x ∉ xs) : ∀ y ∈ xs, (y != x) = true := by
  intro y member
  rw [bne_iff_ne]
  rintro rfl
  exact bare member

theorem takeWhile_of_not_mem (bare : x ∉ xs) : xs.takeWhile (· != x) = xs :=
  List.takeWhile_eq_self_iff.mpr (bne_of_not_mem bare)

theorem dropWhile_of_not_mem (bare : x ∉ xs) : xs.dropWhile (· != x) = [] :=
  List.dropWhile_eq_nil_iff.mpr (bne_of_not_mem bare)

/-- What stands before the first separator. -/
theorem takeWhile_append_cons (bare : x ∉ xs) (ys : List α) :
    (xs ++ x :: ys).takeWhile (· != x) = xs := by
  rw [List.takeWhile_append_of_pos (bne_of_not_mem bare)]
  simp

/-- The first separator and what stands behind it. -/
theorem dropWhile_append_cons (bare : x ∉ xs) (ys : List α) :
    (xs ++ x :: ys).dropWhile (· != x) = x :: ys := by
  rw [List.dropWhile_append_of_pos (bne_of_not_mem bare)]
  simp

end separators

/-! ## blanks -/

variable {cs ds : List Char}

/-- Blanks in front are dropped, whatever follows. -/
theorem trimStart_append_of_blank (blank : ∀ c ∈ cs, isBlank c = true) :
    trimStart (cs ++ ds) = trimStart ds := List.dropWhile_append_of_pos blank

/-- Trimming the front stops at a character that is not blank. -/
theorem trimStart_append (visible : ∃ c ∈ cs, isBlank c = false) :
    trimStart (cs ++ ds) = trimStart cs ++ ds := by
  have full : (cs.dropWhile isBlank).isEmpty = false := by simpa using visible
  rw [trimStart, List.dropWhile_append, full]
  rfl

/-- The beginning of a text that was trimmed begins with no blank either. -/
theorem trimStart_of_prefix (front : ds <+: trimStart cs) : trimStart ds = ds := by
  cases ds with
  | nil => rfl
  | cons d ds =>
    obtain ⟨rest, whole⟩ := front
    have visible := isBlank_of_trimStart_eq_cons whole.symm
    rw [trimStart, List.dropWhile_cons_of_neg (by simp [visible])]

end GatewayClient.Text
