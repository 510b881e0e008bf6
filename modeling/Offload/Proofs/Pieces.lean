/-
**Texts cut at their ends and at their separators.**

What is left of a text when its blanks at the ends, a given start, or its separators are taken away.

Main definitions:

* `Offload.Text.IsWord` — a text without any blanks;
* `Offload.Text.Padded` — a text with blanks around it;
* `Offload.Text.Cut` — a list is cut into pieces at its separators.

Main results:

* `Offload.Text.trim_padded` — blanks around a word are dropped, and nothing else;
* `Offload.Text.trim_eq_iff` — the texts that a word is left of;
* `Offload.Text.withoutPrefix?_eq_some_iff` — what follows a given start;
* `Offload.Text.cut_iff` — a list is cut in one way.
-/

import Offload.Text.Blank
import Offload.Text.Path

set_option autoImplicit false

namespace Offload.Text

/-! ### Ends -/

section Ends

variable {α : Type} {p : α → Bool} {before l after : List α}

theorem dropWhile_of_forall (h : ∀ a ∈ l, p a = false) : l.dropWhile p = l := by
  cases l with
  | nil => rfl
  | cons a l => simp [h a List.mem_cons_self]

theorem strip_padded (hbefore : ∀ a ∈ before, p a = true) (hl : ∀ a ∈ l, p a = false)
    (hafter : ∀ a ∈ after, p a = true) : strip p (before ++ l ++ after) = l := by
  have hback : ∀ a ∈ after.reverse, p a = true := fun a ha => hafter a (List.mem_reverse.1 ha)
  have hrev : ∀ a ∈ l.reverse, p a = false := fun a ha => hl a (List.mem_reverse.1 ha)
  unfold strip
  rw [List.append_assoc, List.dropWhile_append_of_pos hbefore]
  cases l with
  | nil =>
      have hnone : (after ++ []).dropWhile p = [] := List.dropWhile_append_of_pos hafter
      rw [List.append_nil] at hnone
      rw [List.nil_append, hnone]
      rfl
  | cons a l =>
      have hstart : (a :: l ++ after).dropWhile p = a :: l ++ after := by
        simp [hl a List.mem_cons_self]
      rw [hstart, List.reverse_append, List.dropWhile_append_of_pos hback, dropWhile_of_forall hrev,
        List.reverse_reverse]

/-- What is dropped at the ends satisfies the property. -/
theorem strip_append (p : α → Bool) (l : List α) :
    ∃ before after, l = before ++ strip p l ++ after ∧ (∀ a ∈ before, p a = true) ∧
      ∀ a ∈ after, p a = true := by
  have hstart : l.takeWhile p ++ l.dropWhile p = l := List.takeWhile_append_dropWhile
  have hend : (l.dropWhile p).reverse.takeWhile p ++ (l.dropWhile p).reverse.dropWhile p =
      (l.dropWhile p).reverse := List.takeWhile_append_dropWhile
  refine ⟨l.takeWhile p, ((l.dropWhile p).reverse.takeWhile p).reverse, ?_, ?_, ?_⟩
  · rw [strip, List.append_assoc, ← List.reverse_append, hend, List.reverse_reverse, hstart]
  · intro a ha
    exact List.all_eq_true.1 List.all_takeWhile a ha
  · intro a ha
    exact List.all_eq_true.1 List.all_takeWhile a (List.mem_reverse.1 ha)

end Ends

/-- A text without any blanks. -/
def IsWord (s : String) : Prop :=
  ∀ c ∈ s.toList, isBlank c = false

instance (s : String) : Decidable (IsWord s) :=
  decidable_of_iff (s.toList.all (fun c => !isBlank c) = true) (by simp [IsWord])

theorem IsWord.append {s t : String} (hs : IsWord s) (ht : IsWord t) : IsWord (s ++ t) := by
  intro c hc
  rw [String.toList_append, List.mem_append] at hc
  exact hc.elim (hs c) (ht c)

theorem isBlank_of_isDigit {c : Char} (h : c.isDigit = true) : isBlank c = false := by
  simp only [Char.isDigit, Bool.and_eq_true, decide_eq_true_eq, UInt32.le_iff_toNat_le] at h
  have hlow : 48 ≤ c.toNat := h.1
  have hhigh : c.toNat ≤ 57 := h.2
  simp only [isBlank, blankRanges, List.any_cons, List.any_nil, Bool.or_eq_false_iff,
    Bool.and_eq_false_iff, decide_eq_false_iff_not, and_true]
  omega

theorem isWord_of_isDigit {s : String} (h : ∀ c ∈ s.toList, c.isDigit = true) : IsWord s :=
  fun c hc => isBlank_of_isDigit (h c hc)

/-- **Blanks around a word are dropped, and nothing else.** -/
theorem trim_padded {before s after : String} (hbefore : ∀ c ∈ before.toList, isBlank c = true)
    (hs : IsWord s) (hafter : ∀ c ∈ after.toList, isBlank c = true) :
    trim (before ++ s ++ after) = s := by
  rw [trim, String.toList_append, String.toList_append, strip_padded hbefore hs hafter,
    String.ofList_toList]

theorem trim_of_isWord {s : String} (hs : IsWord s) : trim s = s := by
  have h : trim ("" ++ s ++ "") = s := trim_padded (by simp) hs (by simp)
  rwa [String.empty_append, String.append_empty] at h

/-- A text is another one with blanks around it. -/
def Padded (s t : String) : Prop :=
  ∃ before after : String, s = before ++ t ++ after ∧
    (∀ c ∈ before.toList, isBlank c = true) ∧ ∀ c ∈ after.toList, isBlank c = true

theorem padded_trim (s : String) : Padded s (trim s) := by
  obtain ⟨before, after, hs, hbefore, hafter⟩ := strip_append isBlank s.toList
  refine ⟨String.ofList before, String.ofList after, ?_, ?_, ?_⟩
  · rw [← String.toList_inj, String.toList_append, String.toList_append, String.toList_ofList,
      String.toList_ofList, trim, String.toList_ofList]
    exact hs
  · rwa [String.toList_ofList]
  · rwa [String.toList_ofList]

/-- **A word is what is left of a text iff the text is that word with blanks around it.** -/
theorem trim_eq_iff {s t : String} (ht : IsWord t) : trim s = t ↔ Padded s t := by
  constructor
  · rintro rfl
    exact padded_trim s
  · rintro ⟨before, after, rfl, hbefore, hafter⟩
    exact trim_padded hbefore ht hafter

/-- What follows a given start. -/
theorem withoutPrefix?_eq_some_iff {start s rest : String} :
    withoutPrefix? start s = some rest ↔ s = start ++ rest := by
  unfold withoutPrefix?
  rw [← String.toList_inj, String.toList_append]
  split
  · rename_i h
    obtain ⟨more, hmore⟩ := List.isPrefixOf_iff_prefix.1 h
    rw [← hmore, List.drop_left, List.append_cancel_left_eq, Option.some.injEq,
      ← String.toList_inj, String.toList_ofList]
  · rename_i h
    constructor
    · intro hnone
      cases hnone
    · intro hs
      exact absurd (List.isPrefixOf_iff_prefix.2 ⟨_, hs.symm⟩) h

theorem withoutPrefix?_append (start rest : String) :
    withoutPrefix? start (start ++ rest) = some rest :=
  withoutPrefix?_eq_some_iff.2 rfl

/-- A text does not start with a character that is not in it. -/
theorem withoutPrefix?_eq_none {start s : String} {c : Char} (hstart : c ∈ start.toList)
    (hs : c ∉ s.toList) : withoutPrefix? start s = none := by
  cases h : withoutPrefix? start s with
  | none => rfl
  | some rest =>
      rw [withoutPrefix?_eq_some_iff.1 h, String.toList_append] at hs
      exact absurd (List.mem_append_left _ hstart) hs

/-! ### Separators -/

/-- A list is cut into the pieces between its separators. -/
inductive Cut {α : Type} (p : α → Bool) : List α → List (List α) → Prop
  | last {piece : List α} (h : ∀ a ∈ piece, p a = false) : Cut p piece [piece]
  | more {piece rest : List α} {sep : α} {pieces : List (List α)} (h : ∀ a ∈ piece, p a = false)
      (hsep : p sep = true) (hrest : Cut p rest pieces) :
      Cut p (piece ++ sep :: rest) (piece :: pieces)

section Separators

variable {α : Type} {p : α → Bool} {l : List α} {pieces : List (List α)}

/-- One more element before the first separator belongs to the first piece. -/
theorem Cut.cons {a : α} (ha : p a = false) (h : Cut p l pieces) :
    Cut p (a :: l) (pieces.modifyHead (a :: ·)) := by
  cases h with
  | last hpiece => exact .last (List.forall_mem_cons.2 ⟨ha, hpiece⟩)
  | @more piece rest sep pieces hpiece hsep hrest =>
      have hmore : Cut p ((a :: piece) ++ sep :: rest) ((a :: piece) :: pieces) :=
        .more (List.forall_mem_cons.2 ⟨ha, hpiece⟩) hsep hrest
      exact hmore

theorem cut_splitOnP (l : List α) : Cut p l (l.splitOnP p) := by
  induction l with
  | nil => exact .last (by simp)
  | cons a l ih =>
      rw [List.splitOnP_cons_eq_if_modifyHead]
      split
      · rename_i ha
        have hmore : Cut p ([] ++ a :: l) ([] :: l.splitOnP p) := .more (by simp) ha ih
        exact hmore
      · rename_i ha
        exact ih.cons (Bool.eq_false_iff.2 ha)

/-- **A list is cut in one way.** -/
theorem cut_iff : Cut p l pieces ↔ pieces = l.splitOnP p := by
  constructor
  · intro h
    induction h with
    | last hpiece => exact (List.splitOnP_eq_singleton hpiece).symm
    | more hpiece hsep _ ih =>
        rw [List.splitOnP_append_cons_of_forall_mem hpiece _ hsep, ih]
  · rintro rfl
    exact cut_splitOnP l

end Separators

end Offload.Text
