import Mathlib.Data.List.TakeWhile
import SqlConsole.Text.Reader

/-! Where the lines of a text end. -/
namespace SqlConsole.Text

theorem attach_ne_nil (c : Char) (ls : List (List Char)) : attach c ls ≠ [] := by
  cases ls <;> simp [attach]

theorem foldr_attach_cons (s l : List Char) (ls : List (List Char)) :
    s.foldr attach (l :: ls) = (s ++ l) :: ls := by
  induction s with
  | nil => rfl
  | cons c s ih => rw [List.foldr_cons, ih]; rfl

theorem foldr_attach_nil {s : List Char} (hs : s ≠ []) : s.foldr attach [] = [s] := by
  induction s with
  | nil => exact absurd rfl hs
  | cons c s ih =>
    cases s with
    | nil => rfl
    | cons d s => rw [List.foldr_cons, ih (by simp)]; rfl

theorem anyLines_ne_nil {s : List Char} (hs : s ≠ []) : anyLines s ≠ [] := by
  fun_cases anyLines s with
  | case1 => exact absurd rfl hs
  | case2 r => simp
  | case3 c r => simp
  | case4 c r => exact attach_ne_nil _ _

theorem isLineEnd_iff (c : Char) : isLineEnd c ↔ c = '\n' ∨ c = '\r' := by simp [isLineEnd]

theorem anyLines_crlf (r : List Char) : anyLines ('\r' :: '\n' :: r) = ['\r', '\n'] :: anyLines r := by
  rw [anyLines]

/-- A line end that is one character: no LF belongs to it. -/
theorem anyLines_lineEnd {c : Char} {r : List Char} (hc : isLineEnd c)
    (hr : c = '\r' → r.head? ≠ some '\n') : anyLines (c :: r) = [c] :: anyLines r := by
  rw [anyLines]
  · rw [if_pos ((isLineEnd_iff c).1 hc)]
  · rintro r' rfl rfl
    exact hr rfl rfl

theorem anyLines_of_not_lineEnd {c : Char} {r : List Char} (hc : ¬ isLineEnd c) :
    anyLines (c :: r) = attach c (anyLines r) := by
  rw [anyLines]
  · rw [if_neg fun h => hc ((isLineEnd_iff c).2 h)]
  · rintro r' rfl rfl
    exact hc rfl

theorem anyLines_append {s : List Char} (hs : ∀ c ∈ s, ¬ isLineEnd c) (t : List Char) :
    anyLines (s ++ t) = s.foldr attach (anyLines t) := by
  induction s with
  | nil => rfl
  | cons c s ih =>
    rw [List.cons_append, anyLines_of_not_lineEnd (hs c List.mem_cons_self), List.foldr_cons,
      ih fun d hd => hs d (List.mem_cons_of_mem c hd)]

private theorem not_lineEnd_of_mem_takeWhile {s : List Char} :
    ∀ c ∈ s.takeWhile (!isLineEnd ·), ¬ isLineEnd c := by
  intro c hc
  simpa using List.mem_takeWhile_imp hc

/-- The line that is cut off is the first one, also of a text that goes on. What follows must not be
an LF that belongs to a CR at the end. -/
theorem anyLines_of_cutLine? {s l r : List Char} (h : cutLine? s = some (l, r)) (t : List Char)
    (ht : s.getLast? = some '\r' → t.head? ≠ some '\n') :
    anyLines (s ++ t) = l :: anyLines (r ++ t) := by
  have hs := List.takeWhile_append_dropWhile (p := (!isLineEnd ·)) (l := s)
  generalize hpre : s.takeWhile (!isLineEnd ·) = pre at hs
  have hplain : ∀ c ∈ pre, ¬ isLineEnd c := hpre ▸ not_lineEnd_of_mem_takeWhile
  unfold cutLine? at h
  rw [hpre] at h
  split at h
  · simp at h
  · next d hd =>
    obtain ⟨rfl, rfl⟩ : pre ++ ['\r', '\n'] = l ∧ d = r := by simpa using h
    rw [← hs, hd, List.append_assoc, anyLines_append hplain, List.cons_append, List.cons_append,
      anyLines_crlf, foldr_attach_cons]
  · next c d hcrlf hd =>
    obtain ⟨rfl, rfl⟩ : pre ++ [c] = l ∧ d = r := by simpa using h
    have hc : isLineEnd c := by
      have := List.head?_dropWhile_not (!isLineEnd ·) s
      simpa [hd] using this
    have hnext : c = '\r' → (d ++ t).head? ≠ some '\n' := by
      rintro rfl
      cases d with
      | nil => exact ht (by rw [← hs, hd]; simp)
      | cons e d =>
        intro he
        obtain rfl : e = '\n' := by simpa using he
        exact hcrlf d rfl rfl
    rw [← hs, hd, List.append_assoc, anyLines_append hplain, List.cons_append,
      anyLines_lineEnd hc hnext, foldr_attach_cons]

theorem not_lineEnd_of_cutLine? {s : List Char} (h : cutLine? s = none) :
    ∀ c ∈ s, ¬ isLineEnd c := by
  have hnil : s.dropWhile (!isLineEnd ·) = [] := by
    unfold cutLine? at h
    split at h <;> simp_all
  intro c hc
  simpa using List.dropWhile_eq_nil_iff.1 hnil c hc

private theorem forall_mem_attach {c : Char} {ls : List (List Char)} (hls : ∀ l ∈ ls, l ≠ []) :
    ∀ l ∈ attach c ls, l ≠ [] := by
  cases ls with
  | nil => simp [attach]
  | cons l ls =>
    intro l' hl'
    rcases List.mem_cons.1 hl' with rfl | hl'
    · simp
    · exact hls l' (List.mem_cons_of_mem l hl')

theorem ne_nil_of_mem_anyLines {s : List Char} : ∀ l ∈ anyLines s, l ≠ [] := by
  fun_induction anyLines s with
  | case1 => simp
  | case2 r ih => simpa using ih
  | case3 c r _ h ih => simpa using ih
  | case4 c r _ h ih => exact forall_mem_attach ih

private theorem length_attach_le (c : Char) (ls : List (List Char)) :
    (attach c ls).length ≤ ls.length + 1 := by cases ls <;> simp [attach]

theorem length_anyLines_le (s : List Char) : (anyLines s).length ≤ s.length := by
  fun_induction anyLines s with
  | case1 => simp
  | case2 r ih => simp only [List.length_cons]; omega
  | case3 c r _ h ih => simp only [List.length_cons]; omega
  | case4 c r _ h ih => exact (length_attach_le c _).trans (Nat.succ_le_succ ih)

end SqlConsole.Text
