import SqlConsole.Proofs.Text.Lines

/-! What the lines of a text end with. -/
namespace SqlConsole.Text

/-- What a line ends with. The last line of a text may end with nothing. -/
def lineEnd (line : List Char) : List Char := line.dropWhile (!isLineEnd ·)

def lineEnds : List (List Char) := [[], ['\n'], ['\r', '\n'], ['\r']]

/-- A line without its end. -/
def lineBody (line : List Char) : List Char := line.takeWhile (!isLineEnd ·)

theorem lineBody_append_lineEnd (line : List Char) : lineBody line ++ lineEnd line = line :=
  List.takeWhile_append_dropWhile

theorem not_lineEnd_of_mem_lineBody {line : List Char} {c : Char} (hc : c ∈ lineBody line) :
    ¬ isLineEnd c := by
  simpa using List.mem_takeWhile_imp hc

theorem lineEnd_cons {c : Char} (hc : ¬ isLineEnd c) (line : List Char) :
    lineEnd (c :: line) = lineEnd line :=
  List.dropWhile_cons_of_pos (by simpa using hc)

theorem lineEnd_mem_lineEnds {s : List Char} : ∀ l ∈ anyLines s, lineEnd l ∈ lineEnds := by
  fun_induction anyLines s with
  | case1 => simp
  | case2 r ih => exact List.forall_mem_cons.2 ⟨by decide, ih⟩
  | case3 c r _ h ih =>
    refine List.forall_mem_cons.2 ⟨?_, ih⟩
    rcases h with rfl | rfl <;> decide
  | case4 c r _ h ih =>
    have hcons := lineEnd_cons fun hc => h ((isLineEnd_iff c).1 hc)
    cases hr : anyLines r with
    | nil =>
      rw [attach, List.forall_mem_singleton, hcons]
      decide
    | cons l ls =>
      rw [hr, List.forall_mem_cons] at ih
      rw [attach, List.forall_mem_cons, hcons]
      exact ih

/-- Where a line starts with an LF, the line before it does not end with a CR: both would be one line
end. -/
theorem getLast?_ne_of_anyLines {s : List Char} {pre post : List (List Char)} {l : List Char}
    (h : anyLines s = pre ++ l :: post) (hl : l.head? = some '\n') :
    pre.flatten.getLast? ≠ some '\r' := by
  -- Only the character that the first line gets in front can be the last one of all before `l`.
  have hfirst {c : Char} {t : List Char} (hc : t = [] → c ≠ '\r') (ht : t.getLast? ≠ some '\r') :
      (c :: t).getLast? ≠ some '\r' := by
    cases t with
    | nil => simpa using hc rfl
    | cons d t => rwa [List.getLast?_cons_cons]
  fun_induction anyLines s generalizing pre with
  | case1 => simp at h
  | case2 r ih =>
    cases pre with
    | nil => simp
    | cons p pre =>
      obtain ⟨rfl, hr⟩ := List.cons.inj h
      exact hfirst (by simp) (hfirst (by simp) (ih hr))
  | case3 c r hcrlf hc ih =>
    cases pre with
    | nil => simp
    | cons p pre =>
      obtain ⟨rfl, hr⟩ := List.cons.inj h
      refine hfirst ?_ (ih hr)
      rintro hpre rfl
      have hnil : pre = [] := by
        refine List.eq_nil_iff_forall_not_mem.2 fun l' hl' => ?_
        have hmem : l' ∈ anyLines r := by rw [hr]; exact List.mem_append_left _ hl'
        exact ne_nil_of_mem_anyLines l' hmem (List.flatten_eq_nil_iff.1 hpre l' hl')
      have hstart : r.head? = some '\n' := by
        obtain ⟨t, rfl⟩ := List.head?_eq_some_iff.1 hl
        rw [← flatten_anyLines r, hr, hnil]
        rfl
      obtain ⟨r', hr'⟩ := List.head?_eq_some_iff.1 hstart
      exact hcrlf r' rfl hr'
  | case4 c r _ hc ih =>
    have hreturn : c ≠ '\r' := fun h => hc (.inr h)
    cases pre with
    | nil => simp
    | cons p pre =>
      cases hr : anyLines r with
      | nil =>
        rw [hr, attach] at h
        simp at h
      | cons l' ls =>
        rw [hr, attach] at h
        obtain ⟨rfl, rfl⟩ := List.cons.inj h
        have hsplit : anyLines r = (l' :: pre) ++ l :: post := hr
        exact hfirst (fun _ => hreturn) (ih hsplit)

end SqlConsole.Text
