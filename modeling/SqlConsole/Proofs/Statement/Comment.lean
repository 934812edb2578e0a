import SqlConsole.Proofs.Statement.Filler

/-! Where a block comment ends, and which text in one keeps it a comment. -/
namespace SqlConsole.Statement

/-- In a block comment the scan looks for the first end. -/
theorem isBlankFrom_block (s : List Char) :
    isBlankFrom .block s = (throughComment s).any fun p => isBlank p.2 := by
  generalize hplace : Place.block = place
  fun_induction isBlankFrom place s with
  | case5 => rfl
  | case6 r => rfl
  | case7 c r hend ih => rw [ih hplace, throughComment.eq_3 c r hend, Option.any_map]
  | _ => cases hplace

theorem NoEnd.of_not_mem {u : List Char} (h : '/' ∉ u) : NoEnd u := by
  intro hi
  have hmem : '/' ∈ u ++ ['*'] := hi.subset (by simp)
  simp [h] at hmem

theorem noEnd_of_throughComment {s : List Char} (h : throughComment s = none) : NoEnd s := by
  fun_induction throughComment s with
  | case1 => exact .nil
  | case2 => cases h
  | case3 c r hend ih =>
    refine (ih (Option.map_eq_none_iff.1 h)).cons (r := []) fun t hc ht => ?_
    cases r with
    | nil => simp at ht
    | cons d r => exact hend r hc (by rw [(List.cons.inj ht).1])

/-- Text that holds no end of a comment, and does not come to one with the text behind it. -/
theorem throughComment_append {u s : List Char} (hu : NoEnd u)
    (hjoint : u.getLast? = some '*' → s.head? ≠ some '/') :
    throughComment (u ++ s) = (throughComment s).map fun p => (u ++ p.1, p.2) := by
  induction u with
  | nil => simp
  | cons c u ih =>
    have hend : ∀ r, c = '*' → u ++ s = '/' :: r → False := by
      rintro r rfl hr
      cases u with
      | nil => exact hjoint rfl (by rw [List.nil_append] at hr; rw [hr]; rfl)
      | cons d u =>
        obtain ⟨rfl, -⟩ := List.cons.inj hr
        exact hu ⟨[], u ++ ['*'], by simp⟩
    have hrest := ih hu.of_cons fun hlast => hjoint (by
      cases u with
      | nil => cases hlast
      | cons d u => rw [List.getLast?_cons_cons]; exact hlast)
    rw [List.cons_append, throughComment.eq_3 c (u ++ s) hend, hrest, Option.map_map]
    rfl

/-- Text between the two ends of a comment is nothing but white space and comments where it holds no
end of a comment itself, or where what follows the first one is nothing else with the rest. -/
theorem isBlank_comment {lead ending closing : List Char} (hlead : '/' ∉ lead)
    (hending : ending.head? = some ' ') (hclosing : throughComment ending = some (closing, ['\n']))
    (message : List Char) :
    isBlank ('/' :: '*' :: (lead ++ ' ' :: (message ++ ending))) ↔
      ∀ u v, throughComment message = some (u, v) → isBlank (v ++ ending) := by
  have hopen : throughComment (lead ++ ' ' :: (message ++ ending)) =
      (throughComment (message ++ ending)).map fun p => (lead ++ ' ' :: p.1, p.2) := by
    rw [throughComment_append (.of_not_mem hlead) fun _ => by simp,
      throughComment.eq_3 ' ' _ (by simp), Option.map_map]
    rfl
  have hblank : isBlank ('/' :: '*' :: (lead ++ ' ' :: (message ++ ending))) =
      (throughComment (message ++ ending)).any fun p => isBlank p.2 := by
    rw [← Option.any_map (f := fun p : List Char × List Char => (lead ++ ' ' :: p.1, p.2))
      (p := fun p => isBlank p.2), ← hopen]
    exact isBlankFrom_block _
  rw [hblank]
  cases hmessage : throughComment message with
  | none =>
    have hjoined := throughComment_append (s := ending) (noEnd_of_throughComment hmessage)
      fun _ => by simp [hending]
    rw [hjoined, hclosing]
    simp only [Option.map_some, Option.any_some, reduceCtorEq, false_implies, implies_true, iff_true]
    rfl
  | some p =>
    obtain ⟨u, v⟩ := p
    have hfound := find_extend (f := .blockEnd) hmessage ending
    rw [show throughComment (message ++ ending) = some (u, v ++ ending) from hfound]
    constructor
    · rintro h _ _ ⟨rfl, rfl⟩
      exact h
    · exact fun h => h u v rfl

end SqlConsole.Statement
