import SqlConsole.Proofs.World.Discreet
import SqlConsole.Proofs.World.Sinks

/-! Worlds that differ in what text went to one sink. -/
namespace SqlConsole.World
variable {k : Sink} {w w' w₁ w₁' : World}

/-- What was done, the latest first, without the text that went to the sink. -/
def others (w : World) (k : Sink) : List Deed := w.past.filter fun d => (d.textTo? k).isNone

/-- The worlds have the same script, the same targets and the same past, but for text that went to the
sink. All others that are open have got the same. -/
structure SameBut (k : Sink) (w w' : World) : Prop where
  script : w.script = w'.script
  logging : w.logging = w'.logging
  taking : w.taking = w'.taking
  target : ∀ id, w.target? id = w'.target? id
  handle : ∀ id, k.id? ≠ some id → w.handle? id = w'.handle? id
  others : w.others k = w'.others k

theorem others_of_past {d : Deed} (h : w'.past = d :: w.past) (k : Sink) :
    w'.others k = if (d.textTo? k).isNone then d :: w.others k else w.others k := by
  rw [others, h, List.filter_cons]
  rfl

/-- Nothing that the engine is given is text for a sink. -/
theorem given_eq_others (w : World) (k : Sink) :
    w.given = ((w.others k).filterMap Deed.given?).reverse := by
  rw [given, others, List.filterMap_filter]
  congr 2
  funext d
  cases d <;> simp [Deed.textTo?, Deed.given?]

namespace SameBut

protected theorem refl (k : Sink) (w : World) : SameBut k w w :=
  ⟨rfl, rfl, rfl, fun _ => rfl, fun _ _ => rfl, rfl⟩

/-- What is counted, and what else does not show, may differ. -/
theorem of_eq (hscript : w.script = w'.script) (hlogging : w.logging = w'.logging)
    (htaking : w.taking = w'.taking) (hhandles : w.handles = w'.handles) (hpast : w.past = w'.past) :
    SameBut k w w' where
  script := hscript
  logging := hlogging
  taking := htaking
  target id := by rw [target?, target?, handle?, handle?, hhandles]
  handle id _ := by rw [handle?, handle?, hhandles]
  others := by rw [World.others, World.others, hpast]

theorem symm (h : SameBut k w w') : SameBut k w' w :=
  ⟨h.script.symm, h.logging.symm, h.taking.symm, fun id => (h.target id).symm,
    fun id hid => (h.handle id hid).symm, h.others.symm⟩

theorem trans (h : SameBut k w w') (h' : SameBut k w' w₁) : SameBut k w w₁ :=
  ⟨h.script.trans h'.script, h.logging.trans h'.logging, h.taking.trans h'.taking,
    fun id => (h.target id).trans (h'.target id), fun id hid => (h.handle id hid).trans (h'.handle id hid),
    h.others.trans h'.others⟩

theorem given (h : SameBut k w w') : w.given = w'.given := by
  rw [given_eq_others w k, given_eq_others w' k, h.others]

theorem isOpen_iff (h : SameBut k w w') (k' : Sink) : w.IsOpen k' ↔ w'.IsOpen k' := by
  cases k' <;> simp [IsOpen, h.target]

theorem accepts_iff (h : SameBut k w w') (k' : Sink) : w.Accepts k' ↔ w'.Accepts k' :=
  accepts_congr (h.isOpen_iff k') (refuses_congr h.taking k')

/-- The same is done in both worlds. -/
theorem noted (h : SameBut k w w') {d : Deed} (hw : w₁.past = d :: w.past)
    (hw' : w₁'.past = d :: w'.past) : w₁.others k = w₁'.others k := by
  rw [others_of_past hw, others_of_past hw', h.others]

/-- Text goes to some sink in both worlds, or is passed on there, and no other one is left with anything
else than in the other world. -/
theorem stays {k' : Sink} (h : SameBut k w w') (hw : Stays k' w w₁) (hw' : Stays k' w' w₁')
    (hothers : w₁.others k = w₁'.others k)
    (hhandle : ∀ id, k'.id? = some id → k.id? ≠ some id → w₁.handle? id = w₁'.handle? id) :
    SameBut k w₁ w₁' where
  script := by rw [hw.script, hw'.script, h.script]
  logging := by rw [hw.logging, hw'.logging, h.logging]
  taking := by rw [hw.taking, hw'.taking, h.taking]
  target id := by rw [hw.target, hw'.target, h.target]
  handle id hid := by
    by_cases hk' : k'.id? = some id
    · exact hhandle id hk' hid
    · rw [hw.others id hk', hw'.others id hk', h.handle id hid]
  others := hothers

/-- Text that goes to the sink itself is left out. -/
theorem of_texts (hw : Stays k w w') (texts : List String)
    (hpast : w'.past = (texts.map (.wrote k)).reverse ++ w.past) : SameBut k w' w where
  script := hw.script
  logging := hw.logging
  taking := hw.taking
  target := hw.target
  handle := hw.others
  others := by
    have hnone : (texts.map (Deed.wrote k)).reverse.filter (fun d => (d.textTo? k).isNone) = [] := by
      simp [List.filter_eq_nil_iff, Deed.textTo?]
    rw [World.others, hpast, List.filter_append, hnone, List.nil_append, World.others]

theorem of_stays (hw : Stays k w w') {text : String} (hpast : w'.past = .wrote k text :: w.past) :
    SameBut k w' w := of_texts hw [text] hpast

end SameBut
end SqlConsole.World
