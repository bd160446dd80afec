import Mathlib.Data.List.Basic
import Mathlib.Logic.Function.Basic

set_option autoImplicit false

variable {Index Item : Type} [DecidableEq Index]

/-- `tagged` says of each item of the whole which part it comes from. -/
def Interleaving (parts : Index → List Item) (whole : List Item) : Prop :=
  ∃ tagged : List (Index × Item), tagged.map Prod.snd = whole ∧
    ∀ index, (tagged.filter fun entry => entry.1 = index).map Prod.snd = parts index

namespace Interleaving

theorem empty : Interleaving (fun _ : Index => ([] : List Item)) [] :=
  ⟨[], rfl, fun _ => rfl⟩

theorem next {parts : Index → List Item} {whole : List Item} (merged : Interleaving parts whole)
    (index : Index) (item : Item) :
    Interleaving (Function.update parts index (parts index ++ [item])) (whole ++ [item]) := by
  obtain ⟨tagged, same, each⟩ := merged
  refine ⟨tagged ++ [(index, item)], by simp [same], ?_⟩
  intro other
  by_cases own : other = index
  · subst own
    simp [List.filter_append, each]
  · have apart : ¬index = other := fun same => own same.symm
    simp [List.filter_append, each, own, apart]

end Interleaving
